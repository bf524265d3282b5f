import ClassMaps.Token.Scan

/-!
# Scanning loses nothing

The gaps and lexemes that the scanner takes off a source print as the source.
-/

set_option autoImplicit false

namespace ClassMaps

theorem Gap.print_nil (newline : Text) : Gap.print newline [] = [] := rfl

theorem Gap.print_append (newline : Text) (g h : Gap) :
    Gap.print newline (g ++ h) = Gap.print newline g ++ Gap.print newline h := by
  simp [Gap.print]

theorem Token.printAll_cons (newline : Text) (token : Token) (rest : List Token) :
    Token.printAll newline (token :: rest) =
      Gap.print newline token.gap ++ token.text ++ Token.printAll newline rest := by
  simp [Token.printAll, Token.print]

namespace Scan

theorem print_push (newline t : Text) (g : Gap) :
    Gap.print newline (push t g) = t ++ Gap.print newline g := by
  fun_cases push t g <;> simp [Gap.print, Trivia.print]

theorem print_pushBreak (newline t : Text) (g : Gap) :
    Gap.print newline (pushBreak newline t g) = t ++ Gap.print newline g := by
  fun_cases pushBreak newline t g with
  | case1 same => simp [Gap.print, Trivia.print, same]
  | case2 other => exact print_push newline t g

theorem print_pushIndent (newline : Text) (c : CodePoint) (g : Gap) :
    Gap.print newline (pushIndent c g) = c :: Gap.print newline g := by
  fun_cases pushIndent c g <;> simp [Gap.print, Trivia.print]

/-- A gap and the rest after it are the text they were taken from. -/
theorem print_gap (newline indent : Text) (breaks comment : Bool) (margin : Nat) (s : Text) :
    Gap.print newline (gap newline indent breaks comment margin s).1 ++
      (gap newline indent breaks comment margin s).2 = s := by
  fun_induction gap newline indent breaks comment margin s <;>
    simp_all [print_push, print_pushBreak, print_pushIndent, Gap.print_nil]

theorem print_gapIn (newline : Text) (state : State) (s : Text) :
    Gap.print newline (gapIn newline state s).1 ++ (gapIn newline state s).2 = s :=
  print_gap newline state.indentation (!state.brackets.isEmpty) false 0 s

/-- Lines without a token and the rest after them are the text they were taken
from. -/
theorem print_blankLines (newline : Text) (inside : Bool) (s : Text) :
    Gap.print newline (blankLines newline inside s).1 ++ (blankLines newline inside s).2 = s := by
  fun_induction blankLines newline inside s with
  | case2 inside c blank =>
      dsimp only
      split <;> simp [print_push, print_pushBreak, Gap.print_nil]
  | _ => simp_all [print_push, print_pushBreak, Gap.print_nil]

theorem print_dedents (newline : Text) (n : Nat) : Token.printAll newline (dedents n) = [] := by
  induction n with
  | zero => rfl
  | succ n ih =>
      have split : dedents (n + 1) = ⟨.dedent, [], []⟩ :: dedents n := rfl
      rw [split, Token.printAll_cons, ih]
      rfl

/-- The tokens found in a rest print as the rest. -/
def Faithful (newline : Text) (next : Next) : Prop :=
  ∀ state s tokens, next state s = some tokens → Token.printAll newline tokens = s

theorem print_lexed (newline : Text) {next : Next} (faithful : Faithful newline next) (found : Gap)
    (rest : Text) (lex : Option (Kind × Nat × State)) (tokens : List Token)
    (given : lexed next found rest lex = some tokens) :
    Token.printAll newline tokens = Gap.print newline found ++ rest := by
  match lex with
  | none => cases given
  | some (kind, n, state) =>
      obtain ⟨after, afterFound, rfl⟩ := Option.map_eq_some_iff.1 given
      rw [Token.printAll_cons, faithful state _ after afterFound]
      simp

theorem print_inLine (newline : Text) {next : Next} (faithful : Faithful newline next)
    (state : State) (before : Gap) (s : Text) (tokens : List Token)
    (given : inLine newline next state before s = some tokens) :
    Token.printAll newline tokens = Gap.print newline before ++ s := by
  have whole := print_gapIn newline state s
  simp only [inLine] at given
  split at given
  · rename_i ends
    rw [ends, List.append_nil] at whole
    split at given
    · obtain ⟨after, afterFound, rfl⟩ := Option.map_eq_some_iff.1 given
      rw [Token.printAll_cons, faithful _ _ after afterFound, Gap.print_append, whole]
      simp
    · cases given
  · rename_i c after goesOn
    rw [print_lexed newline faithful _ _ _ tokens given, Gap.print_append, List.append_assoc,
      ← goesOn, whole]

theorem print_atLine (newline : Text) {next : Next} (faithful : Faithful newline next)
    (state : State) (found : Gap) (rest : Text) (tokens : List Token)
    (given : atLine newline next state found rest = some tokens) :
    Token.printAll newline tokens = Gap.print newline found ++ rest := by
  simp only [atLine] at given
  split at given
  · exact print_inLine newline faithful state found rest tokens given
  · split at given
    · cases given
    · exact print_inLine newline faithful state found rest tokens given
    · obtain ⟨after, afterFound, rfl⟩ := Option.map_eq_some_iff.1 given
      rw [Token.printAll_cons, faithful _ _ after afterFound]
      simp
    · rename_i count left _
      obtain ⟨after, afterFound, rfl⟩ := Option.map_eq_some_iff.1 given
      have printed : ∀ more : List Token, Token.printAll newline (dedents (count - 1) ++ more) =
          Token.printAll newline more := by
        intro more
        have none := print_dedents newline (count - 1)
        simp only [Token.printAll] at none
        simp only [Token.printAll, List.flatMap_append, none, List.nil_append]
      rw [printed, Token.printAll_cons, faithful _ _ after afterFound]
      simp

theorem print_round (newline : Text) {next : Next} (faithful : Faithful newline next) :
    Faithful newline (round newline next) := by
  intro state s tokens given
  unfold round at given
  split at given
  · simpa [Gap.print_nil] using print_lexed newline faithful [] s _ tokens given
  · split at given
    · simpa [Gap.print_nil] using print_inLine newline faithful state [] s tokens given
    · have whole := print_blankLines newline false s
      dsimp only at given
      split at given
      · rename_i ends
        cases given
        rw [ends, List.append_nil] at whole
        have none := print_dedents newline state.levels.length
        simp only [Token.printAll] at none
        simp [Token.printAll, none, Token.print, whole]
      · rename_i c after goesOn
        rw [print_atLine newline faithful state _ _ tokens given, ← goesOn, whole]

theorem print_tokensFrom (newline : Text) (fuel : Nat) :
    Faithful newline (tokensFrom newline fuel) := by
  induction fuel with
  | zero => intro state s tokens given; cases given
  | succ fuel ih => exact print_round newline ih

end Scan

/-- The tokens of a source print as the source. -/
theorem Token.print_scan? (newline source : Text) (tokens : List Token)
    (given : Token.scan? newline source = some tokens) :
    Token.printAll newline tokens = source :=
  Scan.print_tokensFrom newline _ _ source tokens given

end ClassMaps
