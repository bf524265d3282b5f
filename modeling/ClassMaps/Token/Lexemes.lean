import ClassMaps.Token.Scan

/-!
# What is known of lexemes

Every token with a text of its own is a lexeme that was cut off a rest.  So what
holds of all lexemes holds of all tokens that the scanner finds, if it holds of the
tokens without text as well: of line ends, changes of indentation and the end.
-/

set_option autoImplicit false

namespace ClassMaps

/-- Each token is as it should be for its kind. -/
def Token.All (fits : Kind → Text → Prop) (tokens : List Token) : Prop :=
  ∀ token ∈ tokens, fits token.kind token.text

namespace Scan

/-- A lexeme at the start of the text is as it should be for its kind. -/
def Fits (fits : Kind → Text → Prop) (s : Text) (lex : Option (Kind × Nat × State)) : Prop :=
  ∀ kind n state, lex = some (kind, n, state) → fits kind (s.take n)

/-- All lexemes are as they should be, and so are the tokens without text. -/
structure Fitting (fits : Kind → Text → Prop) : Prop where
  lexeme : ∀ state s, Fits fits s (lexeme state s)
  literal : ∀ state frame s, Fits fits s (literalLexeme state frame s)
  newline : fits .newline []
  indent : fits .indent []
  dedent : fits .dedent []
  finish : fits .finish []

section Stages
variable {fits : Kind → Text → Prop}

theorem all_cons (token : Token) (rest : List Token) :
    Token.All fits (token :: rest) ↔ fits token.kind token.text ∧ Token.All fits rest := by
  simp [Token.All]

variable (fitting : Fitting fits) {next : Next}
  (known : ∀ state s tokens, next state s = some tokens → Token.All fits tokens)
include fitting known

omit fitting in
theorem all_lexed (found : Gap) (rest : Text) (lex : Option (Kind × Nat × State))
    (lexFits : Fits fits rest lex) (tokens : List Token)
    (given : lexed next found rest lex = some tokens) : Token.All fits tokens := by
  match lex with
  | none => cases given
  | some (kind, n, state) =>
      obtain ⟨after, afterFound, rfl⟩ := Option.map_eq_some_iff.1 given
      exact (all_cons _ after).2 ⟨lexFits kind n state rfl, known state _ after afterFound⟩

omit fitting in
/-- A token without text before the tokens of a rest. -/
theorem all_before (state : State) (s : Text) (kind : Kind) (kindFits : fits kind [])
    (found : Gap) (tokens : List Token)
    (given : (next state s).map (⟨kind, found, []⟩ :: ·) = some tokens) :
    Token.All fits tokens := by
  obtain ⟨after, afterFound, rfl⟩ := Option.map_eq_some_iff.1 given
  exact (all_cons _ after).2 ⟨kindFits, known state s after afterFound⟩

omit known in
theorem all_dedents (n : Nat) (tokens : List Token) (rest : Token.All fits tokens) :
    Token.All fits (dedents n ++ tokens) := by
  induction n with
  | zero => exact rest
  | succ n ih => exact (all_cons ⟨.dedent, [], []⟩ _).2 ⟨fitting.dedent, ih⟩

theorem all_inLine (newline : Text) (state : State) (before : Gap) (s : Text)
    (tokens : List Token) (given : inLine newline next state before s = some tokens) :
    Token.All fits tokens := by
  simp only [inLine] at given
  split at given
  · split at given
    · exact all_before known _ _ .newline fitting.newline _ tokens given
    · cases given
  · exact all_lexed known _ _ _ (fitting.lexeme _ _) tokens given

theorem all_atLine (newline : Text) (state : State) (found : Gap) (rest : Text)
    (tokens : List Token) (given : atLine newline next state found rest = some tokens) :
    Token.All fits tokens := by
  simp only [atLine] at given
  split at given
  · exact all_inLine fitting known newline state found rest tokens given
  · split at given
    · cases given
    · exact all_inLine fitting known newline state found rest tokens given
    · exact all_before known _ _ .indent fitting.indent _ tokens given
    · obtain ⟨after, afterFound, rfl⟩ := Option.map_eq_some_iff.1 given
      refine all_dedents fitting _ _ ((all_cons _ after).2 ⟨fitting.dedent, ?_⟩)
      exact known _ _ after afterFound

theorem all_round (newline : Text) (state : State) (s : Text) (tokens : List Token)
    (given : round newline next state s = some tokens) : Token.All fits tokens := by
  unfold round at given
  split at given
  · exact all_lexed known _ _ _ (fitting.literal _ _ _) tokens given
  · split at given
    · exact all_inLine fitting known newline state [] s tokens given
    · dsimp only at given
      split at given
      · cases given
        refine all_dedents fitting _ _ ((all_cons _ _).2 ⟨fitting.finish, ?_⟩)
        intro token member
        cases member
      · exact all_atLine fitting known newline state _ _ tokens given

omit known

theorem all_tokensFrom (newline : Text) (fuel : Nat) (state : State) (s : Text)
    (tokens : List Token) (given : tokensFrom newline fuel state s = some tokens) :
    Token.All fits tokens := by
  induction fuel generalizing state s tokens with
  | zero => cases given
  | succ fuel ih => exact all_round fitting ih newline state s tokens given

end Stages

end Scan

end ClassMaps
