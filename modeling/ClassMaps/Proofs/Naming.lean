import ClassMaps.Module
import ClassMaps.Grammar.Lossless
import ClassMaps.Token.Lexemes

/-!
# Names are identifiers

Every name in the tree of a source is an identifier.  The scanner calls a
lexeme a name only if it is one.  The grammar assembles a name from one token
only, which is such a lexeme or a word that is an identifier itself.  And
assembling anything else makes no name and loses none.
-/

set_option autoImplicit false

namespace ClassMaps

/-! ## The names of a tree -/

def Mark.names : Mark → List Text
  | .keyword name _ _ => [name]
  | _ => []

mutual

/-- The names in an expression in source order, keywords of arguments included. -/
def Expr.names : Expr → List Text
  | .name text => [text]
  | .string _ => []
  | .formatted parts => Part.namesAll parts
  | .concat left _ right => left.names ++ right.names
  | .call function _ _ arguments _ => function.names ++ Slot.namesAll arguments
  | .subscript value _ _ indices _ => value.names ++ Slot.namesAll indices
  | .dict _ elements _ => Element.namesAll elements
  | .other _ parts => Part.namesAll parts
  | .paren _ inner _ => inner.names

def Slot.namesAll : List (Slot Expr) → List Text
  | [] => []
  | ⟨mark, value, _⟩ :: rest => mark.names ++ value.names ++ Slot.namesAll rest

def Element.namesAll : List (Element Expr) → List Text
  | [] => []
  | .pair key _ _ value _ :: rest => key.names ++ value.names ++ Element.namesAll rest
  | .spread _ value _ :: rest => value.names ++ Element.namesAll rest

def Part.namesAll : List (Part Expr) → List Text
  | [] => []
  | .gap _ :: rest => Part.namesAll rest
  | .token _ :: rest => Part.namesAll rest
  | .expr value :: rest => value.names ++ Part.namesAll rest

end

def Module.names (m : Module) : List Text := Part.namesAll m.parts

def Slot.names (slot : Slot Expr) : List Text := Slot.namesAll [slot]

def Element.names (element : Element Expr) : List Text := Element.namesAll [element]

theorem Slot.namesAll_eq (slots : List (Slot Expr)) :
    Slot.namesAll slots = slots.flatMap Slot.names := by
  induction slots with
  | nil => rfl
  | cons slot rest ih => simp [Slot.namesAll, Slot.names, ih]

theorem Element.namesAll_eq (elements : List (Element Expr)) :
    Element.namesAll elements = elements.flatMap Element.names := by
  induction elements with
  | nil => rfl
  | cons element rest ih => cases element <;> simp [Element.namesAll, Element.names, ih]

theorem Part.namesAll_append (parts more : List (Part Expr)) :
    Part.namesAll (parts ++ more) = Part.namesAll parts ++ Part.namesAll more := by
  induction parts with
  | nil => simp [Part.namesAll]
  | cons part rest ih => cases part <;> simp [Part.namesAll, ih]

/-! ## Assembling -/

namespace Fragment

def names : Fragment → List Text
  | .gap _ => []
  | .token _ => []
  | .expr value => value.names
  | .slot s => s.names
  | .element e => e.names

def namesAll (row : List Fragment) : List Text := row.flatMap names

theorem namesAll_parts (f : Fragment) : Part.namesAll f.parts = f.names := by
  have noComma : ∀ comma, Part.namesAll (Comma.parts comma) = [] := by
    intro comma
    cases comma <;> simp [Comma.parts, Part.namesAll]
  cases f with
  | gap trivia => simp [parts, names, Part.namesAll]
  | token t => simp [parts, names, Part.namesAll]
  | expr value => simp [parts, names, Part.namesAll]
  | slot s =>
      obtain ⟨mark, value, comma⟩ := s
      cases mark <;>
        simp [parts, names, Slot.parts, Slot.names, Slot.namesAll, Mark.names, Part.namesAll,
          noComma, Expr.names]
  | element e =>
      cases e <;>
        simp [parts, names, Element.parts, Element.names, Element.namesAll, Part.namesAll, noComma]

theorem namesAll_allParts (row : List Fragment) : Part.namesAll (allParts row) = namesAll row := by
  induction row with
  | nil => rfl
  | cons f rest ih =>
      have split : allParts (f :: rest) = f.parts ++ allParts rest := by simp [allParts]
      rw [split, Part.namesAll_append, namesAll_parts, ih]
      simp [namesAll]

theorem names_otherOf (form : Form) (row : List Fragment) :
    (otherOf form row).names = namesAll row := by
  simp [otherOf, Expr.names, namesAll_allParts]

theorem names_strings? (row : List Fragment) (e : Expr) (found : strings? row = some e) :
    e.names = namesAll row := by
  fun_induction strings? row generalizing e with
  | case1 f => cases found; simp [namesAll, names]
  | case2 f g rest ih =>
      obtain ⟨right, rightFound, rfl⟩ := Option.map_eq_some_iff.1 found
      simp [Expr.names, ih right rightFound, namesAll, names]
  | case3 => cases found

theorem names_argumentOf (row : List Fragment) : (argumentOf row).names = namesAll row := by
  fun_cases argumentOf row <;>
    simp_all [Slot.names, Slot.namesAll, Slot.bare, Mark.names, names_otherOf, namesAll, names,
      Expr.names]

section Rows
variable {ι α : Type} (item? : Fragment → Option ι) (withComma : ι → Comma → ι) (closer : Text)
  (collect : Fragment → List α) (collectItem : ι → List α)
  (noGap : ∀ trivia, collect (.gap trivia) = []) (noToken : ∀ t, collect (.token t) = [])
  (own : ∀ f i, item? f = some i → collectItem i = collect f)
  (ownComma : ∀ f i c, item? f = some i → collectItem (withComma i c) = collect f)
include noGap noToken own ownComma

/-- What is collected from items is collected from the row that they are found in. -/
theorem flatMap_items (row : List Fragment) (found : List ι) (closing : Gap)
    (read : items item? withComma closer row = some (found, closing)) :
    found.flatMap collectItem = row.flatMap collect := by
  fun_induction items item? withComma closer row generalizing found closing with
  | case1 item gap =>
      obtain ⟨i, isItem, same⟩ := Option.map_eq_some_iff.1 read
      cases same
      simp [noGap, noToken, own item i isItem]
  | case4 item before after i isItem =>
      cases read
      simp [noGap, noToken, ownComma item i _ isItem]
  | case6 item before after i isItem rest notEnd ih =>
      obtain ⟨⟨more, last⟩, moreFound, same⟩ := Option.map_eq_some_iff.1 read
      simp only [Prod.mk.injEq] at same
      obtain ⟨rfl, rfl⟩ := same
      simp [noGap, noToken, ownComma item i _ isItem, ih more last moreFound]
  | case2 | case3 | case5 | case7 | case8 => cases read

theorem flatMap_bracketed (row : List Fragment) (opening closing : Gap) (found : List ι)
    (read : bracketed item? withComma closer row = some (opening, found, closing)) :
    found.flatMap collectItem = row.flatMap collect := by
  revert read
  fun_cases bracketed item? withComma closer row with
  | case1 gap =>
      intro read
      cases read
      simp [noGap, noToken]
  | case2 => intro read; cases read
  | case3 gap rest =>
      intro read
      obtain ⟨⟨more, last⟩, moreFound, same⟩ := Option.map_eq_some_iff.1 read
      simp only [Prod.mk.injEq] at same
      obtain ⟨rfl, rfl, rfl⟩ := same
      rw [flatMap_items item? withComma closer collect collectItem noGap noToken own ownComma rest
        more last moreFound]
      simp [noGap]
  | case4 => intro read; cases read

end Rows

theorem namesAll_slots (closer : Text) (row : List Fragment) (opening closing : Gap)
    (found : List (Slot Expr)) (read : slots closer row = some (opening, found, closing)) :
    Slot.namesAll found = namesAll row := by
  rw [Slot.namesAll_eq]
  refine flatMap_bracketed slot? _ closer names Slot.names (fun _ => rfl) (fun _ => rfl) ?_ ?_ row
    opening closing found read
  · intro f s isSlot
    fun_cases slot? f <;> simp_all [slot?, names]
  · intro f s comma isSlot
    fun_cases slot? f
    · simp only [slot?, Option.some.injEq] at isSlot
      subst isSlot
      simp [names, Slot.names, Slot.namesAll]
    · simp_all [slot?]

theorem namesAll_elements (closer : Text) (row : List Fragment) (opening closing : Gap)
    (found : List (Element Expr)) (read : elements closer row = some (opening, found, closing)) :
    Element.namesAll found = namesAll row := by
  rw [Element.namesAll_eq]
  refine flatMap_bracketed element? _ closer names Element.names (fun _ => rfl) (fun _ => rfl) ?_ ?_
    row opening closing found read
  · intro f e isElement
    fun_cases element? f <;> simp_all [element?, names]
  · intro f e comma isElement
    fun_cases element? f
    case case3 => simp_all [element?]
    all_goals
      simp only [element?, Option.some.injEq] at isElement
      subst isElement
      simp [names, Element.withComma, Element.names, Element.namesAll]

/-- Only the label of a name makes a name, and no label loses one. -/
theorem namesAll_assemble (label : Label) (row : List Fragment) (notName : label ≠ .name) :
    namesAll (assemble label row) = namesAll row := by
  fun_cases assemble label row
  case case2 => exact absurd rfl notName
  case case4 =>
      cases found : strings? row with
      | none => simp [namesAll, names, names_otherOf]
      | some e => simp [namesAll, names, names_strings? row e found]
  case case5 =>
      have kept := namesAll_allParts row
      simpa [namesAll, names, Expr.names] using kept
  case case6 =>
      have kept := names_argumentOf row
      simpa [namesAll, names] using kept
  case case11 function g t rest opening arguments closing found =>
      obtain ⟨rfl, read⟩ := Option.ite_none_right_eq_some.1 found
      have kept := namesAll_slots _ rest opening closing arguments read
      simp only [namesAll] at kept
      simp [namesAll, names, Expr.names, kept]
  case case13 value g t rest opening indices closing found =>
      obtain ⟨rfl, read⟩ := Option.ite_none_right_eq_some.1 found
      have kept := namesAll_slots _ rest opening closing indices read
      simp only [namesAll] at kept
      simp [namesAll, names, Expr.names, kept]
  case case15 t rest opening found closing read =>
      obtain ⟨rfl, read⟩ := Option.ite_none_right_eq_some.1 read
      have kept := namesAll_elements _ rest opening closing found read
      simp only [namesAll] at kept
      simp [namesAll, names, Expr.names, kept]
  all_goals
    simp [namesAll, names, Expr.names, names_otherOf, Element.names, Element.namesAll,
      Part.namesAll]

theorem namesAll_wrap (label : Label) (row : List Fragment) (notName : label ≠ .name) :
    namesAll (wrap label row) = namesAll row := by
  fun_cases wrap label row with
  | case1 trivia rest =>
      have kept := namesAll_assemble label rest notName
      simp only [namesAll] at kept
      simp [namesAll, kept]
  | case2 row => exact namesAll_assemble label row notName

end Fragment

/-! ## Scanning -/

/-- A token of the kind of names is an identifier. -/
def Kind.Named (kind : Kind) (t : Text) : Prop := kind = .name → Text.isIdentifier t = true

namespace Scan

theorem named_nameLexeme (state : State) (s : Text) : Fits Kind.Named s (nameLexeme state s) := by
  intro kind n after given _
  simp only [nameLexeme] at given
  split at given
  · rename_i named
    simp only [Option.some.injEq, Prod.mk.injEq] at given
    obtain ⟨_, rfl, _⟩ := given
    rwa [← List.prefix_iff_eq_take.1 (List.takeWhile_prefix isNamePart)]
  · cases given

theorem named_stringLexeme (state : State) (letters : Text) (quote : CodePoint) (s : Text) :
    Fits Kind.Named s (stringLexeme state letters quote s) := by
  rintro kind n after given rfl
  simp only [stringLexeme] at given
  split at given <;> simp at given

theorem named_operatorLexeme (state : State) (s : Text) :
    Fits Kind.Named s (operatorLexeme state s) := by
  rintro kind n after given rfl
  simp only [operatorLexeme, Option.bind_eq_bind, Option.bind_eq_some_iff] at given
  obtain ⟨o, _, c, _, given⟩ := given
  split at given
  · simp at given
  · split at given
    · obtain ⟨closed, _, same⟩ := Option.bind_eq_some_iff.1 given
      simp at same
    · split at given <;> simp at given

theorem named_lexeme (state : State) (s : Text) : Fits Kind.Named s (lexeme state s) := by
  rintro kind n after given rfl
  unfold lexeme at given
  split at given
  · cases given
  · split at given
    · simp at given
    · split at given
      · simp at given
      · split at given
        · dsimp only at given
          split at given
          · split at given
            · exact named_stringLexeme _ _ _ _ _ n after given rfl
            · exact named_nameLexeme _ _ _ n after given rfl
          · exact named_nameLexeme _ _ _ n after given rfl
        · exact named_operatorLexeme _ _ _ n after given rfl

theorem named_literalLexeme (state : State) (frame : Frame) (s : Text) :
    Fits Kind.Named s (literalLexeme state frame s) := by
  rintro kind n after given rfl
  simp only [literalLexeme, Option.bind_eq_bind, Option.bind_eq_some_iff] at given
  obtain ⟨length, _, given⟩ := given
  split at given
  · simp at given
  · split at given
    · simp at given
    · exact named_operatorLexeme _ _ _ n after given rfl

theorem fitting_named : Fitting Kind.Named :=
  ⟨named_lexeme, named_literalLexeme, nofun, nofun, nofun, nofun⟩

end Scan

/-! ## Reading -/

namespace Grammar

variable {Rule : Type}

/-- Whether all that the grammar reads is one token, an identifier. -/
def spellsName : Grammar Rule → Bool
  | .word text => Text.isIdentifier text
  | .kind wanted => wanted = .name
  | .either first second => first.spellsName && second.spellsName
  | _ => false

mutual

/-- Whether the grammar assembles names from identifiers only. -/
def namesIdentifiers : Grammar Rule → Bool
  | .done => true
  | .word _ => true
  | .kind _ => true
  | .seq first second => first.namesIdentifiers && second.namesIdentifiers
  | .either first second => first.namesIdentifiers && second.namesIdentifiers
  | .many item => item.namesIdentifiers
  | .ahead _ => true
  | .unless _ => true
  | .node label body => if label = .name then body.spellsName else body.namesIdentifiers
  | .only _ body => body.namesIdentifiers
  | .grow _ first tails => first.namesIdentifiers && tailsNameIdentifiers tails
  | .rule _ => true

def tailsNameIdentifiers : List (Tail (Grammar Rule)) → Bool
  | [] => true
  | ⟨_, label, body⟩ :: rest =>
      label ≠ .name && body.namesIdentifiers && tailsNameIdentifiers rest

end

/-- The row has identifiers for names, and so will what is read of the tokens. -/
def Named (row : List Fragment) (tokens : List Token) : Prop :=
  (∀ name ∈ Fragment.namesAll row, Text.isIdentifier name = true) ∧ Token.All Kind.Named tokens

theorem Named.nil {tokens : List Token} (wellNamed : Token.All Kind.Named tokens) : Named [] tokens :=
  ⟨by simp [Fragment.namesAll], wellNamed⟩

/-- One token moved into a row is no name yet. -/
theorem Named.token {token : Token} {rest : List Token}
    (wellNamed : Token.All Kind.Named (token :: rest)) :
    Named [.gap token.gap, .token token.text] rest :=
  ⟨by simp [Fragment.namesAll, Fragment.names], ((Scan.all_cons token rest).1 wellNamed).2⟩

/-- A row and what is read after it. -/
theorem Named.append {row more : List Fragment} {rest left : List Token} (named : Named row rest)
    (moreNamed : Named more left) : Named (row ++ more) left := by
  refine ⟨?_, moreNamed.2⟩
  intro name member
  simp only [Fragment.namesAll, List.flatMap_append, List.mem_append] at member
  exact member.elim (named.1 name) (moreNamed.1 name)

theorem Named.wrap {label : Fragment.Label} (notName : label ≠ .name) {row : List Fragment}
    {rest : List Token} (named : Named row rest) : Named (Fragment.wrap label row) rest :=
  ⟨by rw [Fragment.namesAll_wrap label row notName]; exact named.1, named.2⟩

/-- Whether the goal assembles names from identifiers only. -/
def Goal.namesIdentifiers : Goal Rule → Bool
  | .whole grammar => grammar.namesIdentifiers
  | .after tails _ => tailsNameIdentifiers tails

theorem namesIdentifiers_of_mem {tails : List (Tail (Grammar Rule))} {tail : Tail (Grammar Rule)}
    (naming : tailsNameIdentifiers tails = true) (among : tail ∈ tails) :
    tail.label ≠ .name ∧ tail.body.namesIdentifiers = true := by
  induction tails with
  | nil => cases among
  | cons head tails ih =>
      simp only [tailsNameIdentifiers, Bool.and_eq_true, decide_eq_true_eq] at naming
      obtain ⟨own, others⟩ := naming
      rcases List.mem_cons.1 among with rfl | among
      · exact own
      · exact ih others among

section Derivation
variable {rules : Rule → Grammar Rule} {tokens rest : List Token} {row : List Fragment}

/-- What spells a name is derived as one token, and it is an identifier. -/
theorem Derives.spellsName {body : Grammar Rule}
    (given : Derives rules (.whole body) tokens row rest) (spells : body.spellsName = true)
    (wellNamed : Token.All Kind.Named tokens) :
    ∃ gap name, row = [.gap gap, .token name] ∧ Text.isIdentifier name = true ∧
      Token.All Kind.Named rest := by
  fun_induction Grammar.spellsName body with
  | case1 text =>
      cases given with
      | @word _ token rest same =>
          simp only [Grammar.isWord, Bool.and_eq_true, decide_eq_true_eq] at same
          refine ⟨token.gap, token.text, rfl, ?_, ((Scan.all_cons _ _).1 wellNamed).2⟩
          rw [same.2]
          exact spells
  | case2 wanted =>
      cases given with
      | @kind _ token rest same =>
          obtain ⟨identified, wellLeft⟩ := (Scan.all_cons _ _).1 wellNamed
          exact ⟨token.gap, token.text, rfl, identified (same.trans (of_decide_eq_true spells)),
            wellLeft⟩
  | case3 first second firstSpells secondSpells =>
      obtain ⟨firstName, secondName⟩ := Bool.and_eq_true _ _ |>.mp spells
      cases given with
      | first second one => exact firstSpells one firstName
      | second first two => exact secondSpells two secondName
  | case4 => cases spells

/-- Every derivation assembles names from identifiers only. -/
theorem Derives.named (rulesName : ∀ r, (rules r).namesIdentifiers = true) {goal : Goal Rule}
    (given : Derives rules goal tokens row rest) (naming : goal.namesIdentifiers = true)
    (start : Named goal.row tokens) : Named row rest := by
  induction given with
  | done | none | ahead | «unless» | stop => exact start
  | word rest same => exact .token start.2
  | kind rest same => exact .token start.2
  | seq one two oneNamed twoNamed =>
      simp only [Goal.namesIdentifiers, namesIdentifiers, Bool.and_eq_true] at naming
      have named := oneNamed naming.1 (.nil start.2)
      exact named.append (twoNamed naming.2 (.nil named.2))
  | first second one oneNamed =>
      simp only [Goal.namesIdentifiers, namesIdentifiers, Bool.and_eq_true] at naming
      exact oneNamed naming.1 start
  | second first two twoNamed =>
      simp only [Goal.namesIdentifiers, namesIdentifiers, Bool.and_eq_true] at naming
      exact twoNamed naming.2 start
  | more one others oneNamed othersNamed =>
      have named := oneNamed naming (.nil start.2)
      exact named.append (othersNamed naming (.nil named.2))
  | node label inner innerNamed =>
      simp only [Goal.namesIdentifiers, namesIdentifiers] at naming
      -- The label of a name is put on one token that spells an identifier.
      split at naming
      · rename_i isName
        subst isName
        obtain ⟨gap, name, rfl, identified, wellLeft⟩ := inner.spellsName naming start.2
        refine ⟨?_, wellLeft⟩
        simpa [Fragment.wrap, Fragment.assemble, Fragment.namesAll, Fragment.names,
          Expr.names] using identified
      · rename_i notName
        exact (innerNamed naming start).wrap notName
  | only inner admitted innerNamed => exact innerNamed naming start
  | grow again one others oneNamed othersNamed =>
      simp only [Goal.namesIdentifiers, namesIdentifiers, Bool.and_eq_true] at naming
      exact othersNamed naming.2 (oneNamed naming.1 start)
  | rule inner innerNamed => exact innerNamed (rulesName _) start
  | follow among one others oneNamed othersNamed =>
      obtain ⟨notName, bodyNames⟩ := namesIdentifiers_of_mem naming among
      have named := oneNamed bodyNames (.nil start.2)
      exact othersNamed naming ((start.append named).wrap notName)

end Derivation

end Grammar

-- The only nodes for names are identifiers and the three constants.
theorem Python.rules_namesIdentifiers (r : Python.Rule) :
    (Python.rules r).namesIdentifiers = true := by
  cases r with
  | parameters annotated => cases annotated <;> rfl
  | starParameters annotated => cases annotated <;> rfl
  | afterPlain annotated slash => cases annotated <;> cases slash <;> rfl
  | afterDefault annotated slash => cases annotated <;> cases slash <;> rfl
  | afterStar annotated => cases annotated <;> rfl
  | _ => rfl

/-! ## Modules -/

theorem Source.isIdentifier_of_read (start : Grammar Python.Rule)
    (startNames : start.namesIdentifiers = true) (source : Text) (row : List Fragment)
    (given : Source.read start source = .ok row) :
    ∀ name ∈ Fragment.namesAll row, Text.isIdentifier name = true := by
  unfold Source.read at given
  split at given
  · cases given
  · split at given
    · cases given
    · rename_i tokens scanned
      split at given
      · rename_i found parsed
        split at given
        · cases given
        · cases given
          have wellNamed := Scan.all_tokensFrom Scan.fitting_named _ _ _ _ tokens scanned
          have derived := Grammar.derives_of_read parsed
          exact (derived.named Python.rules_namesIdentifiers startNames (.nil wellNamed)).1
      · cases given

/-- Every name of a parsed module is an identifier. -/
theorem Module.isIdentifier_of_parse (source : Text) (m : Module)
    (given : Module.parse source = .ok m) :
    ∀ name ∈ m.names, Text.isIdentifier name = true := by
  unfold Module.parse at given
  match read : Source.read Python.file (Source.withoutMark source) with
  | .error fault => simp [read, Except.map] at given
  | .ok row =>
      simp only [read, Except.map, Except.ok.injEq] at given
      subst given
      simp only [Module.names, Fragment.namesAll_allParts]
      exact Source.isIdentifier_of_read Python.file rfl _ row read

end ClassMaps
