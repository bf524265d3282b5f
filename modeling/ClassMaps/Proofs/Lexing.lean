import ClassMaps.Proofs.Splice
import ClassMaps.Proofs.Quotation

/-!
# Scanning what is written

The text that takes the place of a class name is a name, a quoted path and a
quoted class name in brackets.  Wherever it stands in a line it is cut into the
same seven tokens, and the scanner goes on after it in the state that it was
in: inside a bracket or not, and inside a field of a formatted string, too.
-/

set_option autoImplicit false

namespace ClassMaps

namespace Token

def ofName (gap : Gap) (name : Text) : Token :=
  ⟨if Scan.keywords.contains name then .keyword else .name, gap, name⟩

def ofOperator (c : Char) : Token := ⟨.operator, [], sign c⟩

def ofLiteral (literal : Text) : Token := ⟨.string, [], literal⟩

end Token

/-- The tokens of a lookup after a gap. -/
def Lookup.tokens (gap : Gap) (loader path className : Text) : List Token :=
  [.ofName gap loader, .ofOperator '(', .ofLiteral (Literal.quote path), .ofOperator ')',
   .ofOperator '[', .ofLiteral (Literal.quote className), .ofOperator ']']

namespace Scan

/-! ## Tokens without a gap -/

/-- Whether a lexeme can start with the code point: it starts neither a gap nor a
line break. -/
def isFirm (c : CodePoint) : Bool := !(isBlank c || c.isOneOf ['#', '\\', '\n', '\r'])

theorem not_break_of_firm (c : CodePoint) (firm : isFirm c = true) :
    c.isBreak = false ∧ c.is '\r' = false := by
  simp only [isFirm, CodePoint.isOneOf, List.any_cons, List.any_nil] at firm
  rw [CodePoint.isBreak_eq_false_iff]
  grind

theorem not_gap_of_firm (c : CodePoint) (firm : isFirm c = true) :
    isBlank c = false ∧ c.is '#' = false ∧ c.is '\\' = false := by
  simp only [isFirm, CodePoint.isOneOf, List.any_cons, List.any_nil] at firm
  grind

theorem gap_of_firm (newline : Text) (state : State) (c : CodePoint) (rest : Text)
    (firm : isFirm c = true) : gapIn newline state (c :: rest) = ([], c :: rest) := by
  obtain ⟨notBreak, notReturn⟩ := not_break_of_firm c firm
  obtain ⟨notBlank, notComment, notJoin⟩ := not_gap_of_firm c firm
  unfold gapIn
  cases rest with
  | nil => simp [gap, notBreak, notBlank, notComment]
  | cons d rest =>
      unfold gap
      simp [notBreak, notReturn, notBlank, notComment, notJoin]

theorem breakLength_of_firm (c : CodePoint) (rest : Text) (firm : isFirm c = true) :
    Text.breakLength (c :: rest) = 0 := by
  obtain ⟨notBreak, notReturn⟩ := not_break_of_firm c firm
  cases rest <;> simp [Text.breakLength, notBreak, notReturn]

/-- The text starts with these tokens, and the state and the rest after them are
these. -/
def Yields (newline : Text) (state : State) (s : Text) (tokens : List Token) (after : State)
    (rest : Text) : Prop :=
  ∀ fuel, tokensFrom newline (tokens.length + fuel) state s =
    (tokensFrom newline fuel after rest).map (tokens ++ ·)

theorem Yields.append {newline : Text} {state middle after : State} {s rest left : Text}
    {tokens more : List Token} (first : Yields newline state s tokens middle rest)
    (second : Yields newline middle rest more after left) :
    Yields newline state s (tokens ++ more) after left := by
  intro fuel
  rw [List.length_append, Nat.add_assoc, first, second, Option.map_map]
  congr 1
  funext found
  simp

/-- Inside a line and in no literal run. -/
def State.InCode (state : State) : Prop := state.literalFrame? = none ∧ state.lineStart = false

/-- The lexeme after a gap is the next token. -/
theorem yields_lexeme (newline : Text) (state after : State) (s spelled rest : Text) (found : Gap)
    (kind : Kind) (inCode : state.InCode)
    (leads : gapIn newline state s = (found, spelled ++ rest))
    (nonempty : spelled ≠ [])
    (lexes : lexeme state (spelled ++ rest) = some (kind, spelled.length, after)) :
    Yields newline state s [⟨kind, found, spelled⟩] after rest := by
  obtain ⟨noRun, inside⟩ := inCode
  have same : { state with lineStart := false } = state := by rw [← inside]
  intro fuel
  have taken : (spelled ++ rest).take spelled.length = spelled := List.take_left' rfl
  have dropped : (spelled ++ rest).drop spelled.length = rest := List.drop_left' rfl
  cases spelled with
  | nil => exact absurd rfl nonempty
  | cons c more =>
      rw [List.cons_append] at *
      rw [List.length_singleton, Nat.add_comm, tokensFrom, round, noRun]
      simp only [inside, Bool.not_false, if_true, inLine, leads, lexed, same, lexes, taken,
        dropped, List.nil_append]
      rfl

theorem yields_firm (newline : Text) (state after : State) (spelled rest : Text) (kind : Kind)
    (inCode : state.InCode) (starts : ∃ c more, spelled = c :: more ∧ isFirm c = true)
    (lexes : lexeme state (spelled ++ rest) = some (kind, spelled.length, after)) :
    Yields newline state (spelled ++ rest) [⟨kind, [], spelled⟩] after rest := by
  obtain ⟨c, more, rfl, firm⟩ := starts
  exact yields_lexeme newline state after _ (c :: more) rest [] kind inCode
    (gap_of_firm newline state c (more ++ rest) firm) (List.cons_ne_nil c more) lexes

/-! ## Names -/

theorem isNamePart_of_continues (c : CodePoint) (continues : c.continuesIdentifier = true) :
    isNamePart c = true := by
  unfold CodePoint.continuesIdentifier at continues
  unfold isNamePart
  split at continues
  · rename_i ascii
    simpa [ascii, or_assoc] using continues
  · rename_i notAscii
    simp [notAscii]

theorem continues_of_starts (c : CodePoint) (starts : c.startsIdentifier = true) :
    c.continuesIdentifier = true := by
  unfold CodePoint.startsIdentifier at starts
  unfold CodePoint.continuesIdentifier
  split at starts
  · rename_i ascii
    rw [if_pos ascii]
    grind
  · rename_i notAscii
    rw [if_neg notAscii, starts, Bool.true_or]

theorem namePart_of_identifier (name : Text) (named : Text.isIdentifier name = true) :
    ∀ c ∈ name, isNamePart c = true := by
  cases name with
  | nil => cases named
  | cons first more =>
      simp only [Text.isIdentifier, Bool.and_eq_true, List.all_eq_true] at named
      intro c member
      rcases List.mem_cons.mp member with rfl | inMore
      · exact isNamePart_of_continues c (continues_of_starts c named.1)
      · exact isNamePart_of_continues c (named.2 c inMore)

theorem not_quote_of_namePart (c : CodePoint) (part : isNamePart c = true) : isQuote c = false := by
  rw [← Bool.not_eq_true]
  intro quote
  simp only [isQuote, CodePoint.isOneOf, List.any_cons, List.any_nil, Bool.or_false,
    Bool.or_eq_true, CodePoint.is_iff] at quote
  have double : '\x22'.toNat = 34 := rfl
  have single : '\x27'.toNat = 39 := rfl
  simp only [isNamePart, CodePoint.isAscii, CodePoint.isAsciiLetter, CodePoint.isDigit,
    CodePoint.is, Bool.or_eq_true, Bool.not_eq_true', Bool.and_eq_true, decide_eq_true_eq,
    decide_eq_false_iff_not, beq_iff_eq] at part
  have underscore : '_'.toNat = 95 := rfl
  omega

theorem bounds_of_starts (c : CodePoint) (starts : c.startsIdentifier = true) :
    0x41 ≤ c.val ∧ c.val ≠ 0x5C := by
  have underscore : '_'.toNat = 95 := rfl
  unfold CodePoint.startsIdentifier at starts
  split at starts
  · simp only [CodePoint.isAsciiLetter, CodePoint.is, Bool.or_eq_true, Bool.and_eq_true,
      decide_eq_true_eq, beq_iff_eq] at starts
    omega
  · rename_i notAscii
    simp only [CodePoint.isAscii, decide_eq_true_eq] at notAscii
    omega

theorem firm_of_starts (c : CodePoint) (starts : c.startsIdentifier = true) :
    isFirm c = true ∧ c.isDigit = false ∧ c.is '.' = false := by
  obtain ⟨large, notBackslash⟩ := bounds_of_starts c starts
  have differs : ∀ d : Char, d.toNat < 0x41 ∨ d.toNat = 0x5C → c.is d = false := by
    intro d bounds
    simp only [CodePoint.is, beq_eq_false_iff_ne]
    omega
  refine ⟨?_, ?_, differs '.' (by decide)⟩
  · simp [isFirm, isBlank, CodePoint.isOneOf, differs ' ' (by decide), differs '\t' (by decide),
      differs '\x0c' (by decide), differs '#' (by decide), differs '\\' (by decide),
      differs '\n' (by decide), differs '\r' (by decide)]
  · simp only [CodePoint.isDigit, Bool.and_eq_false_iff, decide_eq_false_iff_not]
    omega

/-- Letters could start a literal, but not if no quote comes after them. -/
theorem lexeme_eq_nameLexeme (state : State) (c : CodePoint) (rest : Text)
    (starts : c.startsIdentifier = true)
    (noQuote : ∀ q ∈ ((c :: rest).dropWhile CodePoint.isAsciiLetter).head?, isQuote q = false) :
    lexeme state (c :: rest) = nameLexeme state (c :: rest) := by
  obtain ⟨firm, notDigit, notPoint⟩ := firm_of_starts c starts
  have part := isNamePart_of_continues c (continues_of_starts c starts)
  have dropped : (c :: rest).drop (Token.stringPrefix (c :: rest)).length =
      (c :: rest).dropWhile CodePoint.isAsciiLetter := by
    have whole := List.takeWhile_append_dropWhile (p := CodePoint.isAsciiLetter) (l := c :: rest)
    exact (congrArg (List.drop _) whole.symm).trans (List.drop_left' rfl)
  simp only [lexeme, breakLength_of_firm c rest firm, notDigit, notPoint, part, dropped]
  cases after : (c :: rest).dropWhile CodePoint.isAsciiLetter with
  | nil => simp
  | cons q more => simp [noQuote q (by simp [after])]

/-- A name is one lexeme if what follows does not go on with it. -/
theorem lexeme_name (state : State) (name rest : Text) (named : Text.isIdentifier name = true)
    (stops : ∀ c ∈ rest.head?, isNamePart c = false ∧ isQuote c = false) :
    lexeme state (name ++ rest) =
      some (if keywords.contains name then .keyword else .name, name.length, state) := by
  have parts := namePart_of_identifier name named
  have taken : (name ++ rest).takeWhile isNamePart = name := by
    rw [List.takeWhile_append_of_pos parts]
    cases rest with
    | nil => simp
    | cons d rest => simp [(stops d (by simp)).1]
  have noQuote : ∀ q ∈ ((name ++ rest).dropWhile CodePoint.isAsciiLetter).head?,
      isQuote q = false := by
    intro q isHead
    rw [List.dropWhile_append] at isHead
    split at isHead
    · cases rest with
      | nil => simp at isHead
      | cons d rest =>
          obtain ⟨notPart, notQuote⟩ := stops d (by simp)
          have notLetter : d.isAsciiLetter = false := by
            simp only [isNamePart, Bool.or_eq_false_iff] at notPart
            exact notPart.1.1.2
          simp only [List.dropWhile_cons, notLetter, Bool.false_eq_true, if_false,
            List.head?_cons, Option.mem_some_iff] at isHead
          rw [← isHead]
          exact notQuote
    · rename_i inName
      have member : q ∈ name.dropWhile CodePoint.isAsciiLetter := by
        cases left : name.dropWhile CodePoint.isAsciiLetter with
        | nil => simp [left] at inName
        | cons d more =>
            rw [left, List.cons_append, List.head?_cons, Option.mem_some_iff] at isHead
            simp [isHead]
      exact not_quote_of_namePart q (parts q ((List.dropWhile_sublist _).mem member))
  have isName : nameLexeme state (name ++ rest) =
      some (if keywords.contains name then .keyword else .name, name.length, state) := by
    simp [nameLexeme, taken, named]
  cases name with
  | nil => cases named
  | cons c more =>
      simp only [Text.isIdentifier, Bool.and_eq_true] at named
      rw [List.cons_append] at noQuote isName ⊢
      rw [lexeme_eq_nameLexeme state c (more ++ rest) named.1 noQuote, isName]

/-! ## Literals -/

/-- The double quote. -/
def quoteSign : CodePoint := CodePoint.ofChar '\x22'

/-- Whether the code point stands for itself between double quotes. -/
def isLiteral (c : CodePoint) : Bool :=
  c.is '\x22' == false && c.is '\\' == false && 0x20 ≤ c.val

/-- What may stand between double quotes: code points that stand for themselves,
and backslashes that each take another one with them.  There is no control
character in it, and no quote without a backslash. -/
inductive Enclosed : Text → Prop
  | nil : Enclosed []
  | literal (c : CodePoint) (rest : Text) (stands : isLiteral c = true) (more : Enclosed rest) :
      Enclosed (c :: rest)
  | escape (c : CodePoint) (rest : Text) (shown : 0x20 ≤ c.val) (more : Enclosed rest) :
      Enclosed (CodePoint.ofChar '\\' :: c :: rest)

theorem Enclosed.append {s t : Text} (first : Enclosed s) (second : Enclosed t) :
    Enclosed (s ++ t) := by
  induction first with
  | nil => exact second
  | literal c rest stands _ ih => exact .literal c _ stands ih
  | escape c rest shown _ ih => exact .escape c _ shown ih

theorem enclosed_of_literals (s : Text) (literal : ∀ c ∈ s, isLiteral c = true) : Enclosed s := by
  induction s with
  | nil => exact .nil
  | cons c s ih =>
      rw [List.forall_mem_cons] at literal
      exact .literal c s literal.1 (ih literal.2)

theorem literal_hex (width n : Nat) : ∀ d ∈ Text.hex width n, isLiteral d = true := by
  have all : ∀ k : Fin 16, isLiteral (CodePoint.ofChar (Nat.digitChar k.val)) = true := by decide
  induction width generalizing n with
  | zero => simp [Text.hex]
  | succ width ih =>
      intro d member
      rw [Text.hex, List.mem_append, List.mem_singleton] at member
      rcases member with inside | rfl
      · exact ih (n / 16) d inside
      · exact all ⟨n % 16, Nat.mod_lt n (by omega)⟩

theorem enclosed_spell (c : CodePoint) : Enclosed (Literal.spell c) := by
  generalize Literal.spell c = spelling, Literal.spelled_spell c = spelled
  cases spelled with
  | letter l plain bounds stands => exact .escape (CodePoint.ofChar l) [] bounds.1 .nil
  | number control =>
      exact .escape (CodePoint.ofChar 'u') _ (by decide) (enclosed_of_literals _ (literal_hex 4 c.val))
  | plain shown notQuote notEscape =>
      exact .literal c [] (by simp [isLiteral, shown, notQuote, notEscape]) .nil

theorem enclosed_body (t : Text) : Enclosed (t.flatMap Literal.spell) := by
  induction t with
  | nil => exact .nil
  | cons c t ih => exact (enclosed_spell c).append ih

theorem stringRest_close (rest : Text) : stringRest quoteSign false (quoteSign :: rest) = some 1 := by
  unfold stringRest
  simp

theorem stringRest_literal (c : CodePoint) (rest : Text) (literal : isLiteral c = true) :
    stringRest quoteSign false (c :: rest) =
      (stringRest quoteSign false rest).map (· + 1) := by
  simp only [isLiteral, Bool.and_eq_true, beq_iff_eq, decide_eq_true_eq] at literal
  obtain ⟨⟨notQuote, notEscape⟩, shown⟩ := literal
  have differs : c ≠ quoteSign := by
    rintro rfl
    exact absurd notQuote (by decide)
  have notBreak : c.isBreak = false := by
    have feed : '\n'.toNat = 10 := rfl
    have carriage : '\r'.toNat = 13 := rfl
    simp only [CodePoint.isBreak_eq_false_iff, CodePoint.is, beq_eq_false_iff_ne]
    omega
  conv_lhs => unfold stringRest
  simp [differs, notEscape, notBreak]

/-- A backslash takes the next code point with it, if that is not the last. -/
theorem stringRest_escape (d : CodePoint) (rest : Text) (shown : 0x20 ≤ d.val) (more : rest ≠ []) :
    stringRest quoteSign false (CodePoint.ofChar '\\' :: d :: rest) =
      (stringRest quoteSign false rest).map (· + 2) := by
  have notReturn : d.is '\r' = false := by
    have carriage : '\r'.toNat = 13 := rfl
    simp only [CodePoint.is, beq_eq_false_iff_ne]
    omega
  have differs : CodePoint.ofChar '\\' ≠ quoteSign := by decide
  cases rest with
  | nil => exact absurd rfl more
  | cons e rest =>
      conv_lhs => unfold stringRest
      simp [differs, CodePoint.is_ofChar, notReturn]

/-- What is enclosed ends at the quote after it, whatever comes next. -/
theorem stringRest_enclosed (body rest : Text) (enclosed : Enclosed body) :
    stringRest quoteSign false (body ++ quoteSign :: rest) = some (body.length + 1) := by
  induction enclosed with
  | nil => exact stringRest_close rest
  | literal c body stands _ ih =>
      rw [List.cons_append, stringRest_literal c _ stands, ih]
      rfl
  | escape c body shown _ ih =>
      rw [List.cons_append, List.cons_append, stringRest_escape c _ shown (by simp), ih]
      rfl

/-- Only the quotes of the empty text can be two of three. -/
theorem startsTriple_quote (t rest : Text) :
    startsTriple quoteSign (Literal.quote t ++ rest) =
      decide (t = [] ∧ rest.head? = some quoteSign) := by
  cases t with
  | nil => cases rest <;> simp [startsTriple, Literal.quote, sign, quoteSign]
  | cons c t =>
      obtain ⟨d, more, spelled, notQuote⟩ := Literal.head_spell c
      have differs : d ≠ quoteSign := by
        rintro rfl
        exact absurd notQuote (by decide)
      simp [startsTriple, Literal.quote, sign, spelled, differs]

theorem lexeme_quoteSign (state : State) (rest : Text) :
    lexeme state (quoteSign :: rest) =
      if startsTriple quoteSign (quoteSign :: rest) then
        (stringRest quoteSign true (rest.drop 2)).map fun n => (.string, 3 + n, state)
      else (stringRest quoteSign false rest).map fun n => (.string, 1 + n, state) := by
  have firm : Text.breakLength (quoteSign :: rest) = 0 := breakLength_of_firm _ _ (by decide)
  have notDigit : quoteSign.isDigit = false := by decide
  have notPoint : quoteSign.is '.' = false := by decide
  have isQuoted : isQuote quoteSign = true := by decide
  have noLetters : Token.stringPrefix (quoteSign :: rest) = [] := by
    have notLetter : quoteSign.isAsciiLetter = false := by decide
    simp [Token.stringPrefix, notLetter]
  have plainPrefix : isStringPrefix [] = true := by decide
  cases triple : startsTriple quoteSign (quoteSign :: rest) <;>
    simp [lexeme, firm, notDigit, notPoint, isQuoted, noLetters, plainPrefix, stringLexeme, triple]

/-- A quoted text is one lexeme, unless what follows makes its quotes triple. -/
theorem lexeme_quote_iff (state : State) (t rest : Text) :
    lexeme state (Literal.quote t ++ rest) = some (.string, (Literal.quote t).length, state) ↔
      (t = [] → rest.head? ≠ some quoteSign) := by
  have triple := startsTriple_quote t rest
  have shape : Literal.quote t ++ rest =
      quoteSign :: (t.flatMap Literal.spell ++ quoteSign :: rest) := by
    simp [Literal.quote, sign, quoteSign]
  have measured : (Literal.quote t).length = 1 + ((t.flatMap Literal.spell).length + 1) := by
    simp [Literal.quote, sign]
    omega
  rw [shape] at triple ⊢
  rw [lexeme_quoteSign, triple]
  by_cases both : t = [] ∧ rest.head? = some quoteSign
  · -- Three quotes alone are longer than the two of an empty text.
    obtain ⟨rfl, quoted⟩ := both
    rw [if_pos (by simpa using quoted)]
    constructor
    · intro taken
      obtain ⟨n, _, same⟩ := Option.map_eq_some_iff.mp taken
      simp only [Prod.mk.injEq, measured, List.flatMap_nil, List.length_nil] at same
      omega
    · intro stops
      exact absurd quoted (stops rfl)
  · rw [if_neg (by simpa using both), stringRest_enclosed _ _ (enclosed_body t), measured]
    exact ⟨fun _ empty quoted => both ⟨empty, quoted⟩, fun _ => rfl⟩

/-! ## Brackets -/

theorem Frame.inField_opened (frame : Frame) (field : frame.inField = true) :
    frame.opened.inField = true := by
  simp only [Frame.inField, decide_eq_true_eq] at field ⊢
  exact Nat.lt_succ_of_lt field

theorem Frame.closed_opened (frame : Frame) (field : frame.inField = true) :
    frame.opened.closed = frame := by
  have noFormat : frame.opened.inFormat = false := by
    simp [Frame.inFormat, frame.inField_opened field]
  rw [Frame.closed, if_neg (by simp [noFormat])]
  rfl

theorem State.inField_of_inCode (frame : Frame) (rest : List Frame) (levels : List Indent)
    (brackets : List CodePoint) (lineStart : Bool)
    (inCode : State.InCode ⟨levels, brackets, frame :: rest, lineStart⟩) :
    frame.inField = true := by
  simpa [literalFrame?] using inCode.1

theorem State.inCode_openBracket (state : State) (opener : CodePoint) (inCode : state.InCode) :
    (state.openBracket opener).InCode := by
  obtain ⟨levels, brackets, frames, lineStart⟩ := state
  cases frames with
  | nil => exact ⟨rfl, inCode.2⟩
  | cons frame rest =>
      have field := frame.inField_opened (inField_of_inCode _ _ _ _ _ inCode)
      exact ⟨by simp [literalFrame?, openBracket, mapFrame, field], inCode.2⟩

/-- The brackets of a lookup. -/
inductive Brackets : Char → Char → Prop
  | round : Brackets '(' ')'
  | square : Brackets '[' ']'

theorem lexeme_eq_operatorLexeme (state : State) (c : CodePoint) (rest : Text)
    (firm : isFirm c = true)
    (other : (c.isDigit || c.is '.' || isNamePart c || isQuote c) = false) :
    lexeme state (c :: rest) = operatorLexeme state (c :: rest) := by
  simp only [Bool.or_eq_false_iff] at other
  obtain ⟨⟨⟨notDigit, notPoint⟩, notPart⟩, notQuote⟩ := other
  simp [lexeme, breakLength_of_firm c rest firm, notDigit, notPoint, notPart, notQuote]

section Bracketed
variable {opener closer : Char} (brackets : Brackets opener closer) (newline : Text)
  (state : State) (rest : Text) (inCode : state.InCode)
include brackets inCode

/-- A bracket that is opened and closed leaves the state as it was. -/
theorem State.closeBracket_openBracket :
    (state.openBracket (CodePoint.ofChar opener)).closeBracket (CodePoint.ofChar closer) =
      some state := by
  have pair : ((CodePoint.ofChar opener).is '(' && (CodePoint.ofChar closer).is ')' ||
      (CodePoint.ofChar opener).is '[' && (CodePoint.ofChar closer).is ']' ||
      (CodePoint.ofChar opener).is '\x7b' && (CodePoint.ofChar closer).is '\x7d') = true := by
    cases brackets <;> decide
  obtain ⟨levels, brackets, frames, lineStart⟩ := state
  cases frames with
  | nil => simp only [State.openBracket, State.closeBracket, State.mapFrame, pair, if_true]
  | cons frame rest =>
      have closed := frame.closed_opened (State.inField_of_inCode _ _ _ _ _ inCode)
      simp only [State.openBracket, State.closeBracket, State.mapFrame, pair, if_true, closed]

theorem yields_open :
    Yields newline state (sign opener ++ rest) [.ofOperator opener]
      (state.openBracket (CodePoint.ofChar opener)) rest := by
  refine yields_firm newline state _ (sign opener) rest .operator inCode ⟨_, [], rfl, ?_⟩ ?_
  · cases brackets <;> decide
  · rw [sign, List.singleton_append, lexeme_eq_operatorLexeme state _ rest
      (by cases brackets <;> decide) (by cases brackets <;> decide)]
    cases brackets <;> rfl

theorem yields_close :
    Yields newline (state.openBracket (CodePoint.ofChar opener)) (sign closer ++ rest)
      [.ofOperator closer] state rest := by
  have opened := state.inCode_openBracket (CodePoint.ofChar opener) inCode
  refine yields_firm newline _ _ (sign closer) rest .operator opened ⟨_, [], rfl, ?_⟩ ?_
  · cases brackets <;> decide
  · have closed := State.closeBracket_openBracket brackets state inCode
    generalize state.openBracket (CodePoint.ofChar opener) = inside at closed
    have lexed : lexeme inside (sign closer ++ rest) =
        (inside.closeBracket (CodePoint.ofChar closer)).bind fun after =>
          some (.operator, 1, after) := by
      rw [sign, List.singleton_append, lexeme_eq_operatorLexeme inside _ rest
        (by cases brackets <;> decide) (by cases brackets <;> decide)]
      cases brackets <;> rfl
    rw [lexed, closed]
    rfl

end Bracketed

/-! ## Lookups -/

theorem yields_name (newline : Text) (state : State) (s name rest : Text) (found : Gap)
    (inCode : state.InCode)
    (leads : gapIn newline state s = (found, name ++ rest))
    (named : Text.isIdentifier name = true)
    (stops : ∀ c ∈ rest.head?, isNamePart c = false ∧ isQuote c = false) :
    Yields newline state s [.ofName found name] state rest := by
  refine yields_lexeme newline state _ s name rest found _ inCode leads ?_
    (lexeme_name state name rest named stops)
  rintro rfl
  cases named

theorem yields_quote (newline : Text) (state : State) (t rest : Text) (inCode : state.InCode)
    (stops : rest.head? ≠ some quoteSign) :
    Yields newline state (Literal.quote t ++ rest) [.ofLiteral (Literal.quote t)] state rest :=
  yields_firm newline state _ (Literal.quote t) rest _ inCode ⟨_, _, rfl, by decide⟩
    ((lexeme_quote_iff state t rest).mpr fun _ => stops)

/-- A lookup after a gap is cut into its own tokens, whatever comes after it. -/
theorem yields_lookup (newline : Text) (state : State) (s loader path className rest : Text)
    (found : Gap) (inCode : state.InCode)
    (leads : gapIn newline state s = (found, Lookup.spelling loader path className ++ rest))
    (named : Text.isIdentifier loader = true) :
    Yields newline state s (Lookup.tokens found loader path className) state rest := by
  have brackets : text ")[" = sign ')' ++ sign '[' := by decide
  simp only [Lookup.spelling, brackets, List.append_assoc] at leads
  have called := state.inCode_openBracket (CodePoint.ofChar '(') inCode
  have indexed := state.inCode_openBracket (CodePoint.ofChar '[') inCode
  refine (yields_name newline state s loader _ found inCode leads named ?_).append <|
    (yields_open .round newline state _ inCode).append <|
    (yields_quote newline _ path _ called ?_).append <|
    (yields_close .round newline state _ inCode).append <|
    (yields_open .square newline state _ inCode).append <|
    (yields_quote newline _ className _ indexed ?_).append <|
    yields_close .square newline state rest inCode
  all_goals
    simp only [sign, List.singleton_append, List.head?_cons, Option.mem_some_iff, forall_eq']
    decide

/-! ## Sources of one line -/

/-- A line without blanks before its first token has no indentation to measure. -/
theorem tokensFrom_initial (newline : Text) (fuel : Nat) (c : CodePoint) (rest : Text)
    (firm : isFirm c = true) :
    tokensFrom newline fuel .initial (c :: rest) =
      tokensFrom newline fuel ⟨[], [], [], false⟩ (c :: rest) := by
  obtain ⟨notBlank, notComment, notJoin⟩ := not_gap_of_firm c firm
  have noLine : isBlankLine (c :: rest) = false := by
    simp [isBlankLine, notBlank, notComment, breakLength_of_firm c rest firm]
  have noLines : blankLines newline false (c :: rest) = ([], c :: rest) := by
    cases rest with
    | nil => simp [blankLines, noLine]
    | cons d rest =>
        unfold blankLines
        simp [noLine]
  have unindented : Indent.ofLine (c :: rest) = Indent.none := by
    simp [Indent.ofLine, notBlank, Indent.none]
  cases fuel with
  | zero => rfl
  | succ fuel =>
      simp only [tokensFrom, round, State.initial, State.literalFrame?, List.head?_nil,
        Option.filter_none, Bool.not_true, Bool.false_eq_true, if_false, noLines, atLine,
        unindented, List.dropWhile_cons, notBlank, List.head?_cons, Option.any_some, notJoin]
      rfl

theorem scan?_line (newline : Text) (c : CodePoint) (rest : Text) (tokens : List Token)
    (firm : isFirm c = true) (short : tokens.length ≤ 2 * (c :: rest).length)
    (yields : Yields newline ⟨[], [], [], false⟩ (c :: rest) tokens ⟨[], [], [], false⟩ []) :
    Token.scan? newline (c :: rest) =
      some (tokens ++ [⟨.newline, [], []⟩, ⟨.finish, [], []⟩]) := by
  obtain ⟨left, enough⟩ : ∃ left, 2 * (c :: rest).length + 8 = tokens.length + (left + 2) :=
    ⟨2 * (c :: rest).length + 6 - tokens.length, by omega⟩
  rw [Token.scan?, tokensFrom_initial newline _ c rest firm, enough, yields]
  rfl

end Scan

end ClassMaps
