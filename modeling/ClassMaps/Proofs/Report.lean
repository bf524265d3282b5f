import ClassMaps.Proofs.Inert
import ClassMaps.Proofs.Lexing
import ClassMaps.Proofs.Pointing

/-!
# Messages and reports

A message ends with its location, and the location can be read back, since the
numerals in it have neither parenthesis nor comma.

A report is a header and then each message on a line of its own, after a tab, as
long as no message holds a line feed itself.  The path of a style module and the
source of a key stand in a message as they are, so a message can hold one.  Then the
report has more lines than its run has diagnostics, and what was reported cannot be
told from it any more.
-/

set_option autoImplicit false

namespace ClassMaps

def lineFeed : CodePoint := CodePoint.ofChar '\n'

/-! ## Numerals -/

namespace Text

theorem notMem_ofInt (c : CodePoint) (notDigit : c.isDigit = false)
    (notMinus : c ≠ CodePoint.ofChar '-') (n : Int) : c ∉ ofInt n := by
  have inDigits : ∀ m, c ∉ ofNat m := by
    intro m member
    rw [isDigit_of_mem_ofNat m c member] at notDigit
    cases notDigit
  cases n with
  | ofNat m => exact inDigits m
  | negSucc m => simp [ofInt, sign, notMinus, inDigits (m + 1)]

theorem ofNat_injective : Function.Injective ofNat := by
  intro m n same
  have inj : Function.Injective CodePoint.ofChar := by
    intro c d same
    exact Char.toNat_inj.mp (congrArg CodePoint.val same)
  have digits := List.map_injective_iff.mpr inj same
  have values := congrArg (fun digits => Nat.ofDigitChars 10 digits 0) digits
  simpa using values

theorem ofInt_injective : Function.Injective ofInt := by
  -- A numeral that starts with a minus sign is not one of digits only.
  have apart : ∀ m n : Nat, ofNat m ≠ sign '-' ++ ofNat n := by
    intro m n same
    have isDigit := isDigit_of_mem_ofNat m (CodePoint.ofChar '-') (by simp [same, sign])
    cases isDigit
  intro m n same
  cases m with
  | ofNat m =>
      cases n with
      | ofNat n => exact congrArg Int.ofNat (ofNat_injective same)
      | negSucc n => exact absurd same (apart m (n + 1))
  | negSucc m =>
      cases n with
      | ofNat n => exact absurd same.symm (apart n (m + 1))
      | negSucc n =>
          have digits := ofNat_injective (List.append_cancel_left same)
          rw [Nat.succ.inj digits]

/-- Two texts that end with the same mark, and with no such mark after it, are cut
there in the same way. -/
theorem cut_at_last (c : CodePoint) (t t' u u' : Text) (last : c ∉ u) (last' : c ∉ u')
    (same : t ++ c :: u = t' ++ c :: u') : t = t' ∧ u = u' := by
  rcases List.append_eq_append_iff.mp same with ⟨more, rfl, rest⟩ | ⟨more, rfl, rest⟩
  · cases more with
    | nil => simpa using rest
    | cons d more =>
        obtain ⟨-, rfl⟩ := List.cons.inj rest
        simp at last
  · cases more with
    | nil => simpa [eq_comm] using rest
    | cons d more =>
        obtain ⟨-, rfl⟩ := List.cons.inj rest
        simp at last'

/-- No line holds a line feed. -/
theorem lineFeed_notMem_line (t : Text) : ∀ line ∈ t.splitOn lineFeed, lineFeed ∉ line := by
  induction t with
  | nil => simp [List.splitOn_nil]
  | cons c t ih =>
      intro line member
      rw [List.splitOn_cons_eq_if_modifyHead] at member
      split at member
      · rcases List.mem_cons.mp member with rfl | inRest
        · simp
        · exact ih line inRest
      · rename_i other
        cases lines : t.splitOn lineFeed with
        | nil => exact absurd lines (List.splitOn_ne_nil _ _)
        | cons first rest =>
            simp only [lines, List.modifyHead_cons, List.mem_cons] at ih member
            rcases member with rfl | inRest
            · have apart : lineFeed ≠ c := fun same => other (by simp [same])
              simp [apart, ih first (.inl rfl)]
            · exact ih line (.inr inRest)

end Text

/-! ## Messages -/

namespace Diagnostic

/-- A message without its location. -/
def statement (d : Diagnostic) : Text :=
  match d.defect with
  | .emptyClassName =>
      text "classname for module '" ++ shown d.path ++ text "' with key '" ++ d.key ++
        text "' contained an empty string "
  | .malformedEntry =>
      text "classname for module '" ++ shown d.path ++ text "' with key '" ++ d.key ++
        text "' is not a string literal "
  | .malformedExpression =>
      text "CSS module expression for tagger '" ++ d.key ++ text "' is malformed: " ++
        shown d.detail ++ sign ' '

theorem message_eq (d : Diagnostic) : d.message = d.statement ++ location d.position := by
  unfold message statement
  cases d.defect <;> rfl

theorem notMem_location (c : CodePoint) (notDigit : c.isDigit = false)
    (notSign : c.isOneOf ['(', ',', ')', '-'] = false) (p : Position) : c ∉ location p := by
  simp only [CodePoint.isOneOf, List.any_cons, List.any_nil, Bool.or_false, Bool.or_eq_false_iff]
    at notSign
  have other : ∀ d : Char, c.is d = false → c ≠ CodePoint.ofChar d := by
    rintro d notIs rfl
    simp [CodePoint.is, CodePoint.ofChar] at notIs
  have notMinus := other '-' notSign.2.2.2
  simp [location, sign, other '(' notSign.1, other ',' notSign.2.1, other ')' notSign.2.2.1,
    Text.notMem_ofInt c notDigit notMinus]

/-- The location is read back from the end of a text: from its last opening
parenthesis to the comma, and from there to the end. -/
theorem located_inj (t u : Text) (p q : Position)
    (same : t ++ location p = u ++ location q) : t = u ∧ p = q := by
  have cut : ∀ p : Position, location p = CodePoint.ofChar '(' ::
      (Text.ofInt p.line ++ CodePoint.ofChar ',' :: (Text.ofInt p.column ++ sign ')')) := by
    intro p
    simp [location, sign]
  have noComma : ∀ n : Int, CodePoint.ofChar ',' ∉ Text.ofInt n ++ sign ')' := by
    intro n
    rw [List.mem_append, not_or]
    exact ⟨Text.notMem_ofInt _ (by decide) (by decide) n, by decide⟩
  have noParen : ∀ m n : Int, CodePoint.ofChar '(' ∉
      Text.ofInt m ++ CodePoint.ofChar ',' :: (Text.ofInt n ++ sign ')') := by
    intro m n
    have noNumeral := Text.notMem_ofInt (CodePoint.ofChar '(') (by decide) (by decide)
    rw [List.mem_append, List.mem_cons, List.mem_append, not_or, not_or, not_or]
    exact ⟨noNumeral m, by decide, noNumeral n, by decide⟩
  rw [cut, cut] at same
  obtain ⟨sameText, inside⟩ :=
    Text.cut_at_last _ _ _ _ _ (noParen _ _) (noParen _ _) same
  obtain ⟨sameLine, sameColumn⟩ :=
    Text.cut_at_last _ _ _ _ _ (noComma _) (noComma _) inside
  refine ⟨sameText, ?_⟩
  obtain ⟨line, column⟩ := p
  obtain ⟨line', column'⟩ := q
  rw [Position.mk.injEq]
  exact ⟨Text.ofInt_injective sameLine, Text.ofInt_injective (List.append_cancel_right sameColumn)⟩

theorem message_inj (d d' : Diagnostic) (same : d.message = d'.message) :
    d.statement = d'.statement ∧ d.position = d'.position := by
  rw [message_eq, message_eq] at same
  exact located_inj _ _ _ _ same

/-- What an attempt to set a field is answered with tells the field. -/
theorem refusal_injective : Function.Injective refusal := by
  intro field field' same
  exact List.append_cancel_left (List.append_cancel_right same)

theorem lineFeed_mem_message (d : Diagnostic) :
    lineFeed ∈ d.message ↔
      if d.defect = .malformedExpression then lineFeed ∈ d.key ∨ lineFeed ∈ shown d.detail
      else lineFeed ∈ shown d.path ∨ lineFeed ∈ d.key := by
  rw [message_eq, List.mem_append, or_iff_left (notMem_location _ (by decide) (by decide) _)]
  unfold statement
  cases d.defect <;> simp [text, sign, lineFeed, CodePoint.ofChar]

/-! ## The lines of a report -/

theorem report_eq (ds : List Diagnostic) (some : ds ≠ []) :
    report ds = header ++ ds.flatMap fun d => lineFeed :: (sign '\t' ++ d.message) := by
  have joined : ∀ ds : List Diagnostic, ds ≠ [] →
      text "\n\t" ++ Text.join (text "\n\t") (ds.map message) =
        ds.flatMap fun d => lineFeed :: (sign '\t' ++ d.message) := by
    intro ds
    induction ds with
    | nil => intro none; exact absurd rfl none
    | cons d rest ih =>
        intro _
        cases rest with
        | nil => simp [Text.join, text, sign, lineFeed]
        | cons next rest =>
            have later := ih (by simp)
            simp only [List.map_cons, Text.join, List.flatMap_cons] at later ⊢
            rw [← later]
            simp [text, sign, lineFeed]
  rw [report, List.append_assoc, joined ds some]

theorem splitOn_report (ds : List Diagnostic) (some : ds ≠ []) :
    (report ds).splitOn lineFeed =
      header :: ds.flatMap fun d => (sign '\t' ++ d.message).splitOn lineFeed := by
  have split : ∀ (ds : List Diagnostic) (t : Text),
      (t ++ ds.flatMap fun d => lineFeed :: (sign '\t' ++ d.message)).splitOn lineFeed =
        t.splitOn lineFeed ++
          ds.flatMap fun d => (sign '\t' ++ d.message).splitOn lineFeed := by
    intro ds
    induction ds with
    | nil => simp
    | cons d rest ih =>
        intro t
        rw [List.flatMap_cons, List.flatMap_cons, List.cons_append,
          List.splitOn_append_cons_self, ih]
  have oneLine : header.splitOn lineFeed = [header] := List.splitOn_eq_singleton (by decide)
  rw [report_eq ds some, split, oneLine]
  rfl

/-- A report has at least a line for each diagnostic, and the header. -/
theorem length_lt_lines (ds : List Diagnostic) (some : ds ≠ []) :
    ds.length < ((report ds).splitOn lineFeed).length := by
  have enough : ∀ ds : List Diagnostic,
      ds.length ≤ (ds.flatMap fun d => (sign '\t' ++ d.message).splitOn lineFeed).length := by
    intro ds
    induction ds with
    | nil => simp
    | cons d rest ih =>
        have line := List.length_pos_of_ne_nil
          (List.splitOn_ne_nil lineFeed (sign '\t' ++ d.message))
        rw [List.flatMap_cons, List.length_append, List.length_cons]
        omega
  rw [splitOn_report ds some, List.length_cons]
  exact Nat.lt_succ_of_le (enough ds)

/-- A report has a line for each diagnostic if no message holds a line feed, and only
then. -/
theorem lines_report_iff (ds : List Diagnostic) (some : ds ≠ []) :
    (report ds).splitOn lineFeed = header :: ds.map (sign '\t' ++ ·.message) ↔
      ∀ d ∈ ds, lineFeed ∉ d.message := by
  constructor
  · intro lines d member
    have isLine : sign '\t' ++ d.message ∈ (report ds).splitOn lineFeed := by
      rw [lines]
      exact List.mem_cons_of_mem _ (List.mem_map_of_mem member)
    have noBreak := Text.lineFeed_notMem_line _ _ isLine
    exact fun inMessage => noBreak (List.mem_append_right _ inMessage)
  · intro noBreak
    rw [splitOn_report ds some, List.cons_inj_right, List.map_eq_flatMap]
    apply List.flatMap_congr
    intro d member
    apply List.splitOn_eq_singleton
    have notTab : lineFeed ∉ sign '\t' := by decide
    simp [notTab, noBreak d member]

end Diagnostic

/-! ## The report of a run -/

theorem Entry.defect?_ne_malformedExpression (path loader : Text) (entry : Entry)
    (defect : Defect) (key : Text) (given : defect? path loader entry = some (defect, key)) :
    defect ≠ .malformedExpression := by
  unfold defect? at given
  split at given
  · split at given
    · cases given
      simp
    · cases given
  · split at given
    · cases given
    · cases given
      simp

/-- A call that declares names the tagger, so the tagger is an identifier. -/
theorem Module.lineFeed_notMem_tagger (tagger code : Text) (m : Module)
    (parsed : Module.parse code = .ok m) (o : Occurrence) (occurs : o ∈ m.occurrences)
    (declared : Call.declares tagger o.function o.arguments = true) : lineFeed ∉ tagger := by
  have isCall : o.call ∈ m.calls := by
    rw [← m.map_call_occurrences]
    exact List.mem_map_of_mem occurs
  have named : tagger ∈ m.names := by
    by_contra unnamed
    have plain := m.notDeclared_of_unnamed tagger unnamed o.call isCall
    rw [show o.call.declares tagger = true from declared] at plain
    cases plain
  intro member
  have isPart := Scan.namePart_of_identifier tagger
    (m.isIdentifier_of_parse code parsed tagger named) lineFeed member
  exact absurd isPart (by decide)

theorem Call.Malformation.lineFeed_notMem_detail (reason : Call.Malformation) :
    lineFeed ∉ reason.detail := by
  cases reason with
  | count found =>
      rw [detail, List.mem_append, not_or]
      refine ⟨by decide, ?_⟩
      intro member
      exact absurd (Text.isDigit_of_mem_ofNat found lineFeed member) (by decide)
  | notPositional => decide
  | path => decide
  | classMap => decide

theorem Occurrence.lineFeed_mem_message (settings : Settings) (newline : Text) (o : Occurrence)
    (x : Offence) (oneLine : lineFeed ∉ settings.tagger)
    (offends : Occurrence.Offends settings newline o x) :
    lineFeed ∈ x.diagnostic.message ↔
      ∃ path, x.path = some path ∧ (lineFeed ∈ path ∨ lineFeed ∈ x.key) := by
  rw [Diagnostic.lineFeed_mem_message]
  cases offends with
  | call reason outer =>
      simp [Offence.diagnostic, Diagnostic.shown, oneLine, reason.lineFeed_notMem_detail]
  | argument reason inner p isArgument =>
      simp [Offence.diagnostic, Diagnostic.shown, oneLine, reason.lineFeed_notMem_detail]
  | element path found isEntry defect key given =>
      have notExpression := Entry.defect?_ne_malformedExpression path settings.loader found.2
        defect key given
      simp [Offence.diagnostic, Diagnostic.shown, notExpression]

theorem Outcome.report_eq (outcome : Outcome) (some : outcome.diagnostics ≠ []) :
    outcome.report = Diagnostic.report outcome.diagnostics := by
  rw [report, if_neg]
  simpa using some

/-- The lines of the report of a run that fails: the header, and then the lines of
each message after a tab.  That is one line for each diagnostic if no message holds a
line feed, and only then; and a message holds one if the path of the style module or
the key of the element that it names does. -/
theorem Run.report_lines (settings : Settings) (threshold : Int) (code : Text)
    (outcome : Outcome) (given : Run.source settings threshold code = .ok outcome)
    (failed : outcome.isSuccess = false) :
    outcome.report.splitOn lineFeed =
      Diagnostic.header :: outcome.diagnostics.flatMap
        (fun d => (sign '\t' ++ d.message).splitOn lineFeed) ∧
    (outcome.report.splitOn lineFeed =
        Diagnostic.header :: outcome.diagnostics.map (fun d => sign '\t' ++ d.message) ↔
      ∀ d ∈ outcome.diagnostics, lineFeed ∉ d.message) ∧
    ∀ d ∈ outcome.diagnostics, lineFeed ∈ d.message ↔
      ∃ path, d.path = some path ∧ (lineFeed ∈ path ∨ lineFeed ∈ d.key) := by
  have some : outcome.diagnostics ≠ [] := by
    intro none
    simp [Outcome.isSuccess, none] at failed
  rw [outcome.report_eq some]
  refine ⟨Diagnostic.splitOn_report _ some, Diagnostic.lines_report_iff _ some, ?_⟩
  obtain ⟨m, parsed, same⟩ := Run.offences_source settings threshold code outcome given
  intro d member
  rw [same] at member
  obtain ⟨x, isOffence, rfl⟩ := List.mem_map.mp member
  obtain ⟨o, occurs, offence⟩ := List.mem_flatMap.mp isOffence
  obtain ⟨declared, offends⟩ := o.offends_of_mem settings m.newline x offence
  have oneLine := m.lineFeed_notMem_tagger settings.tagger code parsed o occurs declared
  exact o.lineFeed_mem_message settings m.newline x oneLine offends

/-- The report, and how many diagnostics it is about. -/
def Outcome.account (outcome : Outcome) : Text × Nat :=
  (outcome.report, outcome.diagnostics.length)

def Sample.aboutTwo : Text :=
  text ("elm-css-modules-plugin:\n" ++
    "\tclassname for module 'p' with key 'x' is not a string literal (1,15)\n" ++
    "\tclassname for module 'p' with key 'y' is not a string literal (2,5)")

/-- Two elements that are no class names. -/
def Sample.twoElements : Sample.Known Outcome.account where
  code := text "A2(t, 'p', \x7bx: 1,\n  y: 2\x7d)\n"
  seen := (aboutTwo, 2)
  known := by decide +kernel

/-- An element that is no class name, and a path that has the message about another in
it. -/
def Sample.oneElement : Sample.Known Outcome.account where
  code := text ("A2(t, 'p\\' with key \\'x\\' is not a string literal (1,15)\\n" ++
    "\\tclassname for module \\'p', \x7b\n  y: 2\x7d)\n")
  seen := (aboutTwo, 1)
  known := by decide +kernel

theorem Run.report_lines_sample :
    ∃ outcome, Run.source Sample.settings 0 Sample.twoElements.code = .ok outcome ∧
      outcome.isSuccess = false ∧
      outcome.report.splitOn lineFeed =
        Diagnostic.header :: outcome.diagnostics.flatMap
          (fun d => (sign '\t' ++ d.message).splitOn lineFeed) := by
  obtain ⟨outcome, given, seen⟩ := Sample.twoElements.returns
  have two : outcome.diagnostics.length = 2 := (Prod.mk.inj seen).2
  have failed : outcome.isSuccess = false := by
    rw [Outcome.isSuccess, List.isEmpty_eq_false_iff_exists_mem, ← List.length_pos_iff_exists_mem,
      two]
    omega
  exact ⟨outcome, given, failed, (Run.report_lines _ _ _ _ given failed).1⟩

/-- The messages of a run cannot be read back from its report. -/
theorem Run.report_ambiguous :
    ∃ one two, Run.source Sample.settings 0 Sample.oneElement.code = .ok one ∧
      Run.source Sample.settings 0 Sample.twoElements.code = .ok two ∧
      one.report = two.report ∧
      one.diagnostics.map Diagnostic.message ≠ two.diagnostics.map Diagnostic.message ∧
      one.report.splitOn lineFeed ≠
        Diagnostic.header :: one.diagnostics.map (fun d => sign '\t' ++ d.message) := by
  obtain ⟨one, given, seen⟩ := Sample.oneElement.returns
  obtain ⟨two, given', seen'⟩ := Sample.twoElements.returns
  obtain ⟨report, length⟩ := Prod.mk.inj seen
  obtain ⟨report', length'⟩ := Prod.mk.inj seen'
  have same : one.report = two.report := report.trans report'.symm
  refine ⟨one, two, given, given', same, ?_, ?_⟩
  · intro messages
    have sameLength := congrArg List.length messages
    rw [List.length_map, List.length_map, length, length'] at sameLength
    cases sameLength
  · intro lines
    have some : two.diagnostics ≠ [] := by
      rintro none
      rw [none] at length'
      cases length'
    have three := Diagnostic.length_lt_lines two.diagnostics some
    rw [← two.report_eq some, ← same, lines, List.length_cons, List.length_map, length, length']
      at three
    exact absurd three (by decide)

end ClassMaps
