import ClassMaps.Proofs.Acceptance
import ClassMaps.Proofs.Parsing

/-!
# Transforming twice

What `transform` gives is a source again, and transforming it again should give
the same.  It does if the source is read as the tree that was printed.  Each
lookup that is written is read as itself, by a loader that is read as a name and
for texts without a lone surrogate.  Other outputs need not be read at all: a
surrogate, which an escape of the input can denote, is written as it is and is
then no source, and a loader that is called like a keyword makes no call.
-/

set_option autoImplicit false

namespace ClassMaps

/-! ## Surrogates -/

theorem CodePoint.not_surrogate_of_ascii (p : CodePoint) (ascii : p.val < 0x80) :
    p.isSurrogate = false := by
  simp only [isSurrogate, Bool.and_eq_false_iff, decide_eq_false_iff_not]
  omega

theorem CodePoint.not_surrogate_of_isIn (p : CodePoint) (table : List (Nat × Nat))
    (apart : ∀ range ∈ table, range.2 < 0xD800 ∨ 0xE000 ≤ range.1)
    (found : p.isIn table = true) : p.isSurrogate = false := by
  simp only [isIn, List.any_eq_true, Bool.and_eq_true, decide_eq_true_eq] at found
  obtain ⟨range, member, above, below⟩ := found
  have outside := apart range member
  simp only [isSurrogate, Bool.and_eq_false_iff, decide_eq_false_iff_not]
  omega

theorem CodePoint.not_surrogate_of_continues (p : CodePoint)
    (continues : p.continuesIdentifier = true) : p.isSurrogate = false := by
  unfold continuesIdentifier at continues
  split at continues
  · rename_i ascii
    exact p.not_surrogate_of_ascii (by simpa [isAscii] using ascii)
  · rcases Bool.or_eq_true _ _ |>.mp continues with starts | goesOn
    · exact p.not_surrogate_of_isIn _ (by decide +kernel) starts
    · exact p.not_surrogate_of_isIn _ (by decide +kernel) goesOn

namespace Text

theorem hasSurrogate_append (s t : Text) :
    hasSurrogate (s ++ t) = (hasSurrogate s || hasSurrogate t) := by
  simp [hasSurrogate]

theorem hasSurrogate_identifier (name : Text) (named : isIdentifier name = true) :
    hasSurrogate name = false := by
  cases name with
  | nil => rfl
  | cons c more =>
      simp only [isIdentifier, Bool.and_eq_true, List.all_eq_true] at named
      have first := c.not_surrogate_of_continues (Scan.continues_of_starts c named.1)
      simp only [hasSurrogate, List.any_cons, first, Bool.false_or, List.any_eq_false,
        Bool.not_eq_true]
      exact fun d member => d.not_surrogate_of_continues (named.2 d member)

theorem hasSurrogate_spell (c : CodePoint) : hasSurrogate (Literal.spell c) = c.isSurrogate := by
  cases surrogate : c.isSurrogate with
  | true =>
      have large : 0xD800 ≤ c.val := by
        simp only [CodePoint.isSurrogate, Bool.and_eq_true, decide_eq_true_eq] at surrogate
        exact surrogate.1
      have differs : ∀ l : Char, l.toNat < 0x80 → c.is l = false := by
        intro l ascii
        simp only [CodePoint.is, beq_eq_false_iff_ne]
        omega
      have plain : Literal.spell c = [c] := by
        simp only [Literal.spell, differs '\x22' (by decide), differs '\\' (by decide),
          differs '\n' (by decide), differs '\r' (by decide), differs '\t' (by decide),
          Bool.false_eq_true, if_false]
        rw [if_neg (by omega), if_neg (by omega), if_neg (by omega)]
      simp [plain, hasSurrogate, surrogate]
  | false =>
      rw [hasSurrogate, List.any_eq_false]
      intro d member
      rw [Bool.not_eq_true]
      rcases (Literal.mem_spell c d member).2 with rfl | ascii
      · exact surrogate
      · exact d.not_surrogate_of_ascii ascii

/-- A literal is written with the surrogates of its content. -/
theorem hasSurrogate_quote (t : Text) : hasSurrogate (Literal.quote t) = hasSurrogate t := by
  have quotes : hasSurrogate (sign '\x22') = false := by decide
  rw [Literal.quote, hasSurrogate_append, hasSurrogate_append, quotes, Bool.false_or,
    Bool.or_false]
  induction t with
  | nil => rfl
  | cons c t ih =>
      rw [List.flatMap_cons, hasSurrogate_append, hasSurrogate_spell, ih]
      rfl

theorem hasSurrogate_spelling (loader path className : Text)
    (named : isIdentifier loader = true) :
    hasSurrogate (Lookup.spelling loader path className) =
      (hasSurrogate path || hasSurrogate className) := by
  have signs : hasSurrogate (sign '(') = false ∧ hasSurrogate (text ")[") = false ∧
      hasSurrogate (sign ']') = false := by decide
  simp only [Lookup.spelling, hasSurrogate_append, hasSurrogate_identifier loader named,
    hasSurrogate_quote, signs, Bool.false_or, Bool.or_false]

end Text

/-! ## Lookups as sources -/

namespace Lookup

variable (loader path className : Text) (named : Text.isIdentifier loader = true)
include named

theorem scan?_spelling (newline : Text) :
    Token.scan? newline (spelling loader path className) =
      some (tokens [] loader path className ++ [⟨.newline, [], []⟩, ⟨.finish, [], []⟩]) := by
  obtain ⟨c, more, starts, firm⟩ : ∃ c more, spelling loader path className = c :: more ∧
      Scan.isFirm c = true := by
    cases loader with
    | nil => cases named
    | cons c more =>
        simp only [Text.isIdentifier, Bool.and_eq_true] at named
        exact ⟨c, _, rfl, (Scan.firm_of_starts c named.1).1⟩
  have long : 7 ≤ 2 * (spelling loader path className).length := by
    simp [spelling, sign, Literal.quote]
    omega
  have yields := Scan.yields_lookup newline ⟨[], [], [], false⟩ (spelling loader path className)
    loader path className [] [] ⟨rfl, rfl⟩
    (by rw [List.append_nil, starts]; exact Scan.gap_of_firm newline _ c more firm) named
  rw [starts] at long yields ⊢
  exact Scan.scan?_line newline c more _ firm long yields

theorem reads_tokens (readable : Python.isReadable loader = true) :
    Grammar.Reads Python.rules 150 Python.oneExpression
      (tokens [] loader path className ++ [⟨.newline, [], []⟩, ⟨.finish, [], []⟩])
      [.gap [], .expr (expr (.name loader) path className), .gap [], .token [], .gap [],
        .token []] [] := by
  have starts := Python.startsOperand_name [] loader readable named
  have value := Python.reads_lookup [] loader path className ⟨.newline, [], []⟩
    [⟨.finish, [], []⟩] readable named (fun _ _ => rfl)
  have item := Grammar.Reads.rule Python.Rule.starExpression
    (.either_second (.node _ (.seq (.word _ (starts _ (by decide))))) value)
  have row := Grammar.Reads.rule Python.Rule.starExpressions
    (item.grow (.stop_one false _ (.seq (.word _ rfl))))
  exact .mono ((row.seq (.kind .newline rfl)).seq (.kind .finish rfl)) (by decide)

end Lookup

/-- What is written for a class name is read as its lookup. -/
theorem Expr.parse_spelling (loader path className : Text)
    (named : Text.isIdentifier loader = true) (readable : Python.isReadable loader = true)
    (wholePath : Text.hasSurrogate path = false)
    (wholeName : Text.hasSurrogate className = false) :
    Expr.parse (Lookup.spelling loader path className) =
      .ok (Lookup.expr (.name loader) path className) := by
  have noSurrogate : Text.hasSurrogate (Lookup.spelling loader path className) = false := by
    rw [Text.hasSurrogate_spelling loader path className named, wholePath, wholeName]
    rfl
  have scanned := Lookup.scan?_spelling loader path className named
    (Source.newlineOf (Lookup.spelling loader path className))
  have read : Grammar.read? Python.rules Python.oneExpression _ = _ :=
    Lookup.reads_tokens loader path className named readable _ (by simp [Lookup.tokens])
  have unmixed : Token.mixesBytes (Lookup.tokens [] loader path className ++
      [⟨.newline, [], []⟩, ⟨.finish, [], []⟩]) = false := by
    cases keyword : Scan.keywords.contains loader <;>
      simp only [Lookup.tokens, Token.ofName, keyword] <;> rfl
  have whole : Source.read Python.oneExpression (Lookup.spelling loader path className) =
      .ok [.gap [], .expr (Lookup.expr (.name loader) path className), .gap [], .token [],
        .gap [], .token []] := by
    simp only [Source.read, noSurrogate, scanned, read, unmixed, Bool.false_eq_true, if_false]
  rw [Expr.parse, whole]
  rfl

/-! ## What is written -/

/-- What takes the place of a span stands in the new text. -/
theorem Spliced.written {start : Nat} {old new : Text} {spans : List Span}
    (given : Spliced start old spans new) : ∀ span ∈ spans, span.new <:+: new := by
  induction given with
  | keep start t => intro span member; cases member
  | replace start old new =>
      intro span member
      rw [List.mem_singleton] at member
      subst member
      exact List.infix_refl new
  | @append start old old' new new' spans spans' first second firstWritten secondWritten =>
      intro span member
      rcases List.mem_append.mp member with inFirst | inSecond
      · exact (firstWritten span inFirst).trans (List.prefix_append new new').isInfix
      · exact (secondWritten span inSecond).trans (List.suffix_append new new').isInfix

/-- The lookup of every class name stands in the output. -/
theorem Module.spelling_infix (settings : Settings) (m : Module) (call : Expr)
    (isCall : call ∈ m.calls) (path : Text) (elements : List Entry)
    (declared : call.classMap? settings.tagger = some (path, elements)) (entry : Entry)
    (member : entry ∈ elements) (name className : Text)
    (found : Entry.className? entry = some (name, className)) :
    Lookup.spelling settings.loader path className <:+: (m.resolved settings).code := by
  obtain ⟨o, rfl, occurs⟩ := Occurrence.mem_calls m call isCall
  have hasMap : o.classMap? settings.tagger = some (path, elements) := declared
  rw [← o.entries_of_classMap? settings.tagger m.newline path elements hasMap] at member
  obtain ⟨located, inEntries, rfl⟩ := List.mem_map.mp member
  have isSpan : ⟨located.1.length, located.2.value.print m.newline,
      Lookup.spelling settings.loader path className⟩ ∈ o.spans settings m.newline := by
    simp only [Occurrence.spans, hasMap]
    exact List.mem_filterMap.mpr ⟨located, inEntries, by simp [Entry.span?, found]⟩
  obtain ⟨spans, spliced, perm⟩ := (splices_resolved settings m.newline).2.2.2 m.parts []
  exact spliced.written _ (perm.mem_iff.mpr (List.mem_flatMap.mpr ⟨o, occurs, isSpan⟩))

/-- A path that is written into a source holds no surrogate. -/
theorem Module.whole_of_code (settings : Settings) (m : Module)
    (readable : Text.hasSurrogate (m.resolved settings).code = false) :
    ∀ call ∈ m.calls, ∀ path elements, call.classMap? settings.tagger = some (path, elements) →
      ∀ entry ∈ elements, (Entry.className? entry).isSome → Text.hasSurrogate path = false := by
  intro call isCall path elements declared entry member hasName
  obtain ⟨⟨name, className⟩, found⟩ := Option.isSome_iff_exists.mp hasName
  obtain ⟨before, after, whole⟩ := m.spelling_infix settings call isCall path elements declared
    entry member name className found
  rw [← whole, Lookup.spelling] at readable
  simp only [Text.hasSurrogate_append, Text.hasSurrogate_quote, Bool.or_eq_false_iff] at readable
  exact readable.1.2.1.1.1.2

/-! ## Declarations of lookups -/

theorem Entry.inOrder_of_isLookup (path loader : Text) (entry : Entry)
    (lookup : Entry.isLookup path loader entry = true) :
    Entry.InOrder path loader entry ∧ Entry.fault? path loader entry = none := by
  cases entry with
  | spread gap value comma => cases lookup
  | pair key before after value comma =>
      have recognized := (Entry.isLookup_pair_iff path loader key value before after comma).mp lookup
      exact ⟨.inl recognized, by simp [Entry.fault?, Entry.judge, recognized]⟩

/-- What a declaration in order becomes is in order, and a run gets past it. -/
theorem Occurrence.sound_resolved (settings : Settings) (o : Occurrence)
    (passes : o.call.Passes settings Log.standard)
    (becomes : o.call.BecomesLookups settings (o.call.resolved settings none)) :
    (o.call.resolved settings none).InOrder settings ∧
      (o.call.resolved settings none).Passes settings Log.standard := by
  obtain ⟨path, elements, lookups, _, hasMap, _, allLookups⟩ := becomes
  have sound := fun entry member =>
    Entry.inOrder_of_isLookup path settings.loader entry (allLookups entry member)
  refine ⟨?_, ?_, fun _ _ _ => rfl⟩
  · intro declares
    exact (Call.inOrder_iff settings _ _ declares).mpr
      ⟨path, lookups, hasMap, fun entry member => (sound entry member).1⟩
  · refine (Call.fault?_eq_none_iff _ _ _).mpr ⟨?_, ?_⟩
    · rw [Call.isOk_verdict_resolved]
      exact ((Call.fault?_eq_none_iff _ _ _).mp passes.1).1
    · intro path' elements' hasMap' entry member
      obtain ⟨rfl, rfl⟩ : path = path' ∧ lookups = elements' := by
        have same := hasMap.symm.trans hasMap'
        simpa using same
      exact (sound entry member).2

theorem Module.sound_resolved (settings : Settings) (m : Module)
    (inOrder : ∀ call ∈ m.calls, call.InOrder settings)
    (passes : ∀ call ∈ m.calls, call.Passes settings Log.standard)
    (readable : Text.hasSurrogate (m.resolved settings).code = false) :
    ∀ call ∈ (m.resolved settings).calls,
      call.InOrder settings ∧ call.Passes settings Log.standard := by
  intro call member
  cases declared : call.declares settings.tagger with
  | false =>
      refine ⟨?_, call.passes_of_notDeclared settings Log.standard declared⟩
      rw [← Expr.briefs_eq_nil_iff]
      exact call.briefs_of_notDeclared settings declared
  | true =>
      have among : call ∈ (m.resolved settings).calls.filter (Expr.declares settings.tagger) :=
        List.mem_filter.mpr ⟨member, declared⟩
      rw [m.declared_resolved] at among
      obtain ⟨source, inSource, rfl⟩ := List.mem_map.mp among
      obtain ⟨isCall, declares⟩ := List.mem_filter.mp inSource
      obtain ⟨o, rfl, _⟩ := Occurrence.mem_calls m source isCall
      exact o.sound_resolved settings (passes _ isCall)
        (o.becomesLookups settings declares (inOrder _ isCall)
          (m.whole_of_code settings readable _ isCall))

/-! ## Transforming twice -/

/-- What is read holds no surrogate. -/
theorem Source.whole_of_read (start : Grammar Python.Rule) (source : Text) (row : List Fragment)
    (given : Source.read start source = .ok row) : Text.hasSurrogate source = false := by
  unfold Source.read at given
  split at given
  · cases given
  · rename_i whole
    simpa using whole

theorem Module.whole_of_parse (source : Text) (m : Module) (given : Module.parse source = .ok m) :
    Text.hasSurrogate m.code = false := by
  rw [Module.code_parse source m given]
  unfold Module.parse at given
  cases read : Source.read Python.file (Source.withoutMark source) with
  | error fault => simp [read, Except.map] at given
  | ok row => exact Source.whole_of_read _ _ row read

/-- A transform that returns is a run without diagnostics. -/
theorem transform_ok (code c : Text) (tagger loader : Option Given) (settings : Settings)
    (accepted : Settings.ofTruthy tagger loader = .ok settings)
    (returned : transform code tagger loader = .ok c) :
    ∃ m outcome, Module.parse code = .ok m ∧ Run.tree settings Log.standard m = .ok outcome ∧
      outcome.diagnostics = [] ∧ c = (m.resolved settings).code := by
  cases given : Run.source settings Log.standard code with
  | error fault => simp [transform, accepted, given] at returned
  | ok outcome =>
      obtain ⟨m, parsed, ran⟩ := Run.source_ok settings Log.standard code outcome given
      rw [transform_of_source code tagger loader settings Log.standard outcome accepted given]
        at returned
      split at returned
      · rename_i clean
        refine ⟨m, outcome, parsed, ran, clean, ?_⟩
        rw [← Run.module_tree settings Log.standard m outcome ran]
        exact (Except.ok.inj returned).symm
      · cases returned

/-- An output that is read as the tree that it was printed from is its own
transform. -/
theorem transform_transform (code c : Text) (tagger loader : Option Given) (settings : Settings)
    (m : Module) (accepted : Settings.ofTruthy tagger loader = .ok settings)
    (parsed : Module.parse code = .ok m) (returned : transform code tagger loader = .ok c)
    (reread : Module.parse c = .ok (m.resolved settings)) :
    transform c tagger loader = .ok c := by
  obtain ⟨m', first, parsed', ran, clean, printed⟩ :=
    transform_ok code c tagger loader settings accepted returned
  obtain rfl : m = m' := Except.ok.inj (parsed.symm.trans parsed')
  have inOrder := (Run.diagnostics_eq_nil_iff _ _ _ first ran).mp clean
  have passes := (Run.tree_returns_iff _ _ _).mp ⟨first, ran⟩
  have sound := m.sound_resolved settings inOrder passes (Module.whole_of_parse c _ reread)
  obtain ⟨second, ranAgain⟩ := (Run.tree_returns_iff settings Log.standard _).mpr
    fun call member => (sound call member).2
  have cleanAgain := (Run.diagnostics_eq_nil_iff _ _ _ second ranAgain).mpr
    fun call member => (sound call member).1
  have again : Run.source settings Log.standard c = .ok second := by
    simp only [Run.source, reread, ranAgain]
  rw [transform_of_source c tagger loader settings Log.standard second accepted again,
    if_pos cleanAgain, Outcome.code, Run.module_tree _ _ _ second ranAgain,
    m.resolved_resolved settings settings rfl, ← printed]

instance : DecidableEq Module := fun m m' =>
  decidable_of_iff (m.newline = m'.newline ∧ Part.sameAll m.parts m'.parts = true) (by
    rw [Expr.same_iff.2.2.2]
    cases m
    cases m'
    simp)

namespace Sample

def tagger : Option Given := some (.text (text "t"))

def keywordLoader : Option Given := some (.text (text "if"))

/-- A class name that is a lone surrogate, by an escape. -/
def lone : Text := text "A2(t, 'p', \x7bx: '\\ud800'\x7d)\n"

def loneOutput : Text :=
  text "A2(t, 'p', \x7bx: require(\"p\")[\"" ++ (CodePoint.ofNat? 0xD800).toList ++
    text "\"]\x7d)\n"

def plain : Text := text "A2(t, 'p', \x7bx: 'a'\x7d)\n"

def keywordOutput : Text := text "A2(t, 'p', \x7bx: if(\"p\")[\"a\"]\x7d)\n"

def plainOutput : Text := text "A2(t, 'p', \x7bx: require(\"p\")[\"a\"]\x7d)\n"

end Sample

theorem transform_transform_sample :
    ∃ m, Settings.ofTruthy Sample.tagger none = .ok Sample.settings ∧
      Module.parse Sample.plain = .ok m ∧
      transform Sample.plain Sample.tagger none = .ok Sample.plainOutput ∧
      Module.parse Sample.plainOutput = .ok (m.resolved Sample.settings) ∧
      transform Sample.plainOutput Sample.tagger none = .ok Sample.plainOutput := by
  have accepted : Settings.ofTruthy Sample.tagger none = .ok Sample.settings := rfl
  have returned : transform Sample.plain Sample.tagger none = .ok Sample.plainOutput := by
    decide +kernel
  obtain ⟨m, parsed, reread⟩ := Sample.returns_of_seen (Module.parse Sample.plain)
    (fun m => decide (Module.parse Sample.plainOutput = .ok (m.resolved Sample.settings))) true
    (by decide +kernel)
  have reread := of_decide_eq_true reread
  exact ⟨m, accepted, parsed, returned, reread,
    transform_transform _ _ _ _ _ m accepted parsed returned reread⟩

/-- Two outputs that are no sources: one with a lone surrogate, one with a
keyword for a loader. -/
theorem transform_output_unreadable :
    transform Sample.lone Sample.tagger none = .ok Sample.loneOutput ∧
    transform Sample.loneOutput Sample.tagger none = .error (.run (.source .surrogate)) ∧
    transform Sample.plain Sample.tagger Sample.keywordLoader = .ok Sample.keywordOutput ∧
    transform Sample.keywordOutput Sample.tagger Sample.keywordLoader =
      .error (.run (.source .grammar)) := by
  decide +kernel

end ClassMaps
