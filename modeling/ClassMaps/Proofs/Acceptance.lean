import ClassMaps.Proofs.Idempotence
import Mathlib.Data.List.Forall2

/-!
# Which sources are transformed

A source is transformed if every declaration in it is in order: three
arguments without marks, a literal path, and a dict display whose entries are
all lookups of that path already or class names that are not empty.  In the
output the same calls declare, in the same order, and all their entries are
lookups.
-/

set_option autoImplicit false

namespace ClassMaps

/-! ## Declarations in order -/

def Entry.InOrder (path loader : Text) : Entry → Prop
  | .pair key _ _ value _ =>
      Lookup.recognizes value loader (some path) = .ok true ∨
        ∃ name className, key.name? = some name ∧ value.stringValue = .ok (some className) ∧
          className ≠ []
  | .spread _ _ _ => False

def Call.InOrder (loader : Text) (arguments : List Argument) : Prop :=
  ∃ first second third path opening elements closing,
    arguments = [first, second, third] ∧
    (first.isPositional ∧ second.isPositional ∧ third.isPositional) ∧
    second.value.stringValue = .ok (some path) ∧
    third.value.stripped = .dict opening elements closing ∧
    ∀ entry ∈ elements, Entry.InOrder path loader entry

/-- A call is in order if it declares no class map, or one in order. -/
def Expr.InOrder (settings : Settings) : Expr → Prop
  | .call function _ _ arguments _ =>
      Call.declares settings.tagger function arguments →
        Call.InOrder settings.loader arguments
  | _ => True

theorem Entry.isLookup_pair_iff (path loader : Text) (key value : Expr) (before after : Gap)
    (comma : Option Comma) :
    Entry.isLookup path loader (.pair key before after value comma) = true ↔
      Lookup.recognizes value loader (some path) = .ok true := by
  simp only [Entry.isLookup]
  cases Lookup.recognizes value loader (some path) <;> simp

theorem Entry.defect?_eq_none_iff (path loader : Text) (entry : Entry) :
    Entry.defect? path loader entry = none ↔ Entry.InOrder path loader entry := by
  cases entry with
  | spread gap value comma => simp [Entry.defect?, Entry.className?, Entry.isLookup, Entry.InOrder]
  | pair key before after value comma =>
      have lookup := Entry.isLookup_pair_iff path loader key value before after comma
      cases found : Entry.className? (.pair key before after value comma) with
      | none =>
          have noName : ¬ ∃ name className, key.name? = some name ∧
              value.stringValue = .ok (some className) ∧ className ≠ [] := by
            rintro ⟨name, className, isName, isText, _⟩
            rw [← Expr.text?_eq_some_iff] at isText
            simp [Entry.className?, isName, isText] at found
          rw [Entry.InOrder, or_iff_left noName, ← lookup]
          simp [Entry.defect?, found]
      | some named =>
          simp only [Entry.className?, Option.bind_eq_some_iff, Option.map_eq_some_iff] at found
          obtain ⟨name, isName, className, isText, rfl⟩ := found
          -- A lookup denotes no text, so only the class name decides.
          have noLookup : ¬ Lookup.recognizes value loader (some path) = .ok true := by
            intro recognized
            rw [Entry.text?_of_recognizes value loader path recognized] at isText
            cases isText
          have read := (value.text?_eq_some_iff className).mp isText
          cases className <;>
            simp [Entry.defect?, Entry.className?, Entry.InOrder, isName, isText, noLookup, read]

namespace Call

variable (settings : Settings) (function : Expr) (arguments : List Argument)
  (declared : declares settings.tagger function arguments = true)
include declared

theorem inOrder_iff :
    InOrder settings.loader arguments ↔ ∃ path elements,
      classMap? settings.tagger function arguments = some (path, elements) ∧
      ∀ entry ∈ elements, Entry.InOrder path settings.loader entry := by
  constructor
  · rintro ⟨first, second, third, path, opening, elements, closing, rfl, positional, read, shape,
      entriesInOrder⟩
    have isText := (second.value.text?_eq_some_iff path).mpr read
    have display := third.value.isDict_iff.mpr ⟨opening, elements, closing, shape⟩
    have passed := (malformation?_eq_none_iff [first, second, third]).mpr
      ⟨first, second, third, path, rfl, positional, isText, display⟩
    refine ⟨path, elements, ?_, entriesInOrder⟩
    simp [classMap?, declared, passed, isText, Expr.elements, shape]
  · rintro ⟨path, elements, hasMap, entriesInOrder⟩
    have passed : malformation? arguments = none := by
      unfold classMap? at hasMap
      split at hasMap
      · rename_i tested
        simpa [declared] using tested
      · cases hasMap
    obtain ⟨first, second, third, opening, closing, rfl, isText, shape⟩ :=
      classMap?_cases _ _ _ _ _ hasMap
    obtain ⟨_, _, _, _, same, positional, _⟩ := (malformation?_eq_none_iff _).mp passed
    simp only [List.cons.injEq, and_true] at same
    obtain ⟨rfl, rfl, rfl⟩ := same
    exact ⟨first, second, third, path, opening, elements, closing, rfl, positional,
      (second.value.text?_eq_some_iff path).mp isText, shape, entriesInOrder⟩

theorem briefs_eq_nil_iff :
    briefs settings function arguments = [] ↔ InOrder settings.loader arguments := by
  rw [inOrder_iff settings function arguments declared]
  cases failed : malformation? arguments with
  | some reason => simp [briefs, declared, failed, classMap?]
  | none =>
      obtain ⟨first, second, third, path, rfl, _, isText, _⟩ :=
        (malformation?_eq_none_iff arguments).mp failed
      simp only [briefs, declared, failed, classMap?, isText, if_true, Option.isNone_none,
        Bool.and_self, Option.map_some, List.filterMap_eq_nil_iff, Entry.brief?,
        Option.map_eq_none_iff, Entry.defect?_eq_none_iff, Option.some.injEq, Prod.mk.injEq]
      constructor
      · intro entriesInOrder
        exact ⟨path, _, ⟨rfl, rfl⟩, entriesInOrder⟩
      · rintro ⟨_, _, ⟨rfl, rfl⟩, entriesInOrder⟩
        exact entriesInOrder

end Call

theorem Expr.briefs_eq_nil_iff (settings : Settings) (call : Expr) :
    call.briefs settings = [] ↔ call.InOrder settings := by
  cases call with
  | call function gap opening arguments closing =>
      cases declared : Call.declares settings.tagger function arguments with
      | true => simp [Expr.briefs, Expr.InOrder, declared, Call.briefs_eq_nil_iff]
      | false => simp [Expr.briefs, Expr.InOrder, Call.briefs, declared]
  | _ => simp [Expr.briefs, Expr.InOrder]

/-! ## Resolved declarations -/

/-- A declaration and what it becomes: the same path and as many entries, all of
which are lookups of that path. -/
def Expr.BecomesLookups (settings : Settings) (source output : Expr) : Prop :=
  ∃ path elements lookups,
    source.classMap? settings.tagger = some (path, elements) ∧
    output.classMap? settings.tagger = some (path, lookups) ∧
    lookups.length = elements.length ∧
    ∀ entry ∈ lookups, Entry.isLookup path settings.loader entry = true

theorem Entry.isLookup_resolved_of_inOrder (settings : Settings) (path : Text) (entry : Entry)
    (whole : (Entry.className? entry).isSome → Text.hasSurrogate path = false)
    (inOrder : Entry.InOrder path settings.loader entry) :
    Entry.isLookup path settings.loader (Element.resolved settings (some path) entry) = true := by
  rw [Entry.isLookup_resolved settings path entry whole]
  have noDefect := (Entry.defect?_eq_none_iff path settings.loader entry).mpr inOrder
  cases found : Entry.className? entry with
  | some named => rfl
  | none => simpa [Entry.defect?, found] using noDefect

theorem Occurrence.becomesLookups (settings : Settings) (o : Occurrence)
    (declared : o.call.declares settings.tagger = true) (inOrder : o.call.InOrder settings)
    (whole : ∀ path elements, o.call.classMap? settings.tagger = some (path, elements) →
      ∀ entry ∈ elements, (Entry.className? entry).isSome → Text.hasSurrogate path = false) :
    o.call.BecomesLookups settings (o.call.resolved settings none) := by
  have declares : Call.declares settings.tagger o.function o.arguments = true := declared
  obtain ⟨path, elements, hasMap, entriesInOrder⟩ :=
    (Call.inOrder_iff settings o.function o.arguments declares).mp (inOrder declares)
  have callMap : o.call.classMap? settings.tagger = some (path, elements) := hasMap
  refine ⟨path, elements, elements.map (Element.resolved settings (some path)), callMap, ?_,
    List.length_map _, ?_⟩
  · rw [o.call.classMap?_resolved, callMap]
    rfl
  · intro entry member
    obtain ⟨source, inSource, rfl⟩ := List.mem_map.mp member
    exact Entry.isLookup_resolved_of_inOrder settings path source
      (whole path elements callMap source inSource) (entriesInOrder source inSource)

/-- The declarations of a resolved module are those of the module, in the same
order. -/
theorem Module.becomesLookups (settings : Settings) (m : Module)
    (inOrder : ∀ call ∈ m.calls, call.InOrder settings)
    (whole : ∀ call ∈ m.calls, ∀ path elements,
      call.classMap? settings.tagger = some (path, elements) → Text.hasSurrogate path = false) :
    List.Forall₂ (Expr.BecomesLookups settings)
      (m.calls.filter (Expr.declares settings.tagger))
      ((m.resolved settings).calls.filter (Expr.declares settings.tagger)) := by
  rw [m.declared_resolved, List.forall₂_map_right_iff, List.forall₂_same]
  intro call member
  obtain ⟨isCall, declared⟩ := List.mem_filter.mp member
  obtain ⟨o, rfl, _⟩ := Occurrence.mem_calls m call isCall
  exact o.becomesLookups settings declared (inOrder _ isCall)
    fun path elements hasMap _ _ _ => whole _ isCall path elements hasMap

/-! ## Runs and transforms -/

/-- Without debug records nothing that a run logs can fail to show. -/
theorem Expr.passes_standard (settings : Settings) (threshold : Int) (call : Expr)
    (passes : call.Passes settings threshold) : call.Passes settings Log.standard := by
  cases call with
  | call function gap opening arguments closing => exact ⟨passes.1, fun _ _ _ => rfl⟩
  | _ => trivial

namespace Run

variable (settings : Settings) (threshold : Int) (m : Module) (outcome : Outcome)
  (ran : tree settings threshold m = .ok outcome)
include ran

theorem diagnostics_tree :
    outcome.diagnostics = m.occurrences.flatMap (Occurrence.diagnostics settings m.newline) := by
  obtain ⟨sound, _, rfl⟩ := (tree_ok_iff settings threshold m outcome).mp ran
  exact Session.diagnostics_toured settings threshold m sound

theorem diagnostics_eq_nil_iff :
    outcome.diagnostics = [] ↔ ∀ call ∈ m.calls, call.InOrder settings := by
  have briefs := briefs_tree settings threshold m outcome ran
  rw [← List.map_eq_nil_iff (f := Diagnostic.brief), briefs, List.flatMap_eq_nil_iff]
  simp only [Expr.briefs_eq_nil_iff]

/-- A run that returns at some level returns at the standard one, with the same
tree and the same diagnostics. -/
theorem tree_standard : ∃ silent, tree settings Log.standard m = .ok silent ∧
    silent.module = outcome.module ∧ silent.diagnostics = outcome.diagnostics := by
  have passes := (tree_returns_iff settings threshold m).mp ⟨outcome, ran⟩
  obtain ⟨silent, ranSilent⟩ := (tree_returns_iff settings Log.standard m).mpr
    fun call member => call.passes_standard settings threshold (passes call member)
  refine ⟨silent, ranSilent, ?_, ?_⟩
  · rw [module_tree _ _ _ silent ranSilent, module_tree _ _ _ outcome ran]
  · rw [diagnostics_tree _ _ _ silent ranSilent, diagnostics_tree _ _ _ outcome ran]

end Run

theorem transform_of_source (code : Text) (tagger loader : Option Given) (settings : Settings)
    (threshold : Int) (outcome : Outcome)
    (accepted : Settings.ofTruthy tagger loader = .ok settings)
    (given : Run.source settings threshold code = .ok outcome) :
    transform code tagger loader =
      if outcome.diagnostics = [] then .ok outcome.code else .error (.reported outcome.report) := by
  obtain ⟨m, parsed, ran⟩ := Run.source_ok settings threshold code outcome given
  obtain ⟨silent, ranSilent, sameModule, sameDiagnostics⟩ :=
    Run.tree_standard settings threshold m outcome ran
  have silently : Run.source settings Log.standard code = .ok silent := by
    simp only [Run.source, parsed, ranSilent]
  simp only [transform, accepted, silently, Outcome.isSuccess, Outcome.code, Outcome.report,
    sameModule, sameDiagnostics, List.isEmpty_iff]

/-- A source that can be run is transformed if all its declarations are in order,
and then the declarations of the output are those of the input, in the same
order, with lookups of their own paths for entries. -/
theorem transform_returns_iff (code : Text) (tagger loader : Option Given) (settings : Settings)
    (threshold : Int) (outcome : Outcome)
    (accepted : Settings.ofTruthy tagger loader = .ok settings)
    (given : Run.source settings threshold code = .ok outcome) :
    ∃ m, Module.parse code = .ok m ∧
      ((∃ output, transform code tagger loader = .ok output) ↔
        ∀ call ∈ m.calls, call.InOrder settings) ∧
      ∀ output, transform code tagger loader = .ok output →
        output = outcome.code ∧
        ((∀ call ∈ m.calls, ∀ path elements,
            call.classMap? settings.tagger = some (path, elements) →
              Text.hasSurrogate path = false) →
          List.Forall₂ (Expr.BecomesLookups settings)
            (m.calls.filter (Expr.declares settings.tagger))
            (outcome.module.calls.filter (Expr.declares settings.tagger))) := by
  obtain ⟨m, parsed, ran⟩ := Run.source_ok settings threshold code outcome given
  have inOrder := Run.diagnostics_eq_nil_iff settings threshold m outcome ran
  have result := transform_of_source code tagger loader settings threshold outcome accepted given
  refine ⟨m, parsed, ?_, ?_⟩
  · rw [← inOrder, result]
    by_cases clean : outcome.diagnostics = [] <;> simp [clean]
  · intro output returned
    rw [result] at returned
    split at returned
    · rename_i clean
      refine ⟨(Except.ok.inj returned).symm, ?_⟩
      intro whole
      rw [Run.module_tree _ _ _ _ ran]
      exact m.becomesLookups settings (inOrder.mp clean) whole
    · cases returned

namespace Sample

/-- A declaration in order: a class name in parentheses, and a lookup. -/
def orderly : Text := text "A2(t, 'p', \x7bx: ('a'), y: require('p')['b']\x7d)\n"

def orderlyOutput : Text :=
  text "A2(t, 'p', \x7bx: require(\"p\")[\"a\"], y: require('p')['b']\x7d)\n"

end Sample

theorem transform_returns_iff_sample :
    ∃ outcome m, Settings.ofTruthy (some (.text (text "t"))) none = .ok Sample.settings ∧
      Run.source Sample.settings 0 Sample.orderly = .ok outcome ∧
      Module.parse Sample.orderly = .ok m ∧
      transform Sample.orderly (some (.text (text "t"))) none = .ok Sample.orderlyOutput ∧
      (∀ call ∈ m.calls, call.InOrder Sample.settings) ∧
      Sample.orderlyOutput = outcome.code ∧
      List.Forall₂ (Expr.BecomesLookups Sample.settings)
        (m.calls.filter (Expr.declares (text "t")))
        (outcome.module.calls.filter (Expr.declares (text "t"))) := by
  have accepted : Settings.ofTruthy (some (.text (text "t"))) none = .ok Sample.settings := rfl
  have returned : transform Sample.orderly (some (.text (text "t"))) none =
      .ok Sample.orderlyOutput := by decide +kernel
  obtain ⟨outcome, given, _⟩ := Sample.returns_of_seen
    (Run.source Sample.settings 0 Sample.orderly) (·.resolved) 1 (by decide +kernel)
  obtain ⟨m, parsed, whole⟩ := Sample.returns_of_seen (Module.parse Sample.orderly)
    (fun m => m.calls.all fun call => (call.classMap? (text "t")).all fun found =>
      !Text.hasSurrogate found.1) true (by decide +kernel)
  obtain ⟨m', parsed', returnsIff, output⟩ :=
    transform_returns_iff _ _ _ _ _ _ accepted given
  obtain rfl : m = m' := Except.ok.inj (parsed.symm.trans parsed')
  obtain ⟨sameCode, lookups⟩ := output _ returned
  refine ⟨outcome, m, accepted, given, parsed, returned, returnsIff.mp ⟨_, returned⟩, sameCode,
    lookups ?_⟩
  intro call member path elements declared
  have declared' : call.classMap? (text "t") = some (path, elements) := declared
  simpa [declared'] using List.all_eq_true.mp whole call member

end ClassMaps
