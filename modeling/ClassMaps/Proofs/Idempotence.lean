import ClassMaps.Proofs.Account
import ClassMaps.Proofs.Quotation

/-!
# Running twice

The calls of a resolved tree that may declare a class map are those of the
input, resolved, in the same order: a lookup put in holds one call, which
declares nothing since its only argument is a literal.  A resolved call passes
if the call does, and says the same but for its empty class names, because
each lookup put in is known again as one of its path.
-/

set_option autoImplicit false

namespace ClassMaps

/-! ## Calls that declare -/

theorem Lookup.declared_expr (tagger loader path className : Text) :
    (Lookup.expr (.name loader) path className).calls.filter (Expr.declares tagger) = [] := by
  simp [Lookup.expr, Expr.calls, Slot.callsAll, Slot.bare, Expr.declares, Expr.stripped,
    Call.declares, Expr.isName, Expr.name?]

section Declared
variable (settings : Settings) (tagger : Text)

theorem declared_resolved :
    (∀ (e : Expr) (path : Option Text),
      (e.resolved settings path).calls.filter (Expr.declares tagger) =
        (e.calls.filter (Expr.declares tagger)).map (Expr.resolved settings none)) ∧
    (∀ (slots : List Argument) (paths : List (Option Text)),
      (Slot.callsAll (Slot.resolvedAll settings paths slots)).filter (Expr.declares tagger) =
        ((Slot.callsAll slots).filter (Expr.declares tagger)).map (Expr.resolved settings none)) ∧
    (∀ (elements : List Entry) (path : Option Text),
      (Element.callsAll (Element.resolvedAll settings path elements)).filter
          (Expr.declares tagger) =
        ((Element.callsAll elements).filter (Expr.declares tagger)).map
          (Expr.resolved settings none)) ∧
    (∀ parts : List (Part Expr),
      (Part.callsAll (Part.resolvedAll settings parts)).filter (Expr.declares tagger) =
        ((Part.callsAll parts).filter (Expr.declares tagger)).map
          (Expr.resolved settings none)) := by
  apply Expr.tree_induction
  case call =>
    intro function gap opening arguments closing functionSame argumentsSame path
    have same : Expr.declares tagger
        ((Expr.call function gap opening arguments closing).resolved settings path) =
        Expr.declares tagger (.call function gap opening arguments closing) := by
      simp only [Expr.resolved, Expr.declares, Expr.stripped]
      exact Call.declares_resolved settings none _ tagger function arguments
    simp only [Expr.calls, List.filter_cons, List.filter_append, ← same, Expr.resolved,
      functionSame, argumentsSame]
    split <;> simp [Expr.resolved]
  case pair =>
    intro key before after value comma rest keySame valueSame restSame path
    cases replaced : path.bind fun path =>
        Entry.replacement? path settings.loader (.pair key before after value comma) with
    | none =>
        simp [Element.resolvedAll, Element.callsAll, replaced, keySame, valueSame, restSame]
    | some lookup =>
        -- A name and a literal hold no call, and the call of the lookup declares nothing.
        obtain ⟨file, _, made⟩ := Option.bind_eq_some_iff.mp replaced
        obtain ⟨found, hasName, rfl⟩ := Option.map_eq_some_iff.mp made
        obtain ⟨noKeyCalls, noValueCalls⟩ :=
          Entry.calls_of_className? key value before after comma found hasName
        have noLookupCalls := Lookup.declared_expr tagger settings.loader file found.2
        simp [Element.resolvedAll, Element.callsAll, replaced, keySame, restSame, noKeyCalls,
          noValueCalls, noLookupCalls]
  all_goals
    intros
    simp_all [Expr.resolved, Slot.resolvedAll, Element.resolvedAll, Part.resolvedAll, Expr.calls,
      Slot.callsAll, Element.callsAll, Part.callsAll]

end Declared

theorem Module.declared_resolved (settings : Settings) (tagger : Text) (m : Module) :
    (m.resolved settings).calls.filter (Expr.declares tagger) =
      (m.calls.filter (Expr.declares tagger)).map (Expr.resolved settings none) :=
  (ClassMaps.declared_resolved settings tagger).2.2.2 m.parts

/-! ## Calls that declare nothing -/

namespace Expr

theorem classMap?_of_notDeclared (tagger : Text) (call : Expr)
    (notDeclared : call.declares tagger = false) : call.classMap? tagger = none := by
  cases call with
  | call function gap opening arguments closing =>
      have plain : Call.declares tagger function arguments = false := notDeclared
      simp [classMap?, Call.classMap?, plain]
  | _ => rfl

theorem briefs_of_notDeclared (settings : Settings) (call : Expr)
    (notDeclared : call.declares settings.tagger = false) : call.briefs settings = [] := by
  cases call with
  | call function gap opening arguments closing =>
      have plain : Call.declares settings.tagger function arguments = false := notDeclared
      simp [briefs, Call.briefs, plain]
  | _ => rfl

theorem passes_of_notDeclared (settings : Settings) (threshold : Int) (call : Expr)
    (notDeclared : call.declares settings.tagger = false) : call.Passes settings threshold := by
  cases call with
  | call function gap opening arguments closing =>
      have plain : Call.declares settings.tagger function arguments = false := notDeclared
      have noMap := classMap?_of_notDeclared settings.tagger _ notDeclared
      refine ⟨by simp [Call.fault?, Call.verdict, plain], ?_⟩
      intro path elements declared
      rw [classMap?, declared] at noMap
      cases noMap
  | _ => trivial

end Expr

/-! ## Resolved calls -/

section Resolved
variable (settings : Settings) (path : Text)

theorem Lookup.recognizes_expr (className : Text) (whole : Text.hasSurrogate path = false) :
    Lookup.recognizes (Lookup.expr (.name settings.loader) path className) settings.loader
      (some path) = .ok true := by
  simp [Lookup.recognizes, Lookup.pathLiteral?_expr, Literal.evaluate_quote path whole, Except.map]

theorem Entry.fault?_resolved_classMap (entry : Entry) (whole : Text.hasSurrogate path = false)
    (sound : Entry.fault? path settings.loader entry = none) :
    Entry.fault? path settings.loader (Element.resolved settings (some path) entry) = none := by
  match found : Entry.className? entry with
  | none =>
      rw [Entry.resolved_of_noClassName settings (some path) entry found, Entry.fault?_resolved,
        sound]
  | some (name, className) =>
      rw [Entry.resolved_of_className? settings path entry name className found]
      cases entry with
      | spread gap value comma => cases found
      | pair key before after value comma =>
          simp [Entry.fault?, Element.withValue, Entry.judge,
            Lookup.recognizes_expr settings path className whole]

/-- A resolved entry is a lookup of its path if it was one or had a class name. -/
theorem Entry.isLookup_resolved (entry : Entry)
    (whole : (Entry.className? entry).isSome → Text.hasSurrogate path = false) :
    Entry.isLookup path settings.loader (Element.resolved settings (some path) entry) =
      ((Entry.className? entry).isSome || Entry.isLookup path settings.loader entry) := by
  match found : Entry.className? entry with
  | none =>
      rw [Entry.resolved_of_noClassName settings (some path) entry found]
      cases entry with
      | spread gap value comma => rfl
      | pair key before after value comma =>
          simp [Element.resolved, Entry.isLookup, Lookup.recognizes_resolved]
  | some (name, className) =>
      rw [Entry.resolved_of_className? settings path entry name className found]
      cases entry with
      | spread gap value comma => cases found
      | pair key before after value comma =>
          simp [Element.withValue, Entry.isLookup,
            Lookup.recognizes_expr settings path className (whole (by rw [found]; rfl))]

/-- A resolved entry says what the entry says, if that is not about an empty
class name. -/
theorem Entry.brief?_resolved (entry : Entry) (whole : Text.hasSurrogate path = false) :
    Entry.brief? path settings.loader (Element.resolved settings (some path) entry) =
      (Entry.brief? path settings.loader entry).filter fun b =>
        b.defect ≠ .emptyClassName := by
  have noName := Entry.className?_resolved_classMap settings path entry
  have isLookup := Entry.isLookup_resolved settings path entry fun _ => whole
  match found : Entry.className? entry with
  | none =>
      simp only [Entry.brief?, Entry.defect?, noName, isLookup, found]
      cases Entry.isLookup path settings.loader entry <;> rfl
  | some (name, className) =>
      simp only [Entry.brief?, Entry.defect?, noName, isLookup, found]
      cases className <;> rfl

theorem Call.isOk_unpack_of_three (first second third : Argument) :
    (Call.unpack [first, second, third]).isOk =
      (!(first.isPositional && second.isPositional && third.isPositional) ||
        second.value.stringValue.isOk) := by
  simp only [Call.unpack]
  by_cases positional : (first.isPositional && second.isPositional && third.isPositional) = true
  · rw [if_pos positional, positional]
    match second.value.stringValue with
    | .error fault => rfl
    | .ok none => rfl
    | .ok (some file) => cases third.value.stripped <;> rfl
  · rw [if_neg positional, Bool.not_eq_true _ |>.mp positional]
    rfl

theorem Call.isOk_verdict_resolved (paths : List (Option Text)) (tagger : Text) (function : Expr)
    (arguments : List Argument) :
    (Call.verdict tagger (function.resolved settings none)
        (Slot.resolvedAll settings paths arguments)).isOk =
      (Call.verdict tagger function arguments).isOk := by
  unfold Call.verdict
  rw [Call.declares_resolved]
  split
  · match arguments with
    | [] | [_] | [_, _] | _ :: _ :: _ :: _ :: _ => rfl
    | [first, second, third] =>
        simp only [Slot.resolvedAll, Call.isOk_unpack_of_three, Expr.stringValue_resolved]
        rfl
  · rfl

end Resolved

/-! ## Judging resolved calls

A resolved call is judged by the settings it was resolved by, or by others.
Either way it is the same call but for its entries, so the judgement depends on
what these have become. -/

namespace Module

theorem countP_classMap?_declared (tagger : Text) (calls : List Expr) :
    calls.countP (fun call => (call.classMap? tagger).isSome) =
      (calls.filter (Expr.declares tagger)).countP fun call => (call.classMap? tagger).isSome := by
  rw [List.countP_filter]
  congr 1
  funext call
  cases declared : call.declares tagger with
  | true => simp
  | false => simp [call.classMap?_of_notDeclared tagger declared]

theorem flatMap_briefs_declared (settings : Settings) (calls : List Expr) :
    calls.flatMap (Expr.briefs settings) =
      (calls.filter (Expr.declares settings.tagger)).flatMap (Expr.briefs settings) := by
  induction calls with
  | nil => rfl
  | cons call rest ih =>
      cases declared : call.declares settings.tagger with
      | true => simp [declared, ih]
      | false => simp [declared, ih, call.briefs_of_notDeclared settings declared]

end Module

section Judged
variable (settings judge : Settings) (change : Text → Entry → Entry)
  (becomes : ∀ call : Expr, (call.resolved settings none).classMap? judge.tagger =
    (call.classMap? judge.tagger).map fun found => (found.1, found.2.map (change found.1)))
include becomes

theorem Expr.briefs_becomes (call : Expr) (keep : Brief → Bool)
    (malformed : ∀ detail, keep ⟨.malformedExpression, none, detail⟩ = true)
    (said : ∀ path elements, call.classMap? judge.tagger = some (path, elements) → ∀ entry,
      Entry.brief? path judge.loader (change path entry) =
        (Entry.brief? path judge.loader entry).filter keep) :
    (call.resolved settings none).briefs judge = (call.briefs judge).filter keep := by
  have sameMap := becomes call
  cases call with
  | call function gap opening arguments closing =>
      simp only [Expr.resolved, Expr.classMap?] at sameMap said
      simp only [Expr.resolved, Expr.briefs, Call.briefs, Call.declares_resolved,
        Call.malformation?_resolved, sameMap]
      split
      · cases Call.malformation? arguments with
        | some reason => simp [malformed]
        | none =>
            cases declared : Call.classMap? judge.tagger function arguments with
            | none => rfl
            | some found =>
                simp only [Option.map_some, List.filterMap_map, Function.comp_def,
                  said found.1 found.2 declared, List.filter_filterMap]
      · rfl
  | _ => simp [Expr.resolved, Expr.briefs]

theorem Expr.passes_becomes (threshold : Int) (call : Expr)
    (kept : ∀ path elements, call.classMap? judge.tagger = some (path, elements) → ∀ entry,
      Entry.fault? path judge.loader entry = none →
        Entry.fault? path judge.loader (change path entry) = none)
    (passes : call.Passes judge threshold) :
    (call.resolved settings none).Passes judge threshold := by
  have sameMap := becomes call
  cases call with
  | call function gap opening arguments closing =>
      simp only [Expr.resolved, Expr.classMap?] at sameMap kept
      obtain ⟨sound, shown⟩ := passes
      obtain ⟨readable, entriesSound⟩ := (Call.fault?_eq_none_iff _ _ _).mp sound
      refine ⟨(Call.fault?_eq_none_iff _ _ _).mpr ⟨?_, ?_⟩, ?_⟩
      · rw [Call.isOk_verdict_resolved]
        exact readable
      · intro path elements declared entry member
        rw [sameMap] at declared
        obtain ⟨original, wasDeclared, same⟩ := Option.map_eq_some_iff.mp declared
        cases same
        obtain ⟨source, inSource, rfl⟩ := List.mem_map.mp member
        exact kept original.1 original.2 wasDeclared source
          (entriesSound original.1 original.2 wasDeclared source inSource)
      · intro path elements declared
        rw [sameMap] at declared
        obtain ⟨original, wasDeclared, same⟩ := Option.map_eq_some_iff.mp declared
        cases same
        rw [List.length_map]
        exact shown original.1 original.2 wasDeclared
  | _ => simp [Expr.resolved, Expr.Passes]

theorem Module.countP_becomes (m : Module) :
    (m.resolved settings).calls.countP (fun call => (call.classMap? judge.tagger).isSome) =
      m.calls.countP fun call => (call.classMap? judge.tagger).isSome := by
  rw [countP_classMap?_declared, m.declared_resolved, List.countP_map, countP_classMap?_declared
    judge.tagger m.calls]
  congr 1
  funext call
  simp [becomes call]

theorem Module.briefs_becomes (m : Module) (keep : Brief → Bool)
    (malformed : ∀ detail, keep ⟨.malformedExpression, none, detail⟩ = true)
    (said : ∀ call ∈ m.calls, ∀ path elements,
      call.classMap? judge.tagger = some (path, elements) → ∀ entry,
        Entry.brief? path judge.loader (change path entry) =
          (Entry.brief? path judge.loader entry).filter keep) :
    (m.resolved settings).calls.flatMap (Expr.briefs judge) =
      (m.calls.flatMap (Expr.briefs judge)).filter keep := by
  have each : ∀ call ∈ m.calls.filter (Expr.declares judge.tagger),
      (call.resolved settings none).briefs judge = (call.briefs judge).filter keep := by
    intro call member
    exact call.briefs_becomes settings judge change becomes keep malformed
      (said call (List.mem_filter.mp member).1)
  rw [flatMap_briefs_declared, m.declared_resolved, flatMap_briefs_declared judge m.calls,
    List.filter_flatMap, List.flatMap_map, List.flatMap_congr each]

theorem Module.passes_becomes (threshold : Int) (m : Module)
    (kept : ∀ call ∈ m.calls, ∀ path elements,
      call.classMap? judge.tagger = some (path, elements) → ∀ entry,
        Entry.fault? path judge.loader entry = none →
          Entry.fault? path judge.loader (change path entry) = none)
    (passes : ∀ call ∈ m.calls, call.Passes judge threshold) :
    ∀ call ∈ (m.resolved settings).calls, call.Passes judge threshold := by
  intro call member
  cases declared : call.declares judge.tagger with
  | false => exact call.passes_of_notDeclared judge threshold declared
  | true =>
      have among : call ∈ (m.resolved settings).calls.filter (Expr.declares judge.tagger) :=
        List.mem_filter.mpr ⟨member, declared⟩
      rw [m.declared_resolved] at among
      obtain ⟨source, inSource, rfl⟩ := List.mem_map.mp among
      have isCall := (List.mem_filter.mp inSource).1
      exact source.passes_becomes settings judge change becomes threshold (kept source isCall)
        (passes source isCall)

end Judged

/-! ## Resolved modules -/

namespace Module

variable (settings : Settings) (threshold : Int) (m : Module)

theorem resolved_resolved (other : Settings) (same : other.tagger = settings.tagger) :
    (m.resolved settings).resolved other = m.resolved settings := by
  have parts := (ClassMaps.resolved_resolved settings other same).2.2.2 m.parts
  simp only [resolved, parts]

theorem countP_resolved :
    (m.resolved settings).calls.countP (fun call => (call.classMap? settings.tagger).isSome) =
      m.calls.countP fun call => (call.classMap? settings.tagger).isSome :=
  countP_becomes settings settings (fun path => Element.resolved settings (some path))
    (Expr.classMap?_resolved settings) m

variable (whole : ∀ call ∈ m.calls, ∀ path elements,
  call.classMap? settings.tagger = some (path, elements) → Text.hasSurrogate path = false)
include whole

theorem briefs_resolved :
    (m.resolved settings).calls.flatMap (Expr.briefs settings) =
      (m.calls.flatMap (Expr.briefs settings)).filter fun b => b.defect ≠ .emptyClassName := by
  apply briefs_becomes settings settings (fun path => Element.resolved settings (some path))
    (Expr.classMap?_resolved settings)
  · intro detail
    rfl
  · intro call member path elements declared entry
    exact Entry.brief?_resolved settings path entry (whole call member path elements declared)

theorem passes_resolved (passes : ∀ call ∈ m.calls, call.Passes settings threshold) :
    ∀ call ∈ (m.resolved settings).calls, call.Passes settings threshold := by
  apply passes_becomes settings settings (fun path => Element.resolved settings (some path))
    (Expr.classMap?_resolved settings) threshold m _ passes
  intro call member path elements declared entry sound
  exact Entry.fault?_resolved_classMap settings path entry (whole call member path elements declared)
    sound

end Module

/-- A run of what a run gave gives it again, with the same count and with the
diagnostics that are not about empty class names.  By another loader it need
not return, but leaves the tree alone, too. -/
theorem Run.tree_twice (settings : Settings) (threshold : Int) (m : Module) (first : Outcome)
    (ran : Run.tree settings threshold m = .ok first) :
    ((∀ call ∈ m.calls, ∀ path elements,
        call.classMap? settings.tagger = some (path, elements) →
          Text.hasSurrogate path = false) →
      ∃ second, Run.tree settings threshold first.module = .ok second ∧
        second.module = first.module ∧ second.resolved = first.resolved ∧
        second.diagnostics.map Diagnostic.brief =
          (first.diagnostics.filter fun d => d.defect ≠ .emptyClassName).map Diagnostic.brief) ∧
    ∀ (other : Settings) (threshold' : Int) (third : Outcome), other.tagger = settings.tagger →
      Run.tree other threshold' first.module = .ok third → third.module = first.module := by
  have walked := Run.module_tree settings threshold m first ran
  constructor
  · intro whole
    have passes := (Run.tree_returns_iff settings threshold m).mp ⟨first, ran⟩
    obtain ⟨second, ranAgain⟩ := (Run.tree_returns_iff settings threshold (m.resolved settings)).mpr
      (m.passes_resolved settings threshold whole passes)
    refine ⟨second, by rw [walked]; exact ranAgain, ?_, ?_, ?_⟩
    · rw [Run.module_tree _ _ _ second ranAgain, m.resolved_resolved settings settings rfl, walked]
    · rw [Run.resolved_tree _ _ _ second ranAgain, m.countP_resolved settings,
        Run.resolved_tree _ _ _ first ran]
    · have briefs := Run.briefs_tree _ _ _ first ran
      rw [Run.briefs_tree _ _ _ second ranAgain, m.briefs_resolved settings whole, ← briefs,
        List.filter_map]
      rfl
  · intro other threshold' third same ranOther
    rw [walked] at ranOther ⊢
    rw [Run.module_tree _ _ _ third ranOther, m.resolved_resolved settings other same]

theorem Run.tree_twice_sample :
    ∃ first second third, Run.tree Sample.settings 0 Sample.module = .ok first ∧
      Run.tree Sample.settings 0 first.module = .ok second ∧
      Run.tree Sample.otherSettings 0 first.module = .ok third ∧
      second.module = first.module ∧ third.module = first.module ∧ second.resolved = 2 ∧
      second.diagnostics.map Diagnostic.brief =
        [⟨.malformedEntry, some (text "p"), none⟩, ⟨.malformedEntry, some (text "q"), none⟩] := by
  obtain ⟨first, ran, seen⟩ := Sample.returns_of_seen (Run.tree Sample.settings 0 Sample.module)
    (fun outcome => (outcome.resolved, (outcome.diagnostics.filter fun d =>
      d.defect ≠ .emptyClassName).map Diagnostic.brief))
    (2, [⟨.malformedEntry, some (text "p"), none⟩, ⟨.malformedEntry, some (text "q"), none⟩])
    (by decide +kernel)
  obtain ⟨third, ranOther, _⟩ := Sample.returns_of_seen
    (Run.tree Sample.otherSettings 0 (Sample.module.resolved Sample.settings))
    (fun outcome => outcome.diagnostics.length) 4 (by decide +kernel)
  rw [← Run.module_tree _ _ _ first ran] at ranOther
  have whole : ∀ call ∈ Sample.module.calls, ∀ path elements,
      call.classMap? Sample.settings.tagger = some (path, elements) →
        Text.hasSurrogate path = false := by
    have all : Sample.module.calls.all (fun call =>
        (call.classMap? Sample.settings.tagger).all fun found =>
          !Text.hasSurrogate found.1) = true := by decide +kernel
    intro call member path elements declared
    simpa [declared] using List.all_eq_true.mp all call member
  obtain ⟨unchanged, unchangedByOther⟩ := Run.tree_twice _ _ _ _ ran
  obtain ⟨second, again, same, counted, briefs⟩ := unchanged whole
  obtain ⟨firstCount, firstBriefs⟩ := Prod.mk.inj seen
  exact ⟨first, second, third, ran, again, ranOther, same,
    unchangedByOther Sample.otherSettings 0 third rfl ranOther, by rw [counted, firstCount],
    by rw [briefs, firstBriefs]⟩

end ClassMaps
