import ClassMaps.Proofs.Idempotence

/-!
# Runs for different taggers

A call declares a class map for one tagger at most.  So no entry has its value
replaced by two runs for different taggers, and what one of them puts in is a
lookup that declares nothing for the other.  Inside the calls of its own
tagger a run changes no shape that the other looks at.  The two runs therefore
give the same tree in either order, and each of them counts and says the same
whether it comes first or second.
-/

set_option autoImplicit false

namespace ClassMaps

/-! ## Calls for one tagger -/

namespace Call

theorem declares_cases (tagger : Text) (function : Expr) (arguments : List Argument)
    (declared : declares tagger function arguments = true) :
    ∃ first rest, arguments = first :: rest ∧ first.value.name? = some tagger := by
  cases arguments with
  | nil => cases declared
  | cons first rest =>
      simp only [declares, Bool.and_eq_true] at declared
      exact ⟨first, rest, rfl, by simpa [Expr.isName] using declared.2⟩

theorem declares_other (tagger other : Text) (function : Expr) (arguments : List Argument)
    (differ : tagger ≠ other) (declared : declares tagger function arguments = true) :
    declares other function arguments = false := by
  obtain ⟨first, rest, rfl, named⟩ := declares_cases tagger function arguments declared
  simp [declares, Expr.isName, named, differ]

theorem path?_of_notDeclared (tagger : Text) (function : Expr) (arguments : List Argument)
    (notDeclared : declares tagger function arguments = false) :
    path? tagger function arguments = none := by
  simp [path?, classMap?, notDeclared]

/-- At most one of two taggers has a class map in a call. -/
theorem path?_apart (tagger other : Text) (function : Expr) (arguments : List Argument)
    (differ : tagger ≠ other) :
    path? tagger function arguments = none ∨ path? other function arguments = none := by
  cases declared : declares tagger function arguments with
  | false => exact .inl (path?_of_notDeclared tagger function arguments declared)
  | true =>
      exact .inr (path?_of_notDeclared other function arguments
        (declares_other tagger other function arguments differ declared))

end Call

/-! ## Resolved trees -/

section Trees
variable (settings other : Settings)

/-- An entry that one run resolves as that of a class map and another run only
inside. -/
theorem Element.resolved_comm_inside (path : Option Text) (key value : Expr) (before after : Gap)
    (comma : Option Comma)
    (keySame : (key.resolved settings none).resolved other none =
      (key.resolved other none).resolved settings none)
    (valueSame : (value.resolved settings none).resolved other none =
      (value.resolved other none).resolved settings none) :
    Element.resolved other none (Element.resolved settings path
        (.pair key before after value comma)) =
      Element.resolved settings path (Element.resolved other none
        (.pair key before after value comma)) := by
  have inside : Element.resolved other none (Element.resolved settings none
        (.pair key before after value comma)) =
      Element.resolved settings none (Element.resolved other none
        (.pair key before after value comma)) := by
    simp [Element.resolved, keySame, valueSame]
  cases path with
  | none => exact inside
  | some path =>
      have kept := Entry.className?_resolved other (.pair key before after value comma)
      cases found : Entry.className? (.pair key before after value comma) with
      | none =>
          rw [Entry.resolved_of_noClassName settings (some path) _ found, inside,
            Entry.resolved_of_noClassName settings (some path) _ (kept.trans found)]
      | some named =>
          obtain ⟨name, className⟩ := named
          rw [Entry.resolved_of_className? settings path _ name className found,
            Entry.resolved_of_className? settings path _ name className (kept.trans found)]
          simp [Element.withValue, Element.resolved, Lookup.resolved_expr]

theorem Element.resolved_comm (path path' : Option Text) (apart : path = none ∨ path' = none)
    (key value : Expr) (before after : Gap) (comma : Option Comma)
    (keySame : (key.resolved settings none).resolved other none =
      (key.resolved other none).resolved settings none)
    (valueSame : (value.resolved settings none).resolved other none =
      (value.resolved other none).resolved settings none) :
    Element.resolved other path' (Element.resolved settings path
        (.pair key before after value comma)) =
      Element.resolved settings path (Element.resolved other path'
        (.pair key before after value comma)) := by
  rcases apart with rfl | rfl
  · exact (Element.resolved_comm_inside other settings path' key value before after comma
      keySame.symm valueSame.symm).symm
  · exact Element.resolved_comm_inside settings other path key value before after comma
      keySame valueSame

theorem resolved_comm (differ : settings.tagger ≠ other.tagger) :
    (∀ (e : Expr) (path path' : Option Text), path = none ∨ path' = none →
      (e.resolved settings path).resolved other path' =
        (e.resolved other path').resolved settings path) ∧
    (∀ (slots : List Argument) (paths paths' : List (Option Text)),
      (∀ i : Nat, paths[i]?.join = none ∨ paths'[i]?.join = none) →
      Slot.resolvedAll other paths' (Slot.resolvedAll settings paths slots) =
        Slot.resolvedAll settings paths (Slot.resolvedAll other paths' slots)) ∧
    (∀ (elements : List Entry) (path path' : Option Text), path = none ∨ path' = none →
      Element.resolvedAll other path' (Element.resolvedAll settings path elements) =
        Element.resolvedAll settings path (Element.resolvedAll other path' elements)) ∧
    (∀ parts : List (Part Expr),
      Part.resolvedAll other (Part.resolvedAll settings parts) =
        Part.resolvedAll settings (Part.resolvedAll other parts)) := by
  apply Expr.tree_induction
  case call =>
    intro function gap opening arguments closing functionSame argumentsSame path path' _
    have apart : ∀ i : Nat,
        [none, none, Call.path? settings.tagger function arguments][i]?.join = none ∨
        [none, none, Call.path? other.tagger function arguments][i]?.join = none := by
      intro i
      match i with
      | 0 | 1 | _ + 3 => simp
      | 2 => simpa using Call.path?_apart settings.tagger other.tagger function arguments differ
    simp only [Expr.resolved, Call.path?_resolved]
    rw [functionSame none none (.inl rfl), argumentsSame _ _ apart]
  case slot =>
    intro mark value comma rest valueSame restSame paths paths' apart
    have head : paths.head?.join = none ∨ paths'.head?.join = none := by
      simpa [List.head?_eq_getElem?] using apart 0
    have tail : ∀ i : Nat, paths.tail[i]?.join = none ∨ paths'.tail[i]?.join = none := by
      intro i
      simpa using apart (i + 1)
    simp only [Slot.resolvedAll, valueSame _ _ head, restSame _ _ tail]
  case pair =>
    intro key before after value comma rest keySame valueSame restSame path path' apart
    have head := Element.resolved_comm settings other path path' apart key value before after comma
      (keySame none none (.inl rfl)) (valueSame none none (.inl rfl))
    have tail := restSame path path' apart
    simp only [Element.resolvedAll_eq_map, List.map_cons] at tail ⊢
    rw [head, tail]
  all_goals
    intros
    simp_all [Expr.resolved, Slot.resolvedAll, Element.resolvedAll, Part.resolvedAll]

theorem Module.resolved_comm (differ : settings.tagger ≠ other.tagger) (m : Module) :
    (m.resolved settings).resolved other = (m.resolved other).resolved settings := by
  have parts := (ClassMaps.resolved_comm settings other differ).2.2.2 m.parts
  simp only [Module.resolved, parts]

end Trees

/-! ## Judged by the other tagger -/

section Judged
variable (settings judge : Settings) (differ : settings.tagger ≠ judge.tagger)
include differ

theorem Expr.classMap?_resolved_other (call : Expr) :
    (call.resolved settings none).classMap? judge.tagger =
      (call.classMap? judge.tagger).map fun found =>
        (found.1, found.2.map (Element.resolved settings none)) := by
  cases call with
  | call function gap opening arguments closing =>
      simp only [Expr.resolved, Expr.classMap?, Call.classMap?_resolved]
      rcases Call.path?_apart settings.tagger judge.tagger function arguments differ with
        noPath | noPath
      · simp [noPath]
      · rw [Call.path?, Option.map_eq_none_iff] at noPath
        simp [noPath]
  | _ => simp only [Expr.resolved, Expr.classMap?, Option.map_none]

omit differ in
theorem Entry.brief?_resolved_inside (path loader : Text) (entry : Entry) :
    Entry.brief? path loader (Element.resolved settings none entry) =
      Entry.brief? path loader entry := by
  have sameName := Entry.className?_resolved settings entry
  have sameLookup : Entry.isLookup path loader (Element.resolved settings none entry) =
      Entry.isLookup path loader entry := by
    cases entry with
    | spread gap value comma => rfl
    | pair key before after value comma =>
        simp [Element.resolved, Entry.isLookup, Lookup.recognizes_resolved]
  simp only [Entry.brief?, Entry.defect?, sameName, sameLookup]
  cases Entry.className? entry with
  | some named => rfl
  | none => cases Entry.isLookup path loader entry <;> rfl

/-- A run after one for another tagger returns if it does alone, with the same
count and saying the same. -/
theorem Run.tree_after (threshold : Int) (m : Module) (alone : Outcome)
    (ran : Run.tree judge threshold m = .ok alone) :
    ∃ after, Run.tree judge threshold (m.resolved settings) = .ok after ∧
      after.module = (m.resolved settings).resolved judge ∧
      after.resolved = alone.resolved ∧
      after.diagnostics.map Diagnostic.brief = alone.diagnostics.map Diagnostic.brief := by
  have becomes := Expr.classMap?_resolved_other settings judge differ
  have passes := (Run.tree_returns_iff judge threshold m).mp ⟨alone, ran⟩
  have passesAfter := m.passes_becomes settings judge (fun _ => Element.resolved settings none)
    becomes threshold (fun _ _ path _ _ entry sound =>
      (Entry.fault?_resolved settings path judge.loader entry).trans sound) passes
  obtain ⟨after, ranAfter⟩ := (Run.tree_returns_iff judge threshold _).mpr passesAfter
  refine ⟨after, ranAfter, Run.module_tree _ _ _ after ranAfter, ?_, ?_⟩
  · rw [Run.resolved_tree _ _ _ after ranAfter, Run.resolved_tree _ _ _ alone ran]
    exact m.countP_becomes settings judge (fun _ => Element.resolved settings none) becomes
  · rw [Run.briefs_tree _ _ _ after ranAfter, Run.briefs_tree _ _ _ alone ran,
      m.briefs_becomes settings judge (fun _ => Element.resolved settings none) becomes
        (fun _ => true) (fun _ => rfl) ?_]
    · exact List.filter_true _
    · intro call member path elements declared entry
      rw [Entry.brief?_resolved_inside]
      cases Entry.brief? path judge.loader entry <;> rfl

end Judged

/-- Two runs for different taggers that both return for a module can be made one
after the other in either order.  Both orders give the same tree, and either run
has the same count and says the same as it does alone. -/
theorem Run.tree_comm (settings other : Settings) (threshold : Int) (m : Module)
    (first second : Outcome) (differ : settings.tagger ≠ other.tagger)
    (ranFirst : Run.tree settings threshold m = .ok first)
    (ranSecond : Run.tree other threshold m = .ok second) :
    ∃ firstThenSecond secondThenFirst,
      Run.tree other threshold first.module = .ok firstThenSecond ∧
      Run.tree settings threshold second.module = .ok secondThenFirst ∧
      firstThenSecond.module = secondThenFirst.module ∧
      (firstThenSecond.resolved = second.resolved ∧ secondThenFirst.resolved = first.resolved) ∧
      firstThenSecond.diagnostics.map Diagnostic.brief =
        second.diagnostics.map Diagnostic.brief ∧
      secondThenFirst.diagnostics.map Diagnostic.brief =
        first.diagnostics.map Diagnostic.brief := by
  rw [Run.module_tree _ _ _ first ranFirst, Run.module_tree _ _ _ second ranSecond]
  obtain ⟨later, ranLater, laterTree, laterCount, laterBriefs⟩ :=
    Run.tree_after settings other differ threshold m second ranSecond
  obtain ⟨later', ranLater', laterTree', laterCount', laterBriefs'⟩ :=
    Run.tree_after other settings differ.symm threshold m first ranFirst
  refine ⟨later, later', ranLater, ranLater', ?_, ⟨laterCount, laterCount'⟩, laterBriefs,
    laterBriefs'⟩
  rw [laterTree, laterTree', m.resolved_comm settings other differ]

namespace Sample

/-- Another tagger, with a loader that is called like what declares. -/
def foreignSettings : Settings := ⟨text "u", Call.applyName, by decide, otherSettings.loaderShown⟩

def declarationFor (tagger path : Text) (elements : List Entry) : Expr :=
  .call (.name Call.applyName) [] []
    [.bare (.name tagger), .bare (.string path), .bare (.dict [] elements [])] []

/-- A class map for one tagger inside one for the other, inside one for the
first again. -/
def interleaved : Module :=
  ⟨sign '\n', [.expr (declarationFor (text "t") (text "'p'")
    [.pair (.name (text "x")) [] [] (.string (text "'a'")) none,
     .pair (.name (text "y")) [] [] (declarationFor (text "u") (text "'q'")
      [.pair (.name (text "z")) [] [] (.string (text "''")) none,
       .spread [] (declarationFor (text "t") (text "'r'")
        [.pair (.name (text "v")) [] [] (.string (text "'b'")) none]) none]) none])]⟩

end Sample

theorem Run.tree_comm_sample :
    ∃ first second firstThenSecond secondThenFirst,
      Sample.settings.tagger ≠ Sample.foreignSettings.tagger ∧
      Run.tree Sample.settings 0 Sample.interleaved = .ok first ∧
      Run.tree Sample.foreignSettings 0 Sample.interleaved = .ok second ∧
      Run.tree Sample.foreignSettings 0 first.module = .ok firstThenSecond ∧
      Run.tree Sample.settings 0 second.module = .ok secondThenFirst ∧
      firstThenSecond.module = secondThenFirst.module ∧
      (firstThenSecond.resolved, secondThenFirst.resolved) = (1, 2) ∧
      firstThenSecond.diagnostics.map Diagnostic.brief =
        [⟨.emptyClassName, some (text "q"), none⟩, ⟨.malformedEntry, some (text "q"), none⟩] ∧
      secondThenFirst.diagnostics.map Diagnostic.brief =
        [⟨.malformedEntry, some (text "p"), none⟩] := by
  have differ : Sample.settings.tagger ≠ Sample.foreignSettings.tagger := by decide
  obtain ⟨first, ranFirst, seen⟩ := Sample.returns_of_seen
    (Run.tree Sample.settings 0 Sample.interleaved)
    (fun outcome => (outcome.resolved, outcome.diagnostics.map Diagnostic.brief))
    (2, [⟨.malformedEntry, some (text "p"), none⟩]) (by decide +kernel)
  obtain ⟨second, ranSecond, seen'⟩ := Sample.returns_of_seen
    (Run.tree Sample.foreignSettings 0 Sample.interleaved)
    (fun outcome => (outcome.resolved, outcome.diagnostics.map Diagnostic.brief))
    (1, [⟨.emptyClassName, some (text "q"), none⟩, ⟨.malformedEntry, some (text "q"), none⟩])
    (by decide +kernel)
  obtain ⟨firstCount, firstBriefs⟩ := Prod.mk.inj seen
  obtain ⟨secondCount, secondBriefs⟩ := Prod.mk.inj seen'
  obtain ⟨later, later', ranLater, ranLater', same, ⟨count, count'⟩, briefs, briefs'⟩ :=
    Run.tree_comm _ _ _ _ first second differ ranFirst ranSecond
  exact ⟨first, second, later, later', differ, ranFirst, ranSecond, ranLater, ranLater', same,
    by rw [count, count', firstCount, secondCount], briefs.trans secondBriefs,
    briefs'.trans firstBriefs⟩

end ClassMaps
