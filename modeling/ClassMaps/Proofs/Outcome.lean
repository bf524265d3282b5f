import ClassMaps.Proofs.Tour
import ClassMaps.Run
import Mathlib.Data.List.Basic

/-!
# What a run gives

A walk that returns gives the resolved tree, counts the class maps of the
input, and records the diagnostics of its calls in pre-order.  A run adds only
log records to that.
-/

set_option autoImplicit false

namespace ClassMaps

/-! ## The account of a tour -/

namespace Moment

variable (context : Context) (start : Site)

theorem diagnostics_foldl (moments : List Moment) (s : Session) :
    (moments.foldl (after context start) s).diagnostics =
      s.diagnostics ++ (moments.filterMap entered?).flatMap fun call =>
        Check.recorded (call.checks context start) := by
  induction moments generalizing s with
  | nil => simp
  | cons moment rest ih =>
      rw [List.foldl_cons, ih]
      cases moment with
      | enter call => simp [after, entered?]
      | leave call =>
          simp only [after, entered?, List.filterMap_cons]
          cases call.classMap? context.settings.tagger <;> rfl

theorem resolved_foldl (moments : List Moment) (s : Session) :
    (moments.foldl (after context start) s).resolved =
      s.resolved + (moments.filterMap left?).countP fun call =>
        (call.classMap? context.settings.tagger).isSome := by
  induction moments generalizing s with
  | nil => simp
  | cons moment rest ih =>
      rw [List.foldl_cons, ih]
      cases moment with
      | enter call => simp only [after, left?, List.filterMap_cons]
      | leave call =>
          simp only [after, left?, List.filterMap_cons, List.countP_cons]
          cases call.classMap? context.settings.tagger with
          | none => simp
          | some found =>
              simp only [Option.isSome_some, if_true]
              omega

end Moment

theorem Walk.bind_ok_iff {α β : Type} (first : Walk α) (next : α → Walk β) (s s' : Session)
    (given : β) :
    (first >>= next) s = (.ok given, s') ↔
      ∃ found middle, first s = (.ok found, middle) ∧ next found middle = (.ok given, s') := by
  rw [Walk.bind_apply]
  match run : first s with
  | (.ok found, middle) =>
      constructor
      · intro rest
        exact ⟨found, middle, rfl, rest⟩
      · rintro ⟨found', middle', same, rest⟩
        cases same
        exact rest
  | (.error fault, middle) => simp

namespace Session

def startOf (positions : Bool) : Site := if positions then some .origin else none

theorem visit_eq (settings : Settings) (threshold : Int) (positions : Bool) (m : Module) :
    visit settings threshold positions m = (do
      Moment.performAll ⟨settings, threshold, m.newline⟩ (startOf positions) m.tour
      return m.resolved settings) := by
  let context : Context := ⟨settings, threshold, m.newline⟩
  have toured := (walk_eq_tour context (startOf positions)).2.2.2 m.parts []
  have origin : (startOf positions).past [] = startOf positions := by cases positions <;> rfl
  rw [origin] at toured
  change (do return { m with parts := ← Part.walkAll context (startOf positions) m.parts }) = _
  rw [toured]
  simp [Module.resolved, Module.tour, context]

/-- A walk returns if no moment of its tour has a fault. -/
theorem visit_ok_iff (settings : Settings) (threshold : Int) (positions : Bool) (m walked : Module)
    (s s' : Session) :
    visit settings threshold positions m s = (.ok walked, s') ↔
      (∀ moment ∈ m.tour,
        moment.fault? ⟨settings, threshold, m.newline⟩ (startOf positions) = none) ∧
      walked = m.resolved settings ∧
      s' = m.tour.foldl (Moment.after ⟨settings, threshold, m.newline⟩ (startOf positions)) s := by
  rw [visit_eq, Walk.bind_ok_iff]
  constructor
  · rintro ⟨⟨⟩, middle, toured, returned⟩
    obtain ⟨sound, rfl⟩ := (Moment.performAll_ok_iff _ _ _ _ _).mp toured
    cases returned
    exact ⟨sound, rfl, rfl⟩
  · rintro ⟨sound, rfl, rfl⟩
    exact ⟨(), _, (Moment.performAll_ok_iff _ _ _ _ _).mpr ⟨sound, rfl⟩, rfl⟩

/-- What the way up looks for is there: no walk takes a path off an empty stack,
whatever the session was used for. -/
theorem visit_ne_missing (settings : Settings) (threshold : Int) (positions : Bool) (m : Module)
    (s : Session) : (visit settings threshold positions m s).1 ≠ .error .missing := by
  rw [visit_eq, Walk.bind_apply]
  have ends := Moment.result_performAll ⟨settings, threshold, m.newline⟩ (startOf positions)
    m.tour s
  match toured : Moment.performAll ⟨settings, threshold, m.newline⟩ (startOf positions) m.tour s with
  | (.ok _, s') => simp [Walk.pure_apply]
  | (.error fault, s') =>
      rintro same
      rw [toured] at ends
      cases same
      match first : m.tour.findSome? (Moment.fault? ⟨settings, threshold, m.newline⟩
          (startOf positions)) with
      | none => simp [first] at ends
      | some fault =>
          simp only [first, Except.error.injEq] at ends
          obtain ⟨moment, _, failed⟩ := List.exists_of_findSome?_eq_some first
          exact moment.fault?_ne_missing _ _ (ends ▸ failed)

def toured (settings : Settings) (threshold : Int) (m : Module) : Session :=
  m.tour.foldl (Moment.after ⟨settings, threshold, m.newline⟩ (some .origin)) fresh

end Session

/-! ## A sample

A class map with a class map inside it, which has an empty class name and a
spread. -/

namespace Sample

def settings : Settings := ⟨text "t", text "require", by decide, by decide⟩

/-- The same tagger, and a loader that is called like what declares. -/
def otherSettings : Settings := ⟨text "t", Call.applyName, by decide, by decide⟩

def code : Text := text "A2(t, 'p', \x7bx: 'a', y: A2(t, 'q', \x7bz: '', **w\x7d)\x7d)\n"

def declaration (path : Text) (elements : List Entry) : Expr :=
  .call (.name Call.applyName) [] []
    [.bare (.name settings.tagger), .bare (.string path), .bare (.dict [] elements [])] []

def module : Module :=
  ⟨sign '\n', [.expr (declaration (text "'p'")
    [.pair (.name (text "x")) [] [] (.string (text "'a'")) none,
     .pair (.name (text "y")) [] [] (declaration (text "'q'")
      [.pair (.name (text "z")) [] [] (.string (text "''")) none,
       .spread [] (.name (text "w")) none]) none])]⟩

def output : Text :=
  text ("A2(t, 'p', \x7bx: require(\"p\")[\"a\"], " ++
    "y: A2(t, 'q', \x7bz: require(\"q\")[\"\"], **w\x7d)\x7d)\n")

/-- A computation returns if what is seen of its result is known. -/
theorem returns_of_seen {ε α β : Type} (run : Except ε α) (see : α → β) (seen : β)
    (known : run.toOption.map see = some seen) : ∃ found, run = .ok found ∧ see found = seen := by
  cases run with
  | error fault => cases known
  | ok found => exact ⟨found, rfl, Option.some.inj known⟩

theorem source_returns : ∃ outcome, Run.source settings 0 code = .ok outcome ∧
    (outcome.diagnostics.map (·.defect), outcome.code) =
      ([.malformedEntry, .emptyClassName, .malformedEntry], output) :=
  returns_of_seen _ _ _ (by decide +kernel)

end Sample

/-! ## Walks -/

theorem Occurrence.mem_calls (m : Module) (call : Expr) (member : call ∈ m.calls) :
    ∃ o : Occurrence, o.call = call ∧ o ∈ m.occurrences := by
  rw [← m.map_call_occurrences, List.mem_map] at member
  obtain ⟨o, member, same⟩ := member
  exact ⟨o, same, member⟩

theorem Moment.enter_mem_tour (m : Module) (o : Occurrence) (member : o ∈ m.occurrences) :
    Moment.enter o ∈ m.tour := by
  obtain ⟨moment, inTour, entered⟩ := List.mem_filterMap.mp member
  cases moment with
  | enter call =>
      cases entered
      exact inTour
  | leave call => cases entered

theorem Module.countP_left (tagger : Text) (m : Module) :
    (m.tour.filterMap Moment.left?).countP (fun call => (call.classMap? tagger).isSome) =
      m.calls.countP fun call => (call.classMap? tagger).isSome := by
  have same := (left_perm_entered m.newline).2.2.2 m.parts []
  rw [← m.map_call_occurrences, List.countP_map]
  exact same.countP_eq _

/-- A walk of a fresh session gives the tree resolved by recursion on the input
alone, and counts the class maps that the calls of the input declare.  In each
of these every element is resolved in its place: it gets the lookup that the
loader makes of its class name, or is resolved as anywhere else. -/
theorem Session.visit_fresh_resolves (settings : Settings) (threshold : Int) (positions : Bool)
    (m walked : Module) (s : Session)
    (given : Session.visit settings threshold positions m Session.fresh = (.ok walked, s)) :
    walked = m.resolved settings ∧
    s.resolved = m.calls.countP (fun call => (call.classMap? settings.tagger).isSome) ∧
    ∀ call ∈ m.calls, ∀ path elements, call.classMap? settings.tagger = some (path, elements) →
      (call.resolved settings none).classMap? settings.tagger =
        some (path, elements.map (Element.resolved settings (some path))) ∧
      ∀ entry ∈ elements,
        (∀ name className, Entry.className? entry = some (name, className) →
          ∃ lookup, Lookup.make path className settings.loader = .ok lookup ∧
            Element.resolved settings (some path) entry = entry.withValue lookup) ∧
        (Entry.className? entry = none →
          Element.resolved settings (some path) entry = Element.resolved settings none entry) := by
  obtain ⟨sound, rfl, rfl⟩ := (Session.visit_ok_iff _ _ _ _ _ _ _).mp given
  refine ⟨rfl, ?_, ?_⟩
  · rw [Moment.resolved_foldl, m.countP_left]
    simp [Session.fresh]
  · intro call member path elements declared
    refine ⟨by rw [call.classMap?_resolved, declared]; rfl, ?_⟩
    intro entry isEntry
    constructor
    · intro name className found
      obtain ⟨o, rfl, occurs⟩ := Occurrence.mem_calls m call member
      -- The walk came past this entry on its way down, so the loader made its lookup there.
      have checked := o.fault?_of_checks _ _ (sound _ (Moment.enter_mem_tour m o occurs))
      have entrySound := ((Call.fault?_eq_none_iff _ _ _).mp checked).2 path elements declared
        entry isEntry
      exact ⟨_, Entry.make_of_fault?_none path settings.loader entry name className entrySound found,
        Entry.resolved_of_className? settings path entry name className found⟩
    · intro noName
      exact Entry.resolved_of_noClassName settings (some path) entry noName

theorem Session.visit_fresh_resolves_sample :
    ∃ walked s, Session.visit Sample.settings 0 true Sample.module Session.fresh =
        (.ok walked, s) ∧
      walked = Sample.module.resolved Sample.settings ∧ s.resolved = 2 := by
  have sound : ∀ moment ∈ Sample.module.tour,
      moment.fault? ⟨Sample.settings, 0, Sample.module.newline⟩ (Session.startOf true) = none := by
    decide +kernel
  have given := (Session.visit_ok_iff Sample.settings 0 true Sample.module _ Session.fresh _).mpr
    ⟨sound, rfl, rfl⟩
  obtain ⟨same, counted, _⟩ := Session.visit_fresh_resolves _ _ _ _ _ _ given
  exact ⟨_, _, given, same, by rw [counted]; decide +kernel⟩

/-! ## Runs -/

namespace Run

def closing (s : Session) : List Record :=
  summary s.resolved s.diagnostics.length :: s.diagnostics.map account

theorem logAll_ok_iff (threshold : Int) (records : List Record) (s s' : Session) :
    logAll threshold records s = (.ok (), s') ↔
      (∀ record ∈ records, Log.fault? threshold record = none) ∧
        s' = { s with records := s.records ++ records.flatMap (Log.kept threshold) } := by
  induction records generalizing s with
  | nil => simp [logAll, Walk.pure_apply, eq_comm]
  | cons record rest ih =>
      simp only [logAll, Walk.bind_apply, Walk.log_apply]
      cases sound : Log.fault? threshold record with
      | none => simp [ih, sound]
      | some fault => simp [sound]

theorem walk_ok_iff (settings : Settings) (threshold : Int) (m walked : Module)
    (s s' : Session) :
    walk settings threshold m s = (.ok walked, s') ↔
      ∃ middle, Session.visit settings threshold true m s = (.ok walked, middle) ∧
        logAll threshold (closing middle) middle = (.ok (), s') := by
  have got : ∀ s : Session, (get : Walk Session) s = (.ok s, s) := fun s => rfl
  unfold walk
  rw [Walk.bind_ok_iff]
  constructor
  · rintro ⟨found, middle, visited, rest⟩
    rw [Walk.bind_apply, got, Walk.bind_ok_iff] at rest
    obtain ⟨_, last, logged, returned⟩ := rest
    cases returned
    exact ⟨middle, visited, logged⟩
  · rintro ⟨middle, visited, logged⟩
    refine ⟨walked, middle, visited, ?_⟩
    rw [Walk.bind_apply, got, Walk.bind_ok_iff]
    exact ⟨(), s', logged, rfl⟩

theorem tree_ok_iff (settings : Settings) (threshold : Int) (m : Module) (outcome : Outcome) :
    tree settings threshold m = .ok outcome ↔
      (∀ moment ∈ m.tour,
        moment.fault? ⟨settings, threshold, m.newline⟩ (some .origin) = none) ∧
      (∀ record ∈ closing (Session.toured settings threshold m),
        Log.fault? threshold record = none) ∧
      outcome = ⟨m.resolved settings, (Session.toured settings threshold m).diagnostics,
        (Session.toured settings threshold m).resolved,
        (Session.toured settings threshold m).records ++
          (closing (Session.toured settings threshold m)).flatMap (Log.kept threshold)⟩ := by
  have returns : ∀ walked s', walk settings threshold m Session.fresh = (.ok walked, s') ↔
      (∀ moment ∈ m.tour,
        moment.fault? ⟨settings, threshold, m.newline⟩ (some .origin) = none) ∧
      (∀ record ∈ closing (Session.toured settings threshold m),
        Log.fault? threshold record = none) ∧
      walked = m.resolved settings ∧
      s' = { Session.toured settings threshold m with
        records := (Session.toured settings threshold m).records ++
          (closing (Session.toured settings threshold m)).flatMap (Log.kept threshold) } := by
    intro walked s'
    simp only [walk_ok_iff, Session.visit_ok_iff, logAll_ok_iff]
    constructor
    · rintro ⟨_, ⟨sound, rfl, rfl⟩, shown, rfl⟩
      exact ⟨sound, shown, rfl, rfl⟩
    · rintro ⟨sound, shown, rfl, rfl⟩
      exact ⟨_, ⟨sound, rfl, rfl⟩, shown, rfl⟩
  -- A run is one walk of a fresh session, so its outcome can be read off the walk.
  unfold tree
  match run : walk settings threshold m Session.fresh with
  | (.ok walked, s') =>
      obtain ⟨sound, shown, rfl, rfl⟩ := (returns walked s').mp run
      simp only [Except.ok.injEq]
      constructor
      · rintro rfl
        exact ⟨sound, shown, rfl⟩
      · rintro ⟨_, _, rfl⟩
        rfl
  | (.error fault, s') =>
      constructor
      · intro failed
        cases failed
      · rintro ⟨sound, shown, _⟩
        rw [(returns _ _).mpr ⟨sound, shown, rfl, rfl⟩] at run
        cases run

theorem source_ok (settings : Settings) (threshold : Int) (code : Text) (outcome : Outcome)
    (given : source settings threshold code = .ok outcome) :
    ∃ m, Module.parse code = .ok m ∧ tree settings threshold m = .ok outcome := by
  unfold source at given
  match parsed : Module.parse code with
  | .error fault => simp [parsed] at given
  | .ok m =>
      match ran : tree settings threshold m with
      | .error fault => simp [parsed, ran] at given
      | .ok found =>
          simp only [parsed, ran, Except.ok.injEq] at given
          exact ⟨m, rfl, by rw [ran, given]⟩

end Run

theorem Session.diagnostics_toured (settings : Settings) (threshold : Int) (m : Module)
    (sound : ∀ moment ∈ m.tour,
      moment.fault? ⟨settings, threshold, m.newline⟩ (some .origin) = none) :
    (Session.toured settings threshold m).diagnostics =
      m.occurrences.flatMap (Occurrence.diagnostics settings m.newline) := by
  rw [Session.toured, Moment.diagnostics_foldl]
  have own : ∀ o ∈ m.occurrences,
      Check.recorded (o.checks ⟨settings, threshold, m.newline⟩ (some .origin)) =
        o.diagnostics settings m.newline := by
    intro o member
    exact o.recorded_checks _ (sound _ (Moment.enter_mem_tour m o member))
  change [] ++ m.occurrences.flatMap _ = _
  rw [List.nil_append, List.flatMap_congr own]

theorem Session.resolved_toured (settings : Settings) (threshold : Int) (m : Module) :
    (Session.toured settings threshold m).resolved =
      m.calls.countP fun call => (call.classMap? settings.tagger).isSome := by
  rw [Session.toured, Moment.resolved_foldl, m.countP_left]
  simp [Session.fresh]

/-- The diagnostics of a run are those of the calls of the input in pre-order,
each at the place of what is wrong with it and each once. -/
theorem Run.diagnostics_source (settings : Settings) (threshold : Int) (code : Text)
    (outcome : Outcome) (given : Run.source settings threshold code = .ok outcome) :
    ∃ m, Module.parse code = .ok m ∧ m.occurrences.map Occurrence.call = m.calls ∧
      outcome.diagnostics =
        m.occurrences.flatMap (Occurrence.diagnostics settings m.newline) := by
  obtain ⟨m, parsed, ran⟩ := Run.source_ok settings threshold code outcome given
  obtain ⟨sound, _, rfl⟩ := (Run.tree_ok_iff _ _ _ _).mp ran
  exact ⟨m, parsed, m.map_call_occurrences, Session.diagnostics_toured settings threshold m sound⟩

theorem Run.diagnostics_source_sample :
    ∃ outcome m, Run.source Sample.settings 0 Sample.code = .ok outcome ∧
      outcome.diagnostics.map (·.defect) = [.malformedEntry, .emptyClassName, .malformedEntry] ∧
      Module.parse Sample.code = .ok m ∧
      outcome.diagnostics =
        m.occurrences.flatMap (Occurrence.diagnostics Sample.settings m.newline) := by
  obtain ⟨outcome, given, seen⟩ := Sample.source_returns
  obtain ⟨m, parsed, _, same⟩ := Run.diagnostics_source _ _ _ _ given
  exact ⟨outcome, m, given, (Prod.mk.inj seen).1, parsed, same⟩

end ClassMaps
