import ClassMaps.Proofs.Account

/-!
# The log of a run

A walk diagnoses on its way down and logs on its way up.  So the records of the
class maps come in the other order than the diagnostics: a call inside another
one before it, and otherwise in source order.  After them come the totals and
the account of each diagnostic, in the order of the diagnostics.

All these are debug records.  A threshold that lets debug records pass keeps
them all, and a higher one keeps none, even of a walk that fails.
-/

set_option autoImplicit false

namespace ClassMaps

/-! ## Calls from the inside out -/

mutual

/-- All calls inside an expression, each after the calls inside it, and
otherwise in source order. -/
def Expr.callsInnerFirst : Expr → List Expr
  | .name _ => []
  | .string _ => []
  | .formatted parts => Part.callsInnerFirstAll parts
  | .concat left _ right => left.callsInnerFirst ++ right.callsInnerFirst
  | .call function gap opening arguments closing =>
      function.callsInnerFirst ++ Slot.callsInnerFirstAll arguments ++
        [.call function gap opening arguments closing]
  | .subscript value _ _ indices _ => value.callsInnerFirst ++ Slot.callsInnerFirstAll indices
  | .dict _ elements _ => Element.callsInnerFirstAll elements
  | .other _ parts => Part.callsInnerFirstAll parts
  | .paren _ inner _ => inner.callsInnerFirst

def Slot.callsInnerFirstAll : List (Slot Expr) → List Expr
  | [] => []
  | ⟨_, value, _⟩ :: rest => value.callsInnerFirst ++ Slot.callsInnerFirstAll rest

def Element.callsInnerFirstAll : List (Element Expr) → List Expr
  | [] => []
  | .pair key _ _ value _ :: rest =>
      key.callsInnerFirst ++ value.callsInnerFirst ++ Element.callsInnerFirstAll rest
  | .spread _ value _ :: rest => value.callsInnerFirst ++ Element.callsInnerFirstAll rest

def Part.callsInnerFirstAll : List (Part Expr) → List Expr
  | [] => []
  | .gap _ :: rest => Part.callsInnerFirstAll rest
  | .token _ :: rest => Part.callsInnerFirstAll rest
  | .expr value :: rest => value.callsInnerFirst ++ Part.callsInnerFirstAll rest

end

def Module.callsInnerFirst (m : Module) : List Expr := Part.callsInnerFirstAll m.parts

theorem map_call_left (newline : Text) :
    (∀ (e : Expr) (before : Text),
      ((e.tour newline before).filterMap Moment.left?).map Occurrence.call =
        e.callsInnerFirst) ∧
    (∀ (slots : List Argument) (before : Text),
      ((Slot.tourAll newline before slots).filterMap Moment.left?).map Occurrence.call =
        Slot.callsInnerFirstAll slots) ∧
    (∀ (elements : List Entry) (before : Text),
      ((Element.tourAll newline before elements).filterMap Moment.left?).map Occurrence.call =
        Element.callsInnerFirstAll elements) ∧
    (∀ (parts : List (Part Expr)) (before : Text),
      ((Part.tourAll newline before parts).filterMap Moment.left?).map Occurrence.call =
        Part.callsInnerFirstAll parts) := by
  apply Expr.tree_induction
  case call =>
    intro function gap opening arguments closing functionCalls argumentsCalls before
    simp [Expr.tour, Expr.callsInnerFirst, List.filterMap_cons, Moment.left?, Occurrence.call,
      functionCalls, argumentsCalls]
  all_goals
    intros
    simp_all [Expr.tour, Slot.tourAll, Element.tourAll, Part.tourAll, Expr.callsInnerFirst,
      Slot.callsInnerFirstAll, Element.callsInnerFirstAll, Part.callsInnerFirstAll]

namespace Module

variable (m : Module)

theorem map_call_left : (m.tour.filterMap Moment.left?).map Occurrence.call = m.callsInnerFirst :=
  (ClassMaps.map_call_left m.newline).2.2.2 m.parts []

theorem callsInnerFirst_perm : m.callsInnerFirst.Perm m.calls := by
  have same := (left_perm_entered m.newline).2.2.2 m.parts []
  rw [← m.map_call_left, ← m.map_call_occurrences]
  exact same.map Occurrence.call

/-- The class maps of a module, each with its path, in the order in which they
are resolved. -/
def classMaps (tagger : Text) : List (Text × List Entry) :=
  m.callsInnerFirst.filterMap (Expr.classMap? tagger)

theorem length_classMaps (tagger : Text) :
    (m.classMaps tagger).length = m.calls.countP fun call => (call.classMap? tagger).isSome := by
  rw [classMaps, List.length_filterMap_eq_countP]
  exact m.callsInnerFirst_perm.countP_eq _

theorem filterMap_classMap?_left (tagger : Text) :
    (m.tour.filterMap Moment.left?).filterMap (Occurrence.classMap? tagger) =
      m.classMaps tagger := by
  rw [classMaps, ← m.map_call_left, List.filterMap_map]
  rfl

end Module

/-! ## What is kept -/

/-- The record of a class map. -/
def Record.ofPair (classMap : Text × List Entry) : Record :=
  .ofClassMap classMap.1 classMap.2.length

theorem Log.flatMap_kept (threshold : Int) (records : List Record)
    (debug : ∀ record ∈ records, record.level = .debug) :
    records.flatMap (Log.kept threshold) =
      if threshold ≤ Level.debug.number then records else [] := by
  by_cases shows : threshold ≤ Level.debug.number
  · rw [if_pos shows]
    calc
      records.flatMap (Log.kept threshold) = records.flatMap fun record => [record] :=
        List.flatMap_congr fun record member => by
          rw [Log.kept, debug record member, if_pos shows]
      _ = records := List.flatMap_singleton' records
  · rw [if_neg shows, List.flatMap_eq_nil_iff]
    intro record member
    rw [Log.kept, debug record member, if_neg shows]

namespace Moment

variable (context : Context) (start : Site)

/-- A tour logs the class maps of the calls that it leaves. -/
theorem records_foldl (moments : List Moment) (s : Session) :
    (moments.foldl (after context start) s).records =
      s.records ++ ((moments.filterMap left?).filterMap
        (Occurrence.classMap? context.settings.tagger)).flatMap
          fun found => Log.kept context.threshold (.ofPair found) := by
  induction moments generalizing s with
  | nil => simp
  | cons moment rest ih =>
      rw [List.foldl_cons, ih]
      cases moment with
      | enter call => simp only [after, left?, List.filterMap_cons]
      | leave call =>
          simp only [after, left?, List.filterMap_cons]
          cases call.classMap? context.settings.tagger <;> simp [Record.ofPair]

end Moment

/-! ## Runs -/

namespace Run

variable (settings : Settings) (threshold : Int) (m : Module)

theorem records_toured :
    (Session.toured settings threshold m).records =
      ((m.classMaps settings.tagger).map Record.ofPair).flatMap (Log.kept threshold) := by
  rw [Session.toured, Moment.records_foldl, m.filterMap_classMap?_left, List.flatMap_map]
  rfl

theorem level_closing (s : Session) : ∀ record ∈ closing s, record.level = .debug := by
  intro record member
  rcases List.mem_cons.mp member with rfl | inAccount
  · rfl
  · obtain ⟨d, _, rfl⟩ := List.mem_map.mp inAccount
    rfl

theorem records_tree (outcome : Outcome) (ran : tree settings threshold m = .ok outcome) :
    outcome.records =
      if threshold ≤ Level.debug.number then
        (m.classMaps settings.tagger).map Record.ofPair ++
          summary (m.classMaps settings.tagger).length outcome.diagnostics.length ::
            outcome.diagnostics.map account
      else [] := by
  obtain ⟨_, _, rfl⟩ := (tree_ok_iff settings threshold m outcome).mp ran
  let s := Session.toured settings threshold m
  have counted : (m.classMaps settings.tagger).length = s.resolved := by
    rw [m.length_classMaps]
    exact (Session.resolved_toured settings threshold m).symm
  have debug : ∀ record ∈ (m.classMaps settings.tagger).map Record.ofPair ++ closing s,
      record.level = .debug := by
    intro record member
    rcases List.mem_append.mp member with ofMap | ofClosing
    · obtain ⟨found, _, rfl⟩ := List.mem_map.mp ofMap
      rfl
    · exact level_closing s record ofClosing
  have kept := Log.flatMap_kept threshold _ debug
  rw [List.flatMap_append, ← records_toured] at kept
  rw [counted]
  exact kept

end Run

/-! ## Runs above the debug level -/

namespace Walk

/-- Nothing is added to the log, however the walk ends. -/
def Silent {α : Type} (walk : Walk α) : Prop :=
  ∀ s : Session, (walk s).2.records = s.records

namespace Silent

variable {α β : Type}

theorem pure (found : α) : Silent (Pure.pure found : Walk α) := fun _ => rfl

theorem bind {first : Walk α} {next : α → Walk β} (firstSilent : Silent first)
    (nextSilent : ∀ found, Silent (next found)) : Silent (first >>= next) := by
  intro s
  have head := firstSilent s
  rw [bind_apply]
  match run : first s with
  | (.ok found, middle) =>
      rw [run] at head
      exact (nextSilent found middle).trans head
  | (.error fault, middle) =>
      rw [run] at head
      exact head

theorem log (threshold : Int) (record : Record) (hidden : record.level.number < threshold) :
    Silent (Walk.log threshold record) := by
  intro s
  have above : ¬ threshold ≤ record.level.number := by omega
  simp [log_apply, Log.fault?, Log.kept, above]

end Silent

end Walk

section Hidden
variable (settings : Settings) (threshold : Int) (m : Module)
variable (hidden : Level.debug.number < threshold)
include hidden

theorem Moment.silent_perform (newline : Text) (start : Site) (moment : Moment) :
    Walk.Silent (perform ⟨settings, threshold, newline⟩ start moment) := by
  cases moment with
  | enter call =>
      refine Walk.Silent.bind (fun s => ?_) fun _ s => ?_
      · rw [Walk.checkAll_apply]
      · rw [Walk.push_apply]
  | leave call =>
      refine Walk.Silent.bind (fun s => by rw [Walk.drop_apply]) fun _ => ?_
      match call.classMap? settings.tagger with
      | none => exact Walk.Silent.pure ()
      | some (path, elements) =>
          refine Walk.Silent.bind (fun s => by rw [Walk.modify_apply]) fun _ => ?_
          exact Walk.Silent.log threshold _ hidden

theorem Moment.silent_performAll (newline : Text) (start : Site) (moments : List Moment) :
    Walk.Silent (performAll ⟨settings, threshold, newline⟩ start moments) := by
  induction moments with
  | nil => exact Walk.Silent.pure ()
  | cons moment rest ih =>
      exact (silent_perform settings threshold hidden newline start moment).bind fun _ => ih

theorem Run.silent_logAll (records : List Record)
    (debug : ∀ record ∈ records, record.level = .debug) :
    Walk.Silent (Run.logAll threshold records) := by
  induction records with
  | nil => exact Walk.Silent.pure ()
  | cons record rest ih =>
      have level : record.level.number < threshold := by
        rw [debug record (by simp)]
        exact hidden
      exact (Walk.Silent.log threshold record level).bind fun _ =>
        ih fun later member => debug later (List.mem_cons_of_mem record member)

theorem Run.silent_walk : Walk.Silent (Run.walk settings threshold m) := by
  have visited : Walk.Silent (Session.visit settings threshold true m) := by
    rw [Session.visit_eq]
    exact (Moment.silent_performAll settings threshold hidden _ _ _).bind
      fun _ => Walk.Silent.pure _
  refine visited.bind fun _ => Walk.Silent.bind (fun _ => rfl) fun s => ?_
  exact (Run.silent_logAll threshold hidden _ (Run.level_closing s)).bind
    fun _ => Walk.Silent.pure _

end Hidden

/-- Where debug records pass, the log of a run is one record for each class map,
an inner one before the one that it stands in and otherwise in source order,
each with its own path and the number of its elements; then the totals; and then
the account of each diagnostic.  At a higher threshold nothing is logged,
however the run ends. -/
theorem Run.records_source (settings : Settings) (threshold : Int) (code : Text) :
    (threshold ≤ Level.debug.number → ∀ outcome,
      Run.source settings threshold code = .ok outcome →
      ∃ m, Module.parse code = .ok m ∧ m.callsInnerFirst.Perm m.calls ∧
        let classMaps := m.callsInnerFirst.filterMap (Expr.classMap? settings.tagger)
        outcome.records =
          classMaps.map (fun (path, elements) => ⟨.classMap, .debug,
              text "Rewrote class map for '" ++ path ++ text "' (" ++
                Text.ofNat elements.length ++ text " entries)"⟩) ++
            ⟨.run, .debug,
              text "Rewrote " ++ Text.ofNat classMaps.length ++
                text " CSS module expression(s), " ++
                Text.ofNat outcome.diagnostics.length ++ text " diagnostic(s)"⟩ ::
              outcome.diagnostics.map fun d =>
                ⟨.diagnostic, .debug, Markup.escape d.message⟩) ∧
    (Level.debug.number < threshold →
      (∀ m, (Run.walk settings threshold m Session.fresh).2.records = []) ∧
      ∀ outcome, Run.source settings threshold code = .ok outcome → outcome.records = []) := by
  constructor
  · intro shows outcome given
    obtain ⟨m, parsed, ran⟩ := Run.source_ok settings threshold code outcome given
    have logged := Run.records_tree settings threshold m outcome ran
    rw [if_pos shows] at logged
    exact ⟨m, parsed, m.callsInnerFirst_perm, logged⟩
  · intro hides
    refine ⟨fun m => Run.silent_walk settings threshold m hides Session.fresh, ?_⟩
    intro outcome given
    obtain ⟨m, _, ran⟩ := Run.source_ok settings threshold code outcome given
    have above : ¬ threshold ≤ Level.debug.number := by omega
    rw [Run.records_tree settings threshold m outcome ran, if_neg above]

theorem Run.records_source_sample :
    (∃ outcome m, Run.source Sample.settings Level.debug.number Sample.code = .ok outcome ∧
      outcome.records.take 3 =
        [⟨.classMap, .debug, text "Rewrote class map for 'q' (2 entries)"⟩,
         ⟨.classMap, .debug, text "Rewrote class map for 'p' (2 entries)"⟩,
         ⟨.run, .debug, text "Rewrote 2 CSS module expression(s), 3 diagnostic(s)"⟩] ∧
      Module.parse Sample.code = .ok m ∧
      let classMaps := m.callsInnerFirst.filterMap (Expr.classMap? Sample.settings.tagger)
      outcome.records =
        classMaps.map (fun (path, elements) => ⟨.classMap, .debug,
            text "Rewrote class map for '" ++ path ++ text "' (" ++
              Text.ofNat elements.length ++ text " entries)"⟩) ++
          ⟨.run, .debug,
            text "Rewrote " ++ Text.ofNat classMaps.length ++
              text " CSS module expression(s), " ++
              Text.ofNat outcome.diagnostics.length ++ text " diagnostic(s)"⟩ ::
            outcome.diagnostics.map fun d =>
              ⟨.diagnostic, .debug, Markup.escape d.message⟩) ∧
    (Run.walk Sample.settings Log.standard Sample.module Session.fresh).2.records = [] := by
  constructor
  · obtain ⟨outcome, given, seen⟩ := Sample.returns_of_seen
      (Run.source Sample.settings Level.debug.number Sample.code)
      (fun outcome => outcome.records.take 3)
      [⟨.classMap, .debug, text "Rewrote class map for 'q' (2 entries)"⟩,
       ⟨.classMap, .debug, text "Rewrote class map for 'p' (2 entries)"⟩,
       ⟨.run, .debug, text "Rewrote 2 CSS module expression(s), 3 diagnostic(s)"⟩]
      (by decide +kernel)
    obtain ⟨m, parsed, _, logged⟩ :=
      (Run.records_source Sample.settings Level.debug.number Sample.code).1 (by decide) outcome given
    exact ⟨outcome, m, given, seen, parsed, logged⟩
  · exact ((Run.records_source Sample.settings Log.standard Sample.code).2 (by decide)).1
      Sample.module

end ClassMaps
