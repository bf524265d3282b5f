import ClassMaps.Proofs.Trial
import ClassMaps.Proofs.Verbosity

/-!
# The first fault of a walk

All that can end a walk is tried on the way down, one thing after another: the
literals of a path, and for each entry of a class map its literals and the name
of the loader.  `Occurrence.trials` lists this for one call, with the diagnostics
between, and the calls are tried in pre-order.  A walk ends at the first trial
that fails, with the diagnostics from before it, and without one it returns.

What was tried on the way down cannot fail on the way up.  The one exception is
the record of a class map: where debug records pass, its path is shown as markup.

A class map is counted when its call is left, and so when the walk ends inside a
call, that call and those around it have not been counted.
-/

set_option autoImplicit false

namespace ClassMaps

/-! ## Checks in a row -/

namespace Check

theorem fault?_append (first second : List Check) :
    fault? (first ++ second) = (fault? first).or (fault? second) := by
  induction first with
  | nil => rfl
  | cons check rest ih =>
      cases check with
      | error fault => rfl
      | ok found => exact ih

theorem recorded_append (first second : List Check) :
    recorded (first ++ second) =
      recorded first ++ if (fault? first).isNone then recorded second else [] := by
  induction first with
  | nil => simp [recorded, fault?]
  | cons check rest ih =>
      cases check with
      | error fault => simp [recorded, fault?]
      | ok found => simp [recorded, fault?, ih]

/-- Two rows of checks end alike and record the same. -/
def Alike (checks checks' : List Check) : Prop :=
  fault? checks = fault? checks' ∧ recorded checks = recorded checks'

theorem Alike.append {first first' second second' : List Check} (alike : Alike first first')
    (alike' : Alike second second') : Alike (first ++ second) (first' ++ second') := by
  constructor
  · rw [fault?_append, fault?_append, alike.1, alike'.1]
  · rw [recorded_append, recorded_append, alike.1, alike.2, alike'.2]

theorem Alike.flatMap {α : Type} (items : List α) (checks checks' : α → List Check)
    (alike : ∀ item ∈ items, Alike (checks item) (checks' item)) :
    Alike (items.flatMap checks) (items.flatMap checks') := by
  induction items with
  | nil => exact ⟨rfl, rfl⟩
  | cons item rest ih =>
      rw [List.flatMap_cons, List.flatMap_cons]
      exact (alike item (by simp)).append (ih fun other member => alike other (by simp [member]))

theorem fault?_flatMap_of_sound {α : Type} (items : List α) (checks : α → List Check)
    (sound : ∀ item ∈ items, fault? (checks item) = none) :
    fault? (items.flatMap checks) = none := by
  induction items with
  | nil => rfl
  | cons item rest ih =>
      rw [List.flatMap_cons, fault?_append, sound item (by simp), Option.none_or]
      exact ih fun other member => sound other (by simp [member])

theorem recorded_flatMap_of_sound {α : Type} (items : List α) (checks : α → List Check)
    (sound : ∀ item ∈ items, fault? (checks item) = none) :
    recorded (items.flatMap checks) = items.flatMap fun item => recorded (checks item) := by
  induction items with
  | nil => rfl
  | cons item rest ih =>
      rw [List.flatMap_cons, recorded_append, sound item (by simp),
        ih fun other member => sound other (by simp [member])]
      rfl

/-- A literal is evaluated. -/
def ofLiteral (literal : Text) : Check :=
  match Literal.evaluate literal with
  | .error fault => .error (.literal fault)
  | .ok _ => .ok none

/-- A name is made. -/
def ofName (name : Text) : Check :=
  match Expr.ofName name with
  | .error fault => .error (.name fault)
  | .ok _ => .ok none

theorem fault?_map_ofLiteral (literals : List Text) :
    fault? (literals.map ofLiteral) = (literals.findSome? Literal.fault?).map Fault.literal := by
  induction literals with
  | nil => rfl
  | cons literal rest ih =>
      cases read : Literal.evaluate literal with
      | error fault => simp [ofLiteral, fault?, Literal.fault?, read, failure?]
      | ok found => simpa [ofLiteral, fault?, Literal.fault?, read, failure?] using ih

theorem recorded_map_ofLiteral (literals : List Text) :
    recorded (literals.map ofLiteral) = [] := by
  induction literals with
  | nil => rfl
  | cons literal rest ih =>
      cases read : Literal.evaluate literal with
      | error fault => simp [ofLiteral, recorded, read]
      | ok found => simpa [ofLiteral, recorded, read] using ih

end Check

/-! ## Trials -/

/-- What is tried for an entry of a class map whose value is at `position`: each
literal, and the loader's name if the entry has a class name.  Then its defect is
recorded. -/
def Entry.trials (path loader : Text) (position : Position) (entry : Entry) : List Check :=
  (Entry.literals loader entry).map Check.ofLiteral ++
    (if (Entry.className? entry).isSome then [Check.ofName loader] else []) ++
    [.ok (Entry.diagnostic? path loader position entry)]

/-- The literals of a path among three arguments without marks. -/
def Call.pathLiterals : List Argument → List Text
  | [first, second, third] =>
      if first.isPositional && second.isPositional && third.isPositional then
        second.value.literals
      else []
  | _ => []

/-- What is tried for a call that declares: the literals of its path, and then the
entries of its class map in order, or else its defect is recorded. -/
def Occurrence.trials (settings : Settings) (newline : Text) (o : Occurrence) : List Check :=
  if Call.declares settings.tagger o.function o.arguments then
    (Call.pathLiterals o.arguments).map Check.ofLiteral ++
      match o.classMap? settings.tagger with
      | some (path, _) =>
          (o.entries newline).flatMap fun (before, entry) =>
            Entry.trials path settings.loader
              (Position.after (before ++ entry.value.opened newline)) entry
      | none => (o.diagnostics settings newline).map fun d => .ok (some d)
  else []

theorem Entry.alike_trials (context : Context) (k : Cursor) (path before : Text)
    (entry : Entry) :
    Check.Alike
      (Entry.trials path context.settings.loader
        (k.past (before ++ entry.value.opened context.newline)).position entry)
      [Entry.check context (some k) path (before, entry)] := by
  have naming : Check.fault? (if (Entry.className? entry).isSome then
      [Check.ofName context.settings.loader] else []) =
        (Entry.nameFault? context.settings.loader entry).map Fault.name := by
    unfold Entry.nameFault? Check.ofName
    split
    · cases Expr.ofName context.settings.loader <;> rfl
    · rfl
  have silent : Check.recorded (if (Entry.className? entry).isSome then
      [Check.ofName context.settings.loader] else []) = [] := by
    unfold Check.ofName
    split
    · cases Expr.ofName context.settings.loader <;> rfl
    · rfl
  rw [Entry.check_eq, Entry.fault?_eq]
  simp only [Check.Alike, Entry.trials, Check.fault?_append, Check.recorded_append, naming, silent,
    Check.fault?_map_ofLiteral, Check.recorded_map_ofLiteral]
  cases (Entry.literals context.settings.loader entry).findSome? Literal.fault? with
  | some fault => simp [Check.fault?, Check.recorded, EntryFault.toFault]
  | none =>
      cases Entry.nameFault? context.settings.loader entry with
      | some fault => simp [Check.fault?, Check.recorded, EntryFault.toFault]
      | none => simp [Check.fault?, Check.recorded]

theorem Call.failure?_unpack (arguments : List Argument) :
    failure? (Call.unpack arguments) =
      (Call.pathLiterals arguments).findSome? Literal.fault? := by
  match arguments with
  | [] | [_] | [_, _] | _ :: _ :: _ :: _ :: _ => rfl
  | [first, second, third] =>
      simp only [Call.unpack, Call.pathLiterals]
      split
      · rw [← Expr.failure?_stringValue]
        match second.value.stringValue with
        | .error fault => rfl
        | .ok none => rfl
        | .ok (some path) => cases third.value.stripped <;> rfl
      · rfl

/-- What is tried for a call is what is checked when it is entered. -/
theorem Occurrence.alike_trials (settings : Settings) (threshold : Int) (newline : Text)
    (o : Occurrence) :
    Check.Alike (o.trials settings newline)
      (o.checks ⟨settings, threshold, newline⟩ (some .origin)) := by
  have reading := Call.failure?_unpack o.arguments
  unfold Occurrence.trials Occurrence.checks
  match judged : Call.verdict settings.tagger o.function o.arguments with
  | .error fault =>
      have declared : Call.declares settings.tagger o.function o.arguments = true := by
        by_contra plain
        simp [Call.verdict, plain] at judged
      rw [Call.verdict, if_pos declared] at judged
      rw [judged] at reading
      simp only [declared, if_true, Check.Alike, Check.fault?_append, Check.recorded_append,
        Check.fault?_map_ofLiteral, Check.recorded_map_ofLiteral, ← reading, failure?]
      simp [Check.fault?, Check.recorded]
  | .ok found =>
      have hasMap := Call.classMap?_of_verdict _ _ _ found judged
      have literalsPass : Call.declares settings.tagger o.function o.arguments = true →
          Check.Alike ((Call.pathLiterals o.arguments).map Check.ofLiteral) [] := by
        intro declared
        rw [Call.verdict, if_pos declared] at judged
        rw [judged] at reading
        refine ⟨?_, Check.recorded_map_ofLiteral _⟩
        rw [Check.fault?_map_ofLiteral, ← reading]
        rfl
      cases Call.judged_of_verdict _ _ _ found judged with
      | plain notDeclared => simp [notDeclared, Check.Alike]
      | malformed reason declared failed =>
          have own : o.diagnostics settings newline =
              [⟨.malformedExpression, none, settings.tagger,
                Position.after (o.beforeFault newline reason), some reason.detail⟩] := by
            simp [Occurrence.diagnostics, declared, failed]
          simp only [declared, if_true, Occurrence.classMap?, hasMap, Call.Verdict.classMap?, own]
          exact (literalsPass declared).append ⟨rfl, rfl⟩
      | classMap first second third path opening elements closing declared _ _ _ _ =>
          simp only [declared, if_true, Occurrence.classMap?, hasMap, Call.Verdict.classMap?]
          rw [List.map_eq_flatMap (f := Entry.check _ _ _)]
          apply (literalsPass declared).append
          apply Check.Alike.flatMap
          intro found _
          exact Entry.alike_trials ⟨settings, threshold, newline⟩ .origin path found.1 found.2

/-! ## Calls that have been walked -/

/-- Of the first calls of a pre-order, those of which all inner calls are among
them, too. -/
def Occurrence.walked : List Occurrence → List Occurrence
  | [] => []
  | o :: rest =>
      if o.call.calls.length ≤ rest.length + 1 then o :: walked rest else walked rest

namespace Moment

/-- Every call that is entered is left again, after the calls inside it and no
others. -/
inductive Nested : List Moment → Prop
  | nil : Nested []
  | call (o : Occurrence) (inside rest : List Moment) (insideNested : Nested inside)
      (whole : o.call.calls.length = (inside.filterMap entered?).length + 1)
      (restNested : Nested rest) : Nested (.enter o :: (inside ++ .leave o :: rest))

namespace Nested

theorem append {first second : List Moment} (firstNested : Nested first)
    (secondNested : Nested second) : Nested (first ++ second) := by
  induction firstNested with
  | nil => exact secondNested
  | call o inside rest insideNested whole _ _ ih =>
      have longer := Nested.call o inside (rest ++ second) insideNested whole ih
      simpa using longer

/-- A tour of calls with nothing left open has walked them all. -/
theorem walked_append {moments : List Moment} (nested : Nested moments)
    (more : List Occurrence) :
    Occurrence.walked (moments.filterMap entered? ++ more) =
      moments.filterMap entered? ++ Occurrence.walked more := by
  induction nested generalizing more with
  | nil => rfl
  | call o inside rest _ whole _ insideWalked restWalked =>
      have all := insideWalked (rest.filterMap entered? ++ more)
      rw [restWalked] at all
      simp only [List.filterMap_cons, entered?, List.filterMap_append, List.cons_append,
        List.append_assoc, Occurrence.walked, List.length_append, all]
      rw [if_pos (by omega)]

theorem left_perm {moments : List Moment} (nested : Nested moments) :
    (moments.filterMap left?).Perm (moments.filterMap entered?) := by
  induction nested with
  | nil => exact .nil
  | call o inside rest _ _ _ insideSame restSame =>
      simp only [List.filterMap_cons, left?, entered?, List.filterMap_append]
      exact List.perm_middle.trans ((insideSame.append restSame).cons o)

/-- Where a tour comes to a call, it has left the calls that it has walked. -/
theorem left_perm_walked {moments : List Moment} (nested : Nested moments) :
    ∀ (done : List Moment) (o : Occurrence) (later : List Moment),
      moments = done ++ .enter o :: later →
        (done.filterMap left?).Perm (Occurrence.walked (done.filterMap entered?)) := by
  induction nested with
  | nil =>
      intro done o later split
      simp at split
  | call c inside rest insideNested whole _ insideWalked restWalked =>
      intro done o later split
      cases done with
      | nil => exact .nil
      | cons head done =>
          obtain ⟨rfl, tails⟩ := List.cons.inj split
          rcases List.append_eq_append_iff.mp tails with
            ⟨tail, inDone, inRest⟩ | ⟨tail, inInside, inLater⟩
          · -- The call has been left: all its inner calls are among those before.
            cases tail with
            | nil => simp at inRest
            | cons left done' =>
                obtain ⟨rfl, restSplit⟩ := List.cons.inj inRest
                have after := restWalked done' o later restSplit
                have all := insideNested.walked_append (done'.filterMap entered?)
                subst inDone
                simp only [List.filterMap_cons, left?, entered?, List.filterMap_append,
                  Occurrence.walked, List.length_append, all]
                rw [if_pos (by omega)]
                exact List.perm_middle.trans ((insideNested.left_perm.append after).cons c)
          · -- The call is still open: the calls inside it reach beyond this place.
            cases tail with
            | nil => simp at inLater
            | cons entered later' =>
                obtain ⟨rfl, _⟩ := List.cons.inj inLater
                have within := insideWalked done o later' inInside
                subst inInside
                simp only [List.filterMap_append, List.filterMap_cons, entered?,
                  List.length_append, List.length_cons] at whole
                simp only [List.filterMap_cons, left?, entered?, Occurrence.walked]
                rw [if_neg (by omega)]
                exact within

end Nested

theorem nested_tour (newline : Text) :
    (∀ (e : Expr) (before : Text), Nested (e.tour newline before)) ∧
    (∀ (slots : List Argument) (before : Text), Nested (Slot.tourAll newline before slots)) ∧
    (∀ (elements : List Entry) (before : Text),
      Nested (Element.tourAll newline before elements)) ∧
    (∀ (parts : List (Part Expr)) (before : Text), Nested (Part.tourAll newline before parts)) := by
  apply Expr.tree_induction
  case call =>
    intro function gap opening arguments closing functionNested argumentsNested before
    let o : Occurrence := ⟨before, function, gap, opening, arguments, closing⟩
    have functionCalls := congrArg List.length ((map_call_entered newline).1 function before)
    have argumentsCalls := congrArg List.length
      ((map_call_entered newline).2.1 arguments (o.inside newline))
    have inside := (functionNested before).append (argumentsNested (o.inside newline))
    have whole : o.call.calls.length = ((function.tour newline before ++
        Slot.tourAll newline (o.inside newline) arguments).filterMap entered?).length + 1 := by
      rw [List.length_map] at functionCalls argumentsCalls
      simp [o, Occurrence.call, Expr.calls, functionCalls, argumentsCalls]
    have nested := Nested.call o _ [] inside whole .nil
    simpa [Expr.tour, o] using nested
  all_goals
    intros
    simp_all [Expr.tour, Slot.tourAll, Element.tourAll, Part.tourAll, Nested.nil, Nested.append]

/-- A tour that fails has done what comes before the first moment with a fault. -/
theorem performAll_error (context : Context) (start : Site) (moments : List Moment)
    (s s' : Session) (fault : Fault)
    (ended : performAll context start moments s = (.error fault, s')) :
    ∃ done moment later, moments = done ++ moment :: later ∧
      (∀ earlier ∈ done, fault? context start earlier = none) ∧
      perform context start moment (done.foldl (after context start) s) = (.error fault, s') := by
  induction moments generalizing s with
  | nil => cases ended
  | cons moment rest ih =>
      rw [performAll, Walk.bind_apply] at ended
      rcases run : perform context start moment s with ⟨fault' | _, middle⟩
      · rw [run] at ended
        exact ⟨[], moment, rest, rfl, by simp, by rw [← ended]; exact run⟩
      · rw [run] at ended
        obtain ⟨sound, rfl⟩ := (perform_ok_iff context start moment s middle).mp run
        obtain ⟨done, last, later, rfl, earlierSound, failed⟩ := ih _ ended
        refine ⟨moment :: done, last, later, rfl, ?_, failed⟩
        intro earlier member
        rcases List.mem_cons.mp member with rfl | inDone
        · exact sound
        · exact earlierSound earlier inDone

theorem perform_enter_error (context : Context) (start : Site) (o : Occurrence)
    (s s' : Session) (fault : Fault)
    (ended : perform context start (.enter o) s = (.error fault, s')) :
    Check.fault? (o.checks context start) = some fault ∧
      s' = { s with diagnostics := s.diagnostics ++ Check.recorded (o.checks context start) } := by
  simp only [perform, Walk.bind_apply, Walk.checkAll_apply] at ended
  cases found : Check.fault? (o.checks context start) with
  | none =>
      rw [found] at ended
      cases ended
  | some fault' =>
      rw [found] at ended
      cases ended
      exact ⟨rfl, rfl⟩

end Moment

theorem Session.performAll_of_visit_error (settings : Settings) (threshold : Int) (m : Module)
    (s s' : Session) (fault : Fault)
    (ended : Session.visit settings threshold true m s = (.error fault, s')) :
    Moment.performAll ⟨settings, threshold, m.newline⟩ (some .origin) m.tour s =
      (.error fault, s') := by
  rw [Session.visit_eq, Walk.bind_apply] at ended
  match run : Moment.performAll ⟨settings, threshold, m.newline⟩ (some .origin) m.tour s with
  | (.error fault', last) =>
      simp only [Session.startOf, if_true, run] at ended
      cases ended
      rfl
  | (.ok (), last) =>
      simp only [Session.startOf, if_true, run] at ended
      cases ended

/-! ## Walks -/

section Walks
variable (settings : Settings) (threshold : Int) (m : Module)

theorem Session.visit_passes (walked : Module) (s : Session)
    (ended : Session.visit settings threshold true m Session.fresh = (.ok walked, s)) :
    walked = m.resolved settings ∧
      (∀ o ∈ m.occurrences, Check.fault? (o.trials settings m.newline) = none) ∧
      s.diagnostics =
        (m.occurrences.flatMap fun o => Check.recorded (o.trials settings m.newline)) ∧
      s.resolved = m.occurrences.countP fun o => (o.classMap? settings.tagger).isSome := by
  have alike := fun o : Occurrence => o.alike_trials settings threshold m.newline
  obtain ⟨sound, rfl, rfl⟩ := (Session.visit_ok_iff _ _ _ _ _ _ _).mp ended
  have left : (m.tour.filterMap Moment.left?).Perm m.occurrences :=
    (left_perm_entered m.newline).2.2.2 m.parts []
  refine ⟨rfl, ?_, ?_, ?_⟩
  · intro o member
    rw [(alike o).1]
    exact sound _ (Moment.enter_mem_tour m o member)
  · rw [Moment.diagnostics_foldl]
    simp only [(alike _).2]
    rfl
  · rw [Moment.resolved_foldl, left.countP_eq]
    exact Nat.zero_add _

/-- Every record of a class map is sound markup, or none of them passes. -/
def Module.ShowsClassMaps : Prop :=
  threshold ≤ Level.debug.number → ∀ call ∈ m.calls, ∀ path elements,
    call.classMap? settings.tagger = some (path, elements) →
      (Record.ofClassMap path elements.length).unshown? = none

variable (shows : m.ShowsClassMaps settings threshold)
include shows

theorem Moment.fault?_leave (o : Occurrence) (occurs : o.call ∈ m.calls) :
    Moment.fault? ⟨settings, threshold, m.newline⟩ (some .origin) (.leave o) = none := by
  have level : ∀ path entries,
      (Record.ofClassMap path entries).level.number = Level.debug.number := fun _ _ => rfl
  match declared : o.classMap? settings.tagger with
  | none => simp [Moment.fault?, declared]
  | some (path, elements) =>
      simp only [Moment.fault?, declared, Option.bind_some, Log.fault?_eq, level]
      split
      · rename_i passes
        rw [shows passes o.call occurs path elements declared]
        rfl
      · rfl

theorem Session.visit_fails (s : Session) (fault : Fault)
    (ended : Session.visit settings threshold true m Session.fresh = (.error fault, s)) :
    ∃ done o later, m.tour = done ++ .enter o :: later ∧
      (∀ call ∈ done.filterMap Moment.entered?,
        Check.fault? (call.trials settings m.newline) = none) ∧
      Check.fault? (o.trials settings m.newline) = some fault ∧
      s.diagnostics = ((done.filterMap Moment.entered?).flatMap fun call =>
          Check.recorded (call.trials settings m.newline)) ++
        Check.recorded (o.trials settings m.newline) ∧
      s.resolved = (done.filterMap Moment.left?).countP fun call =>
        (call.classMap? settings.tagger).isSome := by
  have alike := fun o : Occurrence => o.alike_trials settings threshold m.newline
  obtain ⟨done, moment, later, split, sound, failed⟩ := Moment.performAll_error _ _ _ _ _ _
    (Session.performAll_of_visit_error settings threshold m _ _ _ ended)
  have inTour : moment ∈ m.tour := by simp [split]
  cases moment with
  | leave o =>
      -- A call that is left has nothing to fail at.
      have passes := Moment.fault?_leave settings threshold m shows o
        (Moment.call_mem_calls m _ o inTour (.inr rfl))
      rw [(Moment.perform_ok_iff _ _ _ _ _).mpr ⟨passes, rfl⟩] at failed
      cases failed
  | enter o =>
      obtain ⟨found, rfl⟩ := Moment.perform_enter_error _ _ _ _ _ _ failed
      refine ⟨done, o, later, split, ?_, (alike o).1.trans found, ?_, ?_⟩
      · intro call member
        obtain ⟨earlier, inDone, entered⟩ := List.mem_filterMap.mp member
        cases earlier with
        | leave other => cases entered
        | enter other =>
            cases entered
            rw [(alike call).1]
            exact sound _ inDone
      · simp only [Moment.diagnostics_foldl, (alike _).2, Session.fresh, List.nil_append]
      · simp only [Moment.resolved_foldl, Session.fresh, Nat.zero_add]

/-- A call that has passed its trials fails at nothing when it is left. -/
theorem Walk.leave_returns (o : Occurrence) (occurs : o ∈ m.occurrences)
    (passed : Check.fault? (o.trials settings m.newline) = none) (s : Session)
    (top : s.paths.head? = some (Call.path? settings.tagger o.function o.arguments)) :
    Walk.leave ⟨settings, threshold, m.newline⟩ (some (Cursor.origin.past (o.inside m.newline)))
        o.arguments (Slot.resolvedAll settings [] o.arguments) s =
      (.ok (Slot.resolvedAll settings
          [none, none, Call.path? settings.tagger o.function o.arguments] o.arguments),
        Moment.after ⟨settings, threshold, m.newline⟩ (some .origin) s (.leave o)) := by
  have sound := (o.alike_trials settings threshold m.newline).1.symm.trans passed
  have isCall : o.call ∈ m.calls := by
    rw [← m.map_call_occurrences]
    exact List.mem_map_of_mem occurs
  have silent := Moment.fault?_leave settings threshold m shows o isCall
  have done := (Moment.perform_ok_iff ⟨settings, threshold, m.newline⟩ (some .origin) (.leave o)
    s _).mpr ⟨silent, rfl⟩
  have left := Walk.leave_resolved ⟨settings, threshold, m.newline⟩ (some .origin) o s sound top
  rw [Walk.bind_apply, done] at left
  exact left

end Walks

section Ends
variable (settings : Settings) (m : Module)

/-- The calls that a walk comes to before the first trial that fails. -/
def Module.reached : List Occurrence :=
  m.occurrences.takeWhile fun o => (Check.fault? (o.trials settings m.newline)).isNone

/-- What is tried for the calls of a module in pre-order. -/
def Module.trials : List Check := m.occurrences.flatMap (Occurrence.trials settings m.newline)

theorem Module.trials_of_passed
    (passed : ∀ o ∈ m.occurrences, Check.fault? (o.trials settings m.newline) = none) :
    Check.fault? (m.trials settings) = none ∧
    Check.recorded (m.trials settings) =
      (m.occurrences.flatMap fun o => Check.recorded (o.trials settings m.newline)) ∧
    Occurrence.walked (m.reached settings) = m.occurrences := by
  refine ⟨Check.fault?_flatMap_of_sound _ _ passed, Check.recorded_flatMap_of_sound _ _ passed, ?_⟩
  have all : m.reached settings = m.occurrences := by
    apply List.takeWhile_eq_self_iff.mpr
    intro o member
    simp [passed o member]
  have nested : Moment.Nested m.tour := (Moment.nested_tour m.newline).2.2.2 m.parts []
  have walked := nested.walked_append []
  rw [all]
  simpa [Occurrence.walked, Module.occurrences] using walked

theorem Module.trials_of_failed (done later : List Moment) (o : Occurrence) (fault : Fault)
    (split : m.tour = done ++ .enter o :: later)
    (passed : ∀ call ∈ done.filterMap Moment.entered?,
      Check.fault? (call.trials settings m.newline) = none)
    (failed : Check.fault? (o.trials settings m.newline) = some fault) :
    Check.fault? (m.trials settings) = some fault ∧
    Check.recorded (m.trials settings) =
      ((done.filterMap Moment.entered?).flatMap fun call =>
          Check.recorded (call.trials settings m.newline)) ++
        Check.recorded (o.trials settings m.newline) ∧
    (done.filterMap Moment.left?).Perm (Occurrence.walked (m.reached settings)) := by
  have calls : m.occurrences =
      done.filterMap Moment.entered? ++ o :: later.filterMap Moment.entered? := by
    simp [Module.occurrences, split, Moment.entered?]
  have before := Check.fault?_flatMap_of_sound _ (Occurrence.trials settings m.newline) passed
  have reached : m.reached settings = done.filterMap Moment.entered? := by
    rw [Module.reached, calls, List.takeWhile_append_of_pos]
    · simp [failed]
    · intro call member
      simp [passed call member]
  refine ⟨?_, ?_, ?_⟩
  · rw [Module.trials, calls, List.flatMap_append, List.flatMap_cons, Check.fault?_append, before,
      Check.fault?_append, failed]
    rfl
  · rw [Module.trials, calls, List.flatMap_append, List.flatMap_cons, Check.recorded_append, before,
      Check.recorded_append, failed, Check.recorded_flatMap_of_sound _ _ passed]
    simp
  · rw [reached]
    exact ((Moment.nested_tour m.newline).2.2.2 m.parts []).left_perm_walked done o later split

end Ends

/-- A walk with positions gives the fault of the first trial that fails, or the
resolved tree if there is none.  It has then recorded the diagnostics from before
that trial, and has counted the class maps of the calls that were walked as a
whole.  No call that has passed its trials fails when it is left. -/
theorem Session.visit_first_fault (settings : Settings) (threshold : Int) (m : Module)
    (shows : m.ShowsClassMaps settings threshold) :
    let ended := Session.visit settings threshold true m Session.fresh
    m.occurrences.map Occurrence.call = m.calls ∧
    ended.1 = (match Check.fault? (m.trials settings) with
      | none => .ok (m.resolved settings)
      | some fault => .error fault) ∧
    ended.2.diagnostics = Check.recorded (m.trials settings) ∧
    ended.2.resolved = (Occurrence.walked (m.reached settings)).countP
      (fun o => (o.classMap? settings.tagger).isSome) ∧
    ∀ o ∈ m.occurrences, Check.fault? (o.trials settings m.newline) = none → ∀ s : Session,
      s.paths.head? = some (Call.path? settings.tagger o.function o.arguments) →
        ∃ s', Walk.leave ⟨settings, threshold, m.newline⟩
            (some (Cursor.origin.past (o.inside m.newline))) o.arguments
            (Slot.resolvedAll settings [] o.arguments) s =
          (.ok (Slot.resolvedAll settings
            [none, none, Call.path? settings.tagger o.function o.arguments] o.arguments), s') := by
  intro ended
  refine ⟨m.map_call_occurrences, ?_⟩
  rw [← and_assoc, ← and_assoc]
  constructor
  · match run : Session.visit settings threshold true m Session.fresh with
    | (.ok walked, s) =>
        obtain ⟨rfl, passed, diagnostics, resolved⟩ :=
          Session.visit_passes settings threshold m walked s run
        obtain ⟨noFault, recorded, all⟩ := m.trials_of_passed settings passed
        simp only [ended, run, noFault, recorded, all, diagnostics, resolved, and_self]
    | (.error fault, s) =>
        obtain ⟨done, o, later, split, passed, failed, diagnostics, resolved⟩ :=
          Session.visit_fails settings threshold m shows s fault run
        obtain ⟨found, recorded, left⟩ :=
          m.trials_of_failed settings done later o fault split passed failed
        simp only [ended, run, found, recorded, diagnostics, resolved, left.countP_eq, and_self]
  · intro o occurs passed s top
    exact ⟨_, Walk.leave_returns settings threshold m shows o occurs passed s top⟩

namespace Sample

/-- A path with an escape that lacks its digits, in the last entry of the second
of two class maps. -/
def failing : Text :=
  text ("A2(t, 'p', \x7bx: ''\x7d)\n" ++
    "A2(t, 'q', \x7by: A2(t, 'r', \x7bz: 'a'\x7d), v: A2(t, 's', \x7b**w\x7d), " ++
    "u: A2(t, '\\x', 1)\x7d)\n")

end Sample

theorem Session.visit_first_fault_sample :
    ∃ m s, Module.parse Sample.failing = .ok m ∧
      Session.visit Sample.settings Log.standard true m Session.fresh =
        (.error (.literal .escape), s) ∧
      s.diagnostics.map (·.defect) = [.emptyClassName, .malformedEntry, .malformedEntry,
        .malformedEntry, .malformedEntry] ∧
      s.resolved = 3 := by
  obtain ⟨m, parsed, seen⟩ := Sample.returns_of_seen (Module.parse Sample.failing)
    (fun m => (Check.fault? (m.trials Sample.settings),
      (Check.recorded (m.trials Sample.settings)).map (·.defect),
      (Occurrence.walked (m.reached Sample.settings)).countP
        fun o => (o.classMap? Sample.settings.tagger).isSome))
    (some (.literal .escape), [.emptyClassName, .malformedEntry, .malformedEntry,
      .malformedEntry, .malformedEntry], 3) (by decide +kernel)
  simp only [Prod.mk.injEq] at seen
  obtain ⟨fault, defects, counted⟩ := seen
  have quiet : m.ShowsClassMaps Sample.settings Log.standard := by
    intro passes
    exact absurd passes (by decide)
  obtain ⟨_, result, diagnostics, resolved, _⟩ :=
    Session.visit_first_fault Sample.settings Log.standard m quiet
  rw [fault] at result
  exact ⟨m, _, parsed, Prod.ext result rfl, by rw [diagnostics, defects], resolved.trans counted⟩

/-- A walk that has no trial fail and is ended by the record of a class map. -/
theorem Session.visit_ended_by_record :
    ∃ m s, Module.parse Sample.tagged = .ok m ∧ Check.fault? (m.trials Sample.settings) = none ∧
      Session.visit Sample.settings Level.debug.number true m Session.fresh =
        (.error (.markup (.unmatched (text "/x") 23)), s) := by
  obtain ⟨m, parsed, seen⟩ := Sample.returns_of_seen (Module.parse Sample.tagged)
    (fun m => (Check.fault? (m.trials Sample.settings),
      (Session.visit Sample.settings Level.debug.number true m Session.fresh).1.map fun _ => ()))
    (none, .error (.markup (.unmatched (text "/x") 23))) (by decide +kernel)
  simp only [Prod.mk.injEq] at seen
  obtain ⟨noFault, ended⟩ := seen
  refine ⟨m, _, parsed, noFault, Prod.ext ?_ rfl⟩
  cases run : (Session.visit Sample.settings Level.debug.number true m Session.fresh).1 with
  | ok walked => simp [run, Except.map] at ended
  | error fault => simpa [run, Except.map] using ended

end ClassMaps
