import ClassMaps.Proofs.Check
import ClassMaps.Proofs.Resolution

/-!
# The walk is a tour

A walk does what its tour says, moment by moment, and gives the resolved tree.
Entering a call makes its checks and puts its path on the stack; leaving it
takes one path off and accounts for the class map.  The tour of a tree leaves
what it enters, so there is a path to take off, and it is the call's own whatever
was on the stack before; and since resolving keeps all shapes, every element has
the one it was in the input beside it, and its second judgement, made after its
inside was walked, is the first one again.
-/

set_option autoImplicit false

namespace ClassMaps

namespace Log

def fault? (threshold : Int) (record : Record) : Option MarkupFault :=
  if threshold ≤ record.level.number then
    match Markup.render record.message with
    | .error fault => some fault
    | .ok _ => none
  else none

def kept (threshold : Int) (record : Record) : List Record :=
  if threshold ≤ record.level.number then [record] else []

theorem add_eq (threshold : Int) (records : List Record) (record : Record) :
    add threshold records record =
      match fault? threshold record with
      | some fault => .error fault
      | none => .ok (records ++ kept threshold record) := by
  unfold add fault? kept
  by_cases passed : threshold ≤ record.level.number
  · simp only [if_pos passed]
    cases Markup.render record.message <;> rfl
  · simp only [if_neg passed, List.append_nil]

end Log

def Record.ofClassMap (path : Text) (entries : Nat) : Record :=
  ⟨.classMap, .debug,
    text "Rewrote class map for '" ++ path ++ text "' (" ++ Text.ofNat entries ++
      text " entries)"⟩

namespace Walk

/-- Takes the innermost path off the stack, if there is one. -/
def drop : Walk Unit := modify fun s => { s with paths := s.paths.tail }

end Walk

namespace Moment

variable (context : Context) (start : Site)

def perform : Moment → Walk Unit
  | .enter call => do
      Walk.checkAll (call.checks context start)
      Walk.push (Call.path? context.settings.tagger call.function call.arguments)
  | .leave call => do
      Walk.drop
      match call.classMap? context.settings.tagger with
      | none => pure ()
      | some (path, elements) => do
          modify fun s => { s with resolved := s.resolved + 1 }
          Walk.log context.threshold (.ofClassMap path elements.length)

def performAll : List Moment → Walk Unit
  | [] => pure ()
  | moment :: rest => do
      perform context start moment
      performAll rest

def fault? : Moment → Option Fault
  | .enter call => Check.fault? (call.checks context start)
  | .leave call =>
      (call.classMap? context.settings.tagger).bind fun (path, elements) =>
        (Log.fault? context.threshold (.ofClassMap path elements.length)).map Fault.markup

def after (s : Session) : Moment → Session
  | .enter call =>
      { s with
        diagnostics := s.diagnostics ++ Check.recorded (call.checks context start)
        paths := Call.path? context.settings.tagger call.function call.arguments :: s.paths }
  | .leave call =>
      match call.classMap? context.settings.tagger with
      | none => { s with paths := s.paths.tail }
      | some (path, elements) =>
          { s with
            resolved := s.resolved + 1
            records := s.records ++
              Log.kept context.threshold (.ofClassMap path elements.length)
            paths := s.paths.tail }

end Moment

namespace Walk

theorem log_apply (threshold : Int) (record : Record) (s : Session) :
    log threshold record s =
      match Log.fault? threshold record with
      | some fault => (.error (.markup fault), s)
      | none => (.ok (), { s with records := s.records ++ Log.kept threshold record }) := by
  have got : (get : Walk Session) s = (.ok s, s) := rfl
  rw [log, bind_apply, got]
  simp only [Log.add_eq]
  cases Log.fault? threshold record <;> rfl

theorem modify_apply (change : Session → Session) (s : Session) :
    (modify change : Walk Unit) s = (.ok (), change s) := rfl

theorem drop_apply (s : Session) : drop s = (.ok (), { s with paths := s.paths.tail }) := rfl

/-- What is on top of the stack can be taken off. -/
theorem pop_apply (s : Session) (path : Option Text) (top : s.paths.head? = some path) :
    pop s = (.ok path, { s with paths := s.paths.tail }) := by
  obtain ⟨diagnostics, resolved, records, paths⟩ := s
  obtain ⟨rest, rfl⟩ := List.head?_eq_some_iff.mp top
  rfl

end Walk

namespace Moment

variable (context : Context) (start : Site)

/-- No moment of a tour looks for what may be missing. -/
theorem fault?_ne_missing (moment : Moment) : fault? context start moment ≠ some .missing := by
  cases moment with
  | enter call =>
      intro failed
      exact call.missing_notMem_checks context start (Check.error_mem_of_fault? _ _ failed)
  | leave call => simp [fault?, Option.bind_eq_some_iff]

theorem perform_ok_iff (moment : Moment) (s s' : Session) :
    perform context start moment s = (.ok (), s') ↔
      fault? context start moment = none ∧ s' = after context start s moment := by
  cases moment with
  | enter call =>
      simp only [perform, Walk.bind_apply, Walk.checkAll_apply, fault?, after]
      cases Check.fault? (call.checks context start) with
      | none => simp [Walk.push_apply, eq_comm]
      | some fault => simp
  | leave call =>
      simp only [perform, Walk.bind_apply, Walk.drop_apply, fault?, after]
      match call.classMap? context.settings.tagger with
      | none => simp [Walk.pure_apply, eq_comm]
      | some (path, elements) =>
          simp only [Walk.bind_apply, Walk.log_apply, Walk.modify_apply, Option.bind_some]
          cases Log.fault? context.threshold (.ofClassMap path elements.length) with
          | none => simp [eq_comm]
          | some fault => simp

theorem performAll_ok_iff (moments : List Moment) (s s' : Session) :
    performAll context start moments s = (.ok (), s') ↔
      (∀ moment ∈ moments, fault? context start moment = none) ∧
        s' = moments.foldl (after context start) s := by
  induction moments generalizing s with
  | nil => simp [performAll, Walk.pure_apply, eq_comm]
  | cons moment rest ih =>
      have head := perform_ok_iff context start moment s
      simp only [performAll, Walk.bind_apply]
      match run : perform context start moment s with
      | (.ok (), middle) =>
          obtain ⟨sound, same⟩ := (head middle).mp run
          subst same
          simp [ih, sound]
      | (.error fault, middle) =>
          have unsound : fault? context start moment ≠ none := by
            intro sound
            have ok := (head _).mpr ⟨sound, rfl⟩
            rw [run] at ok
            cases ok
          simp [unsound]

theorem result_perform (moment : Moment) (s : Session) :
    (perform context start moment s).1 =
      match fault? context start moment with
      | none => .ok ()
      | some fault => .error fault := by
  cases moment with
  | enter call =>
      simp only [perform, Walk.bind_apply, Walk.checkAll_apply, fault?]
      cases Check.fault? (call.checks context start) <;> rfl
  | leave call =>
      simp only [perform, Walk.bind_apply, Walk.drop_apply, fault?]
      cases call.classMap? context.settings.tagger with
      | none => rfl
      | some classMap =>
          obtain ⟨path, elements⟩ := classMap
          simp only [Walk.bind_apply, Walk.log_apply, Walk.modify_apply, Option.bind_some]
          cases Log.fault? context.threshold (.ofClassMap path elements.length) <;> rfl

/-- The first fault of its moments ends a tour, whatever was done before. -/
theorem result_performAll (moments : List Moment) (s : Session) :
    (performAll context start moments s).1 =
      match moments.findSome? (fault? context start) with
      | none => .ok ()
      | some fault => .error fault := by
  induction moments generalizing s with
  | nil => rfl
  | cons moment rest ih =>
      have head := result_perform context start moment s
      rw [performAll, Walk.bind_apply, List.findSome?_cons]
      rcases run : perform context start moment s with ⟨ended | _, middle⟩
      · cases found : fault? context start moment with
        | none => simp [run, found] at head
        | some fault => simpa [run, found] using head
      · cases found : fault? context start moment with
        | none => exact ih middle
        | some fault => simp [run, found] at head

theorem performAll_append (first second : List Moment) :
    performAll context start (first ++ second) = (do
      performAll context start first
      performAll context start second) := by
  induction first with
  | nil => simp [performAll]
  | cons moment rest ih => simp [performAll, ih]

theorem paths_after_enter (s : Session) (call : Occurrence) :
    (after context start s (.enter call)).paths =
      Call.path? context.settings.tagger call.function call.arguments :: s.paths := rfl

theorem paths_after_leave (s : Session) (call : Occurrence) :
    (after context start s (.leave call)).paths = s.paths.tail := by
  simp only [after]
  cases call.classMap? context.settings.tagger <;> rfl

end Moment

/-- A tour leaves the stack as it found it. -/
theorem paths_tour (context : Context) (start : Site) :
    (∀ (e : Expr) (before : Text) (s : Session),
      ((e.tour context.newline before).foldl (Moment.after context start) s).paths = s.paths) ∧
    (∀ (slots : List Argument) (before : Text) (s : Session),
      ((Slot.tourAll context.newline before slots).foldl (Moment.after context start) s).paths =
        s.paths) ∧
    (∀ (elements : List Entry) (before : Text) (s : Session),
      ((Element.tourAll context.newline before elements).foldl
        (Moment.after context start) s).paths = s.paths) ∧
    (∀ (parts : List (Part Expr)) (before : Text) (s : Session),
      ((Part.tourAll context.newline before parts).foldl (Moment.after context start) s).paths =
        s.paths) := by
  apply Expr.tree_induction
  case call =>
    intro function gap opening arguments closing functionKept argumentsKept before s
    simp only [Expr.tour, List.cons_append, List.foldl_cons, List.foldl_append, List.foldl_nil,
      Moment.paths_after_leave, argumentsKept, functionKept, Moment.paths_after_enter,
      List.tail_cons]
  all_goals
    intros
    simp_all [Expr.tour, Slot.tourAll, Element.tourAll, Part.tourAll]

/-! ## Leaving a call -/

theorem Slot.resolvedAll_of_noPath (settings : Settings) (paths : List (Option Text))
    (slots : List Argument) (noPath : ∀ path ∈ paths, path = none) :
    Slot.resolvedAll settings paths slots = Slot.resolvedAll settings [] slots := by
  induction slots generalizing paths with
  | nil => rfl
  | cons slot rest ih =>
      have head : paths.head?.join = none := by
        cases paths with
        | nil => rfl
        | cons path others => simp [noPath path]
      have tail := ih paths.tail fun path member => noPath path (List.mem_of_mem_tail member)
      simp [Slot.resolvedAll, head, tail]

namespace Walk

/-- An entry is judged after its inside was walked as it was before. -/
theorem apply_judge_resolved (settings : Settings) (path : Text) (entry : Entry) (p : Position)
    (sound : Entry.fault? path settings.loader entry = none) :
    ∃ judgement,
      Entry.judge path settings.loader (Element.resolved settings none entry) p = .ok judgement ∧
      Entry.apply (Element.resolved settings none entry) judgement =
        Element.resolved settings (some path) entry := by
  refine ⟨_, by rw [Entry.judge_eq, Entry.fault?_resolved, sound], ?_⟩
  unfold Entry.apply Entry.replacement?
  rw [Entry.className?_resolved]
  match found : Entry.className? entry with
  | none => exact (Entry.resolved_of_noClassName settings (some path) entry found).symm
  | some (name, className) =>
      cases entry with
      | spread gap value comma => cases found
      | pair key before after value comma =>
          simp [Element.resolved, Entry.replacement?, found, Element.withValue]

/-- A check that does not fail has had a position to look at. -/
theorem placed_of_check (context : Context) (start : Site) (path : Text) (found : Text × Entry)
    (rest : List Check)
    (sound : Check.fault? (Entry.check context start path found :: rest) = none) :
    (∃ k, start.past (found.1 ++ found.2.value.opened context.newline) = some k) ∧
      Entry.fault? path context.settings.loader found.2 = none ∧ Check.fault? rest = none := by
  unfold Entry.check at sound
  match placed : start.past (found.1 ++ found.2.value.opened context.newline) with
  | none => simp [placed, Check.placed, Check.fault?] at sound
  | some k =>
      rw [placed, Check.placed, Entry.judge_eq] at sound
      cases failed : Entry.fault? path context.settings.loader found.2 with
      | some fault => simp [failed, Check.fault?] at sound
      | none =>
          simp only [failed, Check.fault?] at sound
          exact ⟨⟨k, rfl⟩, rfl, sound⟩

theorem resolveAll_resolved (context : Context) (start : Site) (path before : Text)
    (elements : List Entry)
    (sound : Check.fault? ((Element.located context.newline before elements).map
      (Entry.check context start path)) = none) :
    resolveAll context path (start.past before)
        (elements.zip (elements.map (Element.resolved context.settings none))) =
      pure (elements.map (Element.resolved context.settings (some path))) := by
  induction elements generalizing before with
  | nil => rfl
  | cons entry rest ih =>
      rw [Element.located, List.map_cons] at sound
      obtain ⟨⟨k, placed⟩, entrySound, restSound⟩ := placed_of_check context start path _ _ sound
      obtain ⟨judgement, judged, applied⟩ :=
        apply_judge_resolved context.settings path entry k.position entrySound
      have tail := ih _ restSound
      simp only [List.append_assoc] at placed
      simp [resolveAll, Site.ofValue_eq, Site.start_eq, Site.past_past, placed, position, judged,
        ofEntry, applied, tail]

theorem withElements_resolved (settings : Settings) (path : Option Text) (e : Expr) (opening : Gap)
    (elements : List Entry) (closing : Gap) (display : e.stripped = .dict opening elements closing) :
    withElements (e.resolved settings none) (elements.map (Element.resolved settings path)) =
      e.resolved settings path := by
  fun_induction Expr.stripped e with
  | case1 outer inner outer' ih => simp only [Expr.resolved, withElements, ih display]
  | case2 e notParen =>
      subst display
      simp only [Expr.resolved, withElements, Element.resolvedAll_eq_map]

theorem leave_of_noClassMap (context : Context) (start inside : Site) (o : Occurrence)
    (s : Session)
    (noMap : Call.classMap? context.settings.tagger o.function o.arguments = none)
    (top : s.paths.head? = some none) (arguments walked : List Argument) :
    leave context inside arguments walked s =
      (do
        Moment.perform context start (.leave o)
        return walked : Walk (List Argument)) s := by
  simp only [leave, bind_apply, pop_apply s none top, Moment.perform, drop_apply,
    Occurrence.classMap?, noMap, pure_apply]

theorem leave_of_classMap (context : Context) (start : Site) (o : Occurrence) (s : Session)
    (first second third : Argument) (path : Text) (opening : Gap) (elements : List Entry)
    (closing : Gap)
    (three : o.arguments = [first, second, third])
    (display : third.value.stripped = .dict opening elements closing)
    (hasMap : Call.classMap? context.settings.tagger o.function o.arguments =
      some (path, elements))
    (sound : Check.fault? ((o.entries context.newline).map (Entry.check context start path)) =
      none)
    (top : s.paths.head? = some (some path)) :
    leave context (start.past (o.inside context.newline)) o.arguments
        (Slot.resolvedAll context.settings [] o.arguments) s =
      (do
        Moment.perform context start (.leave o)
        return Slot.resolvedAll context.settings [none, none, some path] o.arguments :
          Walk (List Argument)) s := by
  have isThird : o.arguments[2]? = some third := by rw [three]; rfl
  have walked : (third.value.resolved context.settings none).elements =
      elements.map (Element.resolved context.settings none) := by
    rw [Expr.elements_resolved]
    simp [Expr.elements, display]
  have replaced := withElements_resolved context.settings (some path) third.value opening elements
    closing display
  have shown : display? o.arguments = some (opening, elements) := by
    simp only [display?, isThird, display]
  have starts := elementsSite_eq context start o third opening isThird
  simp only [Occurrence.entries, isThird, display] at sound
  have resolved := resolveAll_resolved context start path _ elements sound
  rw [three] at hasMap shown starts ⊢
  -- Both sides take the path off, count and log; the elements judged on the way up are walked.
  simp only [leave, bind_apply, pop_apply s _ top, shown, starts, Moment.perform,
    Occurrence.classMap?, three, hasMap, drop_apply, Slot.resolvedAll, List.head?_nil,
    List.head?_cons, List.tail_nil, List.tail_cons, Option.join_none, Option.join_some, walked,
    resolved, pure_apply, modify_apply, List.length_map, replaced, Slot.withValue,
    Record.ofClassMap]

/-- Leaving a call whose own path is on top gives its arguments resolved, and
nothing of what was judged on the way down can fail now. -/
theorem leave_resolved (context : Context) (start : Site) (o : Occurrence) (s : Session)
    (sound : Check.fault? (o.checks context start) = none)
    (top : s.paths.head? = some (Call.path? context.settings.tagger o.function o.arguments)) :
    leave context (start.past (o.inside context.newline)) o.arguments
        (Slot.resolvedAll context.settings [] o.arguments) s =
      (do
        Moment.perform context start (.leave o)
        return Slot.resolvedAll context.settings
          [none, none, Call.path? context.settings.tagger o.function o.arguments]
          o.arguments : Walk (List Argument)) s := by
  unfold Occurrence.checks at sound
  match judged : Call.verdict context.settings.tagger o.function o.arguments with
  | .error fault => simp [judged, Check.fault?] at sound
  | .ok found =>
      have declared := Call.classMap?_of_verdict _ _ _ found judged
      have own : Call.path? context.settings.tagger o.function o.arguments =
          found.classMap?.map (·.1) := by rw [Call.path?, declared]
      rw [own] at top ⊢
      cases Call.judged_of_verdict _ _ _ found judged with
      | plain =>
          simp only [Call.Verdict.classMap?, Option.map_none] at top ⊢
          rw [Slot.resolvedAll_of_noPath context.settings [none, none, none] _ (by simp)]
          exact leave_of_noClassMap context start _ o s declared top _ _
      | malformed reason =>
          simp only [Call.Verdict.classMap?, Option.map_none] at top ⊢
          rw [Slot.resolvedAll_of_noPath context.settings [none, none, none] _ (by simp)]
          exact leave_of_noClassMap context start _ o s declared top _ _
      | classMap first second third path opening elements closing _ _ three _ display =>
          simp only [judged] at sound
          exact leave_of_classMap context start o s first second third path opening elements closing
            three display declared sound top

/-- Two continuations may differ where the computation before them fails. -/
theorem bind_congr_of_ok {α β : Type} (first : Walk α) (next next' : α → Walk β)
    (same : ∀ s found s', first s = (.ok found, s') → next found s' = next' found s') :
    first >>= next = first >>= next' := by
  funext s
  rw [bind_apply, bind_apply]
  match run : first s with
  | (.ok found, s') => exact same s found s' run
  | (.error fault, s') => rfl

end Walk

theorem Occurrence.toured (context : Context) (start : Site) (o : Occurrence) (s s' : Session)
    (run : Moment.performAll context start (.enter o :: (o.function.tour context.newline o.before ++
      Slot.tourAll context.newline (o.inside context.newline) o.arguments)) s = (.ok (), s')) :
    Check.fault? (o.checks context start) = none ∧
      s'.paths.head? = some (Call.path? context.settings.tagger o.function o.arguments) := by
  obtain ⟨sound, rfl⟩ := (Moment.performAll_ok_iff context start _ s s').mp run
  constructor
  · exact sound (.enter o) (by simp)
  · simp only [List.foldl_cons, List.foldl_append, (paths_tour context start).2.1,
      (paths_tour context start).1, Moment.paths_after_enter, List.head?_cons]

theorem Occurrence.walk_eq_tour (context : Context) (start : Site) (o : Occurrence)
    (functionWalk : o.function.walk context (start.past o.before) = (do
      Moment.performAll context start (o.function.tour context.newline o.before)
      return o.function.resolved context.settings none))
    (argumentsWalk : Slot.walkAll context (start.past (o.inside context.newline)) o.arguments = (do
      Moment.performAll context start
        (Slot.tourAll context.newline (o.inside context.newline) o.arguments)
      return Slot.resolvedAll context.settings [] o.arguments)) :
    o.call.walk context (start.past o.before) = (do
      Moment.performAll context start (o.call.tour context.newline o.before)
      return o.call.resolved context.settings none) := by
  have entered := Walk.enter_eq context start o
  have walked : o.call.walk context (start.past o.before) = (do
      Moment.performAll context start (.enter o :: (o.function.tour context.newline o.before ++
        Slot.tourAll context.newline (o.inside context.newline) o.arguments))
      let resolved ← Walk.leave context (start.past (o.inside context.newline)) o.arguments
        (Slot.resolvedAll context.settings [] o.arguments)
      return .call (o.function.resolved context.settings none) o.gap o.opening resolved
        o.closing) := by
    simp only [Occurrence.inside] at entered argumentsWalk ⊢
    simp only [Occurrence.call, Expr.walk, Site.past_past, entered, functionWalk, argumentsWalk,
      Moment.performAll, Moment.performAll_append, Moment.perform, bind_assoc, pure_bind]
  -- What is inside has been toured and left the stack alone, so the call's own path is on top.
  have left : ∀ s s', Moment.performAll context start (.enter o ::
      (o.function.tour context.newline o.before ++
        Slot.tourAll context.newline (o.inside context.newline) o.arguments)) s = (.ok (), s') →
      Walk.leave context (start.past (o.inside context.newline)) o.arguments
          (Slot.resolvedAll context.settings [] o.arguments) s' = (do
        Moment.perform context start (.leave o)
        return Slot.resolvedAll context.settings
          [none, none, Call.path? context.settings.tagger o.function o.arguments]
          o.arguments : Walk (List Argument)) s' := by
    intro s s' run
    obtain ⟨sound, top⟩ := o.toured context start s s' run
    exact Walk.leave_resolved context start o s' sound top
  have tourEnds : o.call.tour context.newline o.before =
      (.enter o :: (o.function.tour context.newline o.before ++
        Slot.tourAll context.newline (o.inside context.newline) o.arguments)) ++ [.leave o] := by
    simp only [Occurrence.call, Expr.tour]
  rw [walked, tourEnds, Moment.performAll_append, bind_assoc]
  apply Walk.bind_congr_of_ok
  intro s found s' run
  rw [Walk.bind_apply, left s s' run, ← Walk.bind_apply]
  simp only [Moment.performAll, bind_assoc, pure_bind, Occurrence.call, Expr.resolved]

/-- A walk performs its tour and gives the resolved tree. -/
theorem walk_eq_tour (context : Context) (start : Site) :
    (∀ (e : Expr) (before : Text), e.walk context (start.past before) = (do
      Moment.performAll context start (e.tour context.newline before)
      return e.resolved context.settings none)) ∧
    (∀ (slots : List Argument) (before : Text),
      Slot.walkAll context (start.past before) slots = (do
        Moment.performAll context start (Slot.tourAll context.newline before slots)
        return Slot.resolvedAll context.settings [] slots)) ∧
    (∀ (elements : List Entry) (before : Text),
      Element.walkAll context (start.past before) elements = (do
        Moment.performAll context start (Element.tourAll context.newline before elements)
        return Element.resolvedAll context.settings none elements)) ∧
    (∀ (parts : List (Part Expr)) (before : Text),
      Part.walkAll context (start.past before) parts = (do
        Moment.performAll context start (Part.tourAll context.newline before parts)
        return Part.resolvedAll context.settings parts)) := by
  apply Expr.tree_induction
  case call =>
    intro function gap opening arguments closing functionWalk argumentsWalk before
    exact Occurrence.walk_eq_tour context start ⟨before, function, gap, opening, arguments, closing⟩
      (functionWalk before) (argumentsWalk _)
  all_goals
    intros
    simp_all [Expr.walk, Slot.walkAll, Element.walkAll, Part.walkAll, Expr.tour, Slot.tourAll,
      Element.tourAll, Part.tourAll, Expr.resolved, Slot.resolvedAll, Element.resolvedAll,
      Part.resolvedAll, Moment.performAll, Moment.performAll_append, Site.past_past]

/-- Walking keeps the number of elements, so each of them has its own beside it when the
call around them is left. -/
theorem Element.length_of_walkAll (context : Context) (start : Site) (before : Text)
    (elements walked : List Entry) (s s' : Session)
    (given : Element.walkAll context (start.past before) elements s = (.ok walked, s')) :
    walked.length = elements.length := by
  rw [(walk_eq_tour context start).2.2.1, Walk.bind_apply] at given
  match toured : Moment.performAll context start
      (Element.tourAll context.newline before elements) s with
  | (.ok _, middle) =>
      simp only [toured, Walk.pure_apply, Walk.result_inj, Except.ok.injEq] at given
      rw [← given.1, Element.resolvedAll_eq_map, List.length_map]
  | (.error fault, middle) => simp [toured] at given

end ClassMaps
