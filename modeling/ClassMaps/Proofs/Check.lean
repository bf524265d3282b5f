import ClassMaps.Proofs.Occurrence

/-!
# The checks of a call

On the way down a call is checked and nothing else happens: its checks are
made in order, each ends the walk with a fault or records at most one
diagnostic, and then the path of its class map goes on the stack.  If no check
fails, the diagnostics recorded are those of the call's own defects.
-/

set_option autoImplicit false

namespace ClassMaps

/-! ## Sites as texts -/

namespace Site

theorem past_past (site : Site) (t u : Text) : (site.past t).past u = site.past (t ++ u) := by
  cases site with
  | none => rfl
  | some k => simp [past, Cursor.past_append]

theorem start_eq (newline : Text) (site : Site) (e : Expr) :
    start newline site e = site.past (e.opened newline) := by
  fun_induction start newline site e with
  | case1 site opening inner closing ih => rw [ih, past_past, Expr.opened]
  | case2 e site notParen =>
      cases e with
      | paren opening inner closing => exact absurd rfl (notParen opening inner closing)
      | _ => cases site <;> rfl

theorem getElem?_ofSlots (newline : Text) (site : Site) (slots : List Argument) (i : Nat) :
    (ofSlots newline site slots)[i]? = slots[i]?.map fun slot =>
      site.past (Slot.printAll newline (slots.take i) ++ slot.mark.print newline) := by
  induction slots generalizing site i with
  | nil => simp [ofSlots]
  | cons slot rest ih =>
      cases i with
      | zero => simp [ofSlots, Slot.printAll]
      | succ i => simp [ofSlots, ih, past_past, Slot.printAll_cons]

theorem ofValue_eq (newline : Text) (site : Site) (element : Entry) :
    ofValue newline site element = site.past (element.lead newline) := by
  cases element <;> rfl

end Site

/-- What a check gives: a fault, or a diagnostic if there is a defect. -/
abbrev Check := Except Fault (Option Diagnostic)

namespace Check

def fault? : List Check → Option Fault
  | [] => none
  | .error fault :: _ => some fault
  | .ok _ :: rest => fault? rest

theorem error_mem_of_fault? (checks : List Check) (fault : Fault)
    (given : fault? checks = some fault) : .error fault ∈ checks := by
  fun_induction fault? checks with
  | case1 => cases given
  | case2 found rest =>
      cases given
      exact List.mem_cons_self
  | case3 found rest ih => exact List.mem_cons_of_mem _ (ih given)

def recorded : List Check → List Diagnostic
  | [] => []
  | .error _ :: _ => []
  | .ok found :: rest => found.toList ++ recorded rest

def placed (site : Site) (check : Position → Check) : Check :=
  match site with
  | none => .error .noPosition
  | some k => check k.position

end Check

namespace Entry

/-- The check of an element of the class map for `path`, after the text before
its value. -/
def check (context : Context) (start : Site) (path : Text) (found : Text × Entry) : Check :=
  Check.placed (start.past (found.1 ++ found.2.value.opened context.newline)) fun p =>
    match judge path context.settings.loader found.2 p with
    | .error fault => .error fault.toFault
    | .ok judgement => .ok judgement.diagnostic

end Entry

namespace Occurrence

def beforeFault (newline : Text) (o : Occurrence) : Call.Malformation → Text
  | .count _ => o.before
  | .notPositional => o.before
  | .path => o.beforeArgument newline 1
  | .classMap => o.beforeArgument newline 2

def checks (context : Context) (start : Site) (o : Occurrence) : List Check :=
  match Call.verdict context.settings.tagger o.function o.arguments with
  | .error fault => [.error (.literal fault)]
  | .ok .plain => []
  | .ok (.malformed reason) =>
      [Check.placed (start.past (o.beforeFault context.newline reason)) fun p =>
        .ok (some ⟨.malformedExpression, none, context.settings.tagger, p, some reason.detail⟩)]
  | .ok (.classMap path _ _) =>
      (o.entries context.newline).map (Entry.check context start path)

/-- Checks look at the way down only. -/
theorem missing_notMem_checks (context : Context) (start : Site) (o : Occurrence) :
    .error .missing ∉ o.checks context start := by
  have placed : ∀ (site : Site) (check : Position → Check), (∀ p, check p ≠ .error .missing) →
      Check.placed site check ≠ .error .missing := by
    intro site check finds
    cases site with
    | none => simp [Check.placed]
    | some k => exact finds k.position
  unfold checks
  split
  · simp
  · simp
  · intro member
    exact placed _ _ (by simp) (List.mem_singleton.mp member).symm
  · intro member
    obtain ⟨found, _, failed⟩ := List.mem_map.mp member
    refine placed _ _ (fun p => ?_) failed
    split
    · rename_i fault _
      cases fault <;> simp [EntryFault.toFault]
    · simp

/-- The diagnostics of a call's own defects: none if it declares no class map,
one if it fails a test, else those of its elements in order. -/
def diagnostics (settings : Settings) (newline : Text) (o : Occurrence) : List Diagnostic :=
  if Call.declares settings.tagger o.function o.arguments then
    match Call.malformation? o.arguments, o.classMap? settings.tagger with
    | some reason, _ =>
        [⟨.malformedExpression, none, settings.tagger,
          Position.after (o.beforeFault newline reason), some reason.detail⟩]
    | none, some (path, _) =>
        (o.entries newline).filterMap fun (before, entry) =>
          Entry.diagnostic? path settings.loader
            (Position.after (before ++ entry.value.opened newline)) entry
    | none, none => []
  else []

end Occurrence

def Call.fault? (settings : Settings) (function : Expr) (arguments : List Argument) :
    Option Fault :=
  match Call.verdict settings.tagger function arguments with
  | .error fault => some (.literal fault)
  | .ok (.classMap path _ elements) =>
      elements.findSome? fun entry =>
        (Entry.fault? path settings.loader entry).map EntryFault.toFault
  | .ok _ => none

/-- A call can be judged if its literal can be read and every entry of its class
map can be judged. -/
theorem Call.fault?_eq_none_iff (settings : Settings) (function : Expr)
    (arguments : List Argument) :
    Call.fault? settings function arguments = none ↔
      (Call.verdict settings.tagger function arguments).isOk ∧
      ∀ path elements,
        Call.classMap? settings.tagger function arguments = some (path, elements) →
          ∀ entry ∈ elements, Entry.fault? path settings.loader entry = none := by
  unfold Call.fault?
  cases judged : Call.verdict settings.tagger function arguments with
  | error fault => simp [Except.isOk, Except.toBool]
  | ok found =>
      rw [Call.classMap?_of_verdict _ _ _ found judged]
      cases found <;> simp [Except.isOk, Except.toBool, Call.Verdict.classMap?]

/-! ## Checks at known positions -/

section Positions
variable (context : Context) (k : Cursor)

theorem Entry.check_eq (path before : Text) (entry : Entry) :
    Entry.check context (some k) path (before, entry) =
      match Entry.fault? path context.settings.loader entry with
      | some fault => .error fault.toFault
      | none => .ok (Entry.diagnostic? path context.settings.loader
          (k.past (before ++ entry.value.opened context.newline)).position entry) := by
  simp only [Entry.check, Site.past, Option.map_some, Check.placed, Entry.judge_eq]
  cases Entry.fault? path context.settings.loader entry <;> rfl

theorem Entry.fault?_map_check (path : Text) (found : List (Text × Entry)) :
    Check.fault? (found.map (Entry.check context (some k) path)) =
      (found.map (·.2)).findSome? fun entry =>
        (Entry.fault? path context.settings.loader entry).map EntryFault.toFault := by
  induction found with
  | nil => rfl
  | cons head rest ih =>
      obtain ⟨before, entry⟩ := head
      rw [List.map_cons, Entry.check_eq]
      cases fault : Entry.fault? path context.settings.loader entry with
      | none => simp [Check.fault?, ih, fault]
      | some fault' => simp [Check.fault?, fault]

theorem Entry.recorded_map_check (path : Text) (found : List (Text × Entry))
    (sound : Check.fault? (found.map (Entry.check context (some k) path)) = none) :
    Check.recorded (found.map (Entry.check context (some k) path)) =
      found.filterMap fun (before, entry) =>
        Entry.diagnostic? path context.settings.loader
          (k.past (before ++ entry.value.opened context.newline)).position entry := by
  induction found with
  | nil => rfl
  | cons head rest ih =>
      obtain ⟨before, entry⟩ := head
      rw [List.map_cons, Entry.check_eq] at sound ⊢
      cases fault : Entry.fault? path context.settings.loader entry with
      | some fault' => simp [Check.fault?, fault] at sound
      | none =>
          simp only [fault, Check.fault?] at sound
          simp only [Check.recorded, ih sound, List.filterMap_cons]
          cases Entry.diagnostic? path context.settings.loader
            (k.past (before ++ entry.value.opened context.newline)).position entry <;> rfl

end Positions

namespace Occurrence

theorem entries_of_classMap? (tagger newline : Text) (o : Occurrence) (path : Text)
    (elements : List Entry) (declared : o.classMap? tagger = some (path, elements)) :
    (o.entries newline).map (·.2) = elements := by
  obtain ⟨first, second, third, opening, closing, three, _, display⟩ :=
    Call.classMap?_cases tagger o.function o.arguments path elements declared
  have isThird : o.arguments[2]? = some third := by rw [three]; rfl
  simp only [entries, isThird, display, Element.map_snd_located]

/-- Where positions are known, no fault depends on them. -/
theorem fault?_checks (context : Context) (k : Cursor) (o : Occurrence) :
    Check.fault? (o.checks context (some k)) =
      Call.fault? context.settings o.function o.arguments := by
  unfold checks Call.fault?
  cases judged : Call.verdict context.settings.tagger o.function o.arguments with
  | error fault => rfl
  | ok found =>
      have declared := Call.classMap?_of_verdict _ _ _ found judged
      cases found with
      | plain => rfl
      | malformed reason => rfl
      | classMap path opening elements =>
          have same := o.entries_of_classMap? _ context.newline path elements declared
          simp only [Entry.fault?_map_check, same]

theorem fault?_of_checks (context : Context) (start : Site) (o : Occurrence)
    (sound : Check.fault? (o.checks context start) = none) :
    Call.fault? context.settings o.function o.arguments = none := by
  cases start with
  | some k => rw [← fault?_checks context k o, sound]
  | none =>
      unfold checks at sound
      unfold Call.fault?
      cases judged : Call.verdict context.settings.tagger o.function o.arguments with
      | error fault => simp [judged, Check.fault?] at sound
      | ok found =>
          have declared := Call.classMap?_of_verdict _ _ _ found judged
          cases found with
          | plain => rfl
          | malformed reason => rfl
          | classMap path opening elements =>
              have same := o.entries_of_classMap? _ context.newline path elements declared
              simp only [judged] at sound
              -- Without positions the first entry would fail, so there is none to judge.
              cases located : o.entries context.newline with
              | nil =>
                  rw [located] at same
                  simp [← same]
              | cons head rest =>
                  simp [located, Entry.check, Site.past, Check.placed, Check.fault?] at sound

theorem recorded_checks (context : Context) (o : Occurrence)
    (sound : Check.fault? (o.checks context (some .origin)) = none) :
    Check.recorded (o.checks context (some .origin)) =
      o.diagnostics context.settings context.newline := by
  unfold checks at sound ⊢
  unfold diagnostics classMap?
  match judged : Call.verdict context.settings.tagger o.function o.arguments with
  | .error fault => simp [judged, Check.fault?] at sound
  | .ok found =>
      rw [Call.classMap?_of_verdict _ _ _ found judged]
      cases Call.judged_of_verdict _ _ _ found judged with
      | plain notDeclared => simp [notDeclared, Check.recorded]
      | malformed reason declared failed =>
          simp [declared, failed, Check.recorded, Check.placed, Site.past, Position.after]
      | classMap first second third path opening elements closing declared passed _ _ _ =>
          simp only [judged] at sound
          simp only [declared, passed, if_true, Call.Verdict.classMap?, Position.after,
            Entry.recorded_map_check context .origin path _ sound]

end Occurrence

/-! ## Entering is checking -/

namespace Walk

def checkAll : List Check → Walk Unit
  | [] => pure ()
  | .error fault :: _ => fail fault
  | .ok none :: rest => checkAll rest
  | .ok (some d) :: rest => do
      diagnose d
      checkAll rest

@[simp] theorem fail_bind {α β : Type} (fault : Fault) (next : α → Walk β) :
    (fail fault >>= next) = fail fault := rfl

theorem judgeAll_eq (context : Context) (start : Site) (path before : Text)
    (elements : List Entry) :
    judgeAll context path (start.past before) elements =
      checkAll ((Element.located context.newline before elements).map
        (Entry.check context start path)) := by
  induction elements generalizing before with
  | nil => rfl
  | cons element rest ih =>
      have next := ih (before ++ element.print context.newline)
      simp only [judgeAll, Element.located, List.map_cons, Entry.check, Site.ofValue_eq,
        Site.start_eq, Site.past_past, next, List.append_assoc]
      cases start.past (before ++ (element.lead context.newline ++
          element.value.opened context.newline)) with
      | none => simp [position, Check.placed, checkAll]
      | some k =>
          simp only [position, Check.placed, pure_bind]
          cases Entry.judge path context.settings.loader element k.position with
          | error fault => simp [ofEntry, checkAll]
          | ok judgement =>
              obtain ⟨value, diagnostic⟩ := judgement
              cases diagnostic with
              | none => simp [ofEntry, checkAll]
              | some d => simp [ofEntry, checkAll]

theorem argumentSite_eq (context : Context) (start : Site) (o : Occurrence) (i : Nat)
    (slot : Argument) (found : o.arguments[i]? = some slot) :
    malformationSite.argumentSite context.newline (start.past (o.inside context.newline))
        o.arguments i = start.past (o.beforeArgument context.newline i) := by
  unfold malformationSite.argumentSite Occurrence.beforeArgument
  rw [Site.getElem?_ofSlots, found]
  simp only [Option.map_some, Site.start_eq, Site.past_past, List.append_assoc]

theorem malformationSite_eq (context : Context) (start : Site) (o : Occurrence)
    (reason : Call.Malformation) (given : Call.malformation? o.arguments = some reason) :
    malformationSite context.newline (start.past o.before) (start.past (o.inside context.newline))
        o.arguments reason = start.past (o.beforeFault context.newline reason) := by
  have three := Call.length_of_malformation? o.arguments reason given
  cases reason with
  | count found => rfl
  | notPositional => rfl
  | path =>
      have long := three (by simp)
      exact argumentSite_eq context start o 1 _ (List.getElem?_eq_getElem (by omega))
  | classMap =>
      have long := three (by simp)
      exact argumentSite_eq context start o 2 _ (List.getElem?_eq_getElem (by omega))

theorem elementsSite_eq (context : Context) (start : Site) (o : Occurrence) (third : Argument)
    (opening : Gap) (found : o.arguments[2]? = some third) :
    elementsSite context.newline (start.past (o.inside context.newline)) o.arguments opening =
      start.past (o.beforeArgument context.newline 2 ++
        (sign '\x7b' ++ Gap.print context.newline opening)) := by
  unfold elementsSite Occurrence.beforeArgument
  rw [Site.getElem?_ofSlots, found]
  simp only [Option.map_some, Site.start_eq, Site.past_past, List.append_assoc]

theorem enter_eq (context : Context) (start : Site) (o : Occurrence) :
    enter context (start.past o.before) (start.past (o.inside context.newline)) o.function
        o.arguments = (do
      checkAll (o.checks context start)
      push (Call.path? context.settings.tagger o.function o.arguments)) := by
  unfold enter Occurrence.checks
  match judged : Call.verdict context.settings.tagger o.function o.arguments with
  | .error fault => simp [ofLiteral, checkAll]
  | .ok found =>
      have declared := Call.classMap?_of_verdict _ _ _ found judged
      cases Call.judged_of_verdict _ _ _ found judged with
      | plain notDeclared =>
          simp [ofLiteral, checkAll, Call.path?, declared, Call.Verdict.classMap?]
      | malformed reason _ failed =>
          simp only [ofLiteral, pure_bind, malformationSite_eq context start o reason failed]
          cases start.past (o.beforeFault context.newline reason) with
          | none => simp [position, Check.placed, checkAll]
          | some p =>
              simp [position, Check.placed, checkAll, Call.path?, declared, Call.Verdict.classMap?]
      | classMap first second third path opening elements closing _ _ three _ display =>
          have isThird : o.arguments[2]? = some third := by rw [three]; rfl
          have hasPath : Call.path? context.settings.tagger o.function o.arguments = some path := by
            rw [Call.path?, declared]
            rfl
          simp only [ofLiteral, pure_bind, elementsSite_eq context start o third opening isThird,
            judgeAll_eq, hasPath, Occurrence.entries, isThird, display]

/-! ## What checks do to a session -/

@[simp] theorem result_inj {α : Type} (found found' : Except Fault α) (s s' : Session) :
    @Eq (Id (Except Fault α × Session)) (found, s) (found', s') ↔ found = found' ∧ s = s' :=
  ⟨fun same => Prod.mk.inj same, fun ⟨sameFound, sameSession⟩ => by rw [sameFound, sameSession]⟩

theorem bind_apply {α β : Type} (first : Walk α) (next : α → Walk β) (s : Session) :
    (first >>= next) s =
      match first s with
      | (.ok found, s') => next found s'
      | (.error fault, s') => (.error fault, s') := by
  change ExceptT.bindCont next (first s).1 (first s).2 = _
  obtain ⟨found, s'⟩ := first s
  cases found <;> rfl

theorem pure_apply {α : Type} (found : α) (s : Session) :
    (pure found : Walk α) s = (.ok found, s) := rfl

theorem fail_apply {α : Type} (fault : Fault) (s : Session) :
    (fail fault : Walk α) s = (.error fault, s) := rfl

theorem diagnose_apply (d : Diagnostic) (s : Session) :
    diagnose d s = (.ok (), { s with diagnostics := s.diagnostics ++ [d] }) := rfl

theorem push_apply (path : Option Text) (s : Session) :
    push path s = (.ok (), { s with paths := path :: s.paths }) := rfl

/-- Checks end at the first fault, and what was found before it is recorded. -/
theorem checkAll_apply (checks : List Check) (s : Session) :
    checkAll checks s =
      (match Check.fault? checks with
        | none => .ok ()
        | some fault => .error fault,
        { s with diagnostics := s.diagnostics ++ Check.recorded checks }) := by
  induction checks generalizing s with
  | nil => simp [checkAll, Check.fault?, Check.recorded, pure_apply]
  | cons check rest ih =>
      match check with
      | .error fault => simp [checkAll, Check.fault?, Check.recorded, fail_apply]
      | .ok none => simp [checkAll, Check.fault?, Check.recorded, ih]
      | .ok (some d) =>
          simp [checkAll, Check.fault?, Check.recorded, bind_apply, diagnose_apply, ih]

end Walk

end ClassMaps
