import ClassMaps.Proofs.Escape
import ClassMaps.Proofs.Outcome

/-!
# What a run depends on

Apart from the places and keys that its diagnostics name, a run depends on the
calls of its tree only, each judged by itself.  It returns if every call
passes, since the account that it logs at its end can always be shown; and
what it counts and what its diagnostics say is gathered from the calls in
pre-order.
-/

set_option autoImplicit false

namespace ClassMaps

/-- What a diagnostic says, apart from where and under which key. -/
structure Brief where
  defect : Defect
  path : Option Text
  detail : Option Text
deriving DecidableEq

def Diagnostic.brief (d : Diagnostic) : Brief := ⟨d.defect, d.path, d.detail⟩

def Entry.brief? (path loader : Text) (entry : Entry) : Option Brief :=
  (Entry.defect? path loader entry).map fun found => ⟨found.1, some path, none⟩

namespace Call

variable (settings : Settings) (threshold : Int) (function : Expr) (arguments : List Argument)

/-- The diagnostics of a call, all at one place. -/
def diagnostics (p : Position) : List Diagnostic :=
  if declares settings.tagger function arguments then
    match malformation? arguments, classMap? settings.tagger function arguments with
    | some reason, _ => [⟨.malformedExpression, none, settings.tagger, p, some reason.detail⟩]
    | none, some (path, elements) => elements.filterMap (Entry.diagnostic? path settings.loader p)
    | none, none => []
  else []

def briefs : List Brief :=
  if declares settings.tagger function arguments then
    match malformation? arguments, classMap? settings.tagger function arguments with
    | some reason, _ => [⟨.malformedExpression, none, some reason.detail⟩]
    | none, some (path, elements) => elements.filterMap (Entry.brief? path settings.loader)
    | none, none => []
  else []

/-- A call passes if it can be judged and the record of its class map can be
shown. -/
def Passes : Prop :=
  fault? settings function arguments = none ∧
  ∀ path elements, classMap? settings.tagger function arguments = some (path, elements) →
    Log.fault? threshold (.ofClassMap path elements.length) = none

end Call

def Expr.briefs (settings : Settings) : Expr → List Brief
  | .call function _ _ arguments _ => Call.briefs settings function arguments
  | _ => []

def Expr.Passes (settings : Settings) (threshold : Int) : Expr → Prop
  | .call function _ _ arguments _ => Call.Passes settings threshold function arguments
  | _ => True

/-! ## Occurrences -/

namespace Occurrence

/-- What does not look at positions finds the same in the diagnostics of a call
wherever it stands. -/
theorem map_diagnostics {α : Type} (view : Diagnostic → α) (p : Position)
    (placeless : ∀ d : Diagnostic, view d = view { d with position := p })
    (settings : Settings) (newline : Text) (o : Occurrence) :
    (o.diagnostics settings newline).map view =
      (Call.diagnostics settings o.function o.arguments p).map view := by
  simp only [diagnostics, Call.diagnostics, classMap?]
  by_cases declares : Call.declares settings.tagger o.function o.arguments = true
  · rw [if_pos declares, if_pos declares]
    cases Call.malformation? o.arguments with
    | some reason => exact congrArg (fun found => [found]) (placeless _)
    | none =>
        cases declared : Call.classMap? settings.tagger o.function o.arguments with
        | none => rfl
        | some found =>
            have same := o.entries_of_classMap? settings.tagger newline found.1 found.2 declared
            simp only [← same, List.map_filterMap, List.filterMap_map]
            congr 1
            funext entry
            simp only [Entry.diagnostic?, Option.map_map, Function.comp_def]
            cases Entry.defect? found.1 settings.loader entry.2 with
            | none => rfl
            | some defect => exact congrArg some (placeless _)
  · rw [if_neg declares, if_neg declares]

theorem map_brief_diagnostics (settings : Settings) (newline : Text) (o : Occurrence) :
    (o.diagnostics settings newline).map Diagnostic.brief = o.call.briefs settings := by
  rw [o.map_diagnostics Diagnostic.brief .origin (fun _ => rfl)]
  simp only [Call.diagnostics, call, Expr.briefs, Call.briefs]
  split
  · cases Call.malformation? o.arguments with
    | some reason => rfl
    | none =>
        cases Call.classMap? settings.tagger o.function o.arguments with
        | none => rfl
        | some found =>
            simp only [List.map_filterMap, Entry.diagnostic?, Option.map_map]
            rfl
  · rfl

end Occurrence

namespace Moment

theorem leave_mem_tour (m : Module) (o : Occurrence) (member : o ∈ m.occurrences) :
    Moment.leave o ∈ m.tour := by
  have same := (left_perm_entered m.newline).2.2.2 m.parts []
  obtain ⟨moment, inTour, left⟩ := List.mem_filterMap.mp (same.mem_iff.mpr member)
  cases moment with
  | enter call => cases left
  | leave call =>
      cases left
      exact inTour

theorem call_mem_calls (m : Module) (moment : Moment) (o : Occurrence) (inTour : moment ∈ m.tour)
    (about : moment.entered? = some o ∨ moment.left? = some o) : o.call ∈ m.calls := by
  have same := (left_perm_entered m.newline).2.2.2 m.parts []
  rw [← m.map_call_occurrences]
  apply List.mem_map_of_mem
  rcases about with entered | left
  · exact List.mem_filterMap.mpr ⟨moment, inTour, entered⟩
  · exact same.mem_iff.mp (List.mem_filterMap.mpr ⟨moment, inTour, left⟩)

/-- A tour is without fault if every call passes. -/
theorem tour_passes_iff (settings : Settings) (threshold : Int) (m : Module) :
    (∀ moment ∈ m.tour, moment.fault? ⟨settings, threshold, m.newline⟩ (some .origin) = none) ↔
      ∀ call ∈ m.calls, call.Passes settings threshold := by
  constructor
  · intro sound call member
    obtain ⟨o, rfl, occurs⟩ := Occurrence.mem_calls m call member
    have entered := sound _ (Moment.enter_mem_tour m o occurs)
    have left := sound _ (leave_mem_tour m o occurs)
    refine ⟨o.fault?_of_checks _ _ entered, ?_⟩
    intro path elements declared
    have same : o.classMap? settings.tagger = some (path, elements) := declared
    simpa [fault?, same] using left
  · intro pass moment inTour
    cases moment with
    | enter o =>
        -- The positions of a module are known, so the checks fail only where the call does.
        have sound := (pass _ (call_mem_calls m _ o inTour (.inl rfl))).1
        rw [fault?, o.fault?_checks]
        exact sound
    | leave o =>
        have shown := (pass _ (call_mem_calls m _ o inTour (.inr rfl))).2
        rw [fault?]
        cases declared : o.classMap? settings.tagger with
        | none => rfl
        | some found => simp [shown found.1 found.2 declared]

end Moment

/-! ## Runs -/

theorem Text.isDigit_of_mem_ofNat (n : Nat) : ∀ c ∈ ofNat n, c.isDigit = true := by
  intro c member
  obtain ⟨digit, inDigits, rfl⟩ := List.mem_map.mp member
  have isDigit := Nat.isDigit_of_mem_toDigits (by omega) (by omega) inDigits
  simp only [Char.isDigit, Bool.and_eq_true, decide_eq_true_eq, ge_iff_le,
    UInt32.le_iff_toNat_le] at isDigit
  have atLeast : 0x30 ≤ digit.toNat := isDigit.1
  have atMost : digit.toNat ≤ 0x39 := isDigit.2
  simp [CodePoint.isDigit, CodePoint.ofChar, atLeast, atMost]

namespace Run

theorem isBracket_ofNat (n : Nat) : ∀ c ∈ Text.ofNat n, Markup.isBracket c = false := by
  intro c member
  have isDigit := Text.isDigit_of_mem_ofNat n c member
  simp only [CodePoint.isDigit, Bool.and_eq_true, decide_eq_true_eq] at isDigit
  have left : '['.toNat = 0x5B := rfl
  have right : ']'.toNat = 0x5D := rfl
  simp only [Markup.isBracket, CodePoint.isOneOf, CodePoint.is, List.any_cons, List.any_nil,
    Bool.or_false, Bool.or_eq_false_iff, beq_eq_false_iff_ne]
  omega

theorem plain_summary (resolved diagnostics : Nat) :
    Markup.Plain (summary resolved diagnostics).message := by
  apply Markup.plain_of_noBracket
  have opening : ∀ c ∈ text "Rewrote ", Markup.isBracket c = false := by decide
  have middle : ∀ c ∈ text " CSS module expression(s), ", Markup.isBracket c = false := by decide
  have ending : ∀ c ∈ text " diagnostic(s)", Markup.isBracket c = false := by decide
  intro c member
  simp only [summary, List.mem_append] at member
  rcases member with (((inText | inNumber) | inText) | inNumber) | inText
  · exact opening c inText
  · exact isBracket_ofNat resolved c inNumber
  · exact middle c inText
  · exact isBracket_ofNat diagnostics c inNumber
  · exact ending c inText

theorem closing_shown (threshold : Int) (s : Session) :
    ∀ record ∈ closing s, Log.fault? threshold record = none := by
  have shown : ∀ record : Record, (∃ seen, Markup.render record.message = .ok seen) →
      Log.fault? threshold record = none := by
    rintro record ⟨seen, rendered⟩
    unfold Log.fault?
    rw [rendered]
    split <;> rfl
  intro record member
  rcases List.mem_cons.mp member with rfl | inAccount
  · exact shown _ (Markup.render_of_plain _ (plain_summary _ _))
  · obtain ⟨d, _, rfl⟩ := List.mem_map.mp inAccount
    exact shown _ (Markup.render_escape d.message)

theorem tree_returns_iff (settings : Settings) (threshold : Int) (m : Module) :
    (∃ outcome, tree settings threshold m = .ok outcome) ↔
      ∀ call ∈ m.calls, call.Passes settings threshold := by
  rw [← Moment.tour_passes_iff]
  constructor
  · rintro ⟨outcome, ran⟩
    exact ((tree_ok_iff settings threshold m outcome).mp ran).1
  · intro sound
    exact ⟨_, (tree_ok_iff settings threshold m _).mpr ⟨sound, closing_shown threshold _, rfl⟩⟩

theorem module_tree (settings : Settings) (threshold : Int) (m : Module) (outcome : Outcome)
    (ran : tree settings threshold m = .ok outcome) : outcome.module = m.resolved settings := by
  obtain ⟨_, _, rfl⟩ := (tree_ok_iff settings threshold m outcome).mp ran
  rfl

theorem resolved_tree (settings : Settings) (threshold : Int) (m : Module) (outcome : Outcome)
    (ran : tree settings threshold m = .ok outcome) :
    outcome.resolved = m.calls.countP fun call => (call.classMap? settings.tagger).isSome := by
  obtain ⟨_, _, rfl⟩ := (tree_ok_iff settings threshold m outcome).mp ran
  exact Session.resolved_toured settings threshold m

theorem briefs_tree (settings : Settings) (threshold : Int) (m : Module) (outcome : Outcome)
    (ran : tree settings threshold m = .ok outcome) :
    outcome.diagnostics.map Diagnostic.brief = m.calls.flatMap (Expr.briefs settings) := by
  obtain ⟨sound, _, rfl⟩ := (tree_ok_iff settings threshold m outcome).mp ran
  change (Session.toured settings threshold m).diagnostics.map Diagnostic.brief = _
  rw [Session.diagnostics_toured settings threshold m sound, List.map_flatMap,
    ← m.map_call_occurrences, List.flatMap_map]
  simp only [Occurrence.map_brief_diagnostics]

end Run

end ClassMaps
