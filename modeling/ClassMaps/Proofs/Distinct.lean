import ClassMaps.Proofs.Report
import Mathlib.Data.List.Nodup

/-!
# Diagnostics that differ

No two diagnostics of a run have the same message.

A message ends with its position, so two messages that are the same are about nodes
that start at one place.  What is wrong inside a call starts after the call does, and
no further call reaches across that start.  So if two offences start at one place, the
first is an argument or an element of a call, and the second is the call that stands
there; and what is said of an argument or an element is never said of a call.
-/

set_option autoImplicit false

namespace ClassMaps

/-! ## Calls that declare -/

theorem Occurrence.nested_of_declares (tagger newline : Text) (o : Occurrence)
    (declared : Call.declares tagger o.function o.arguments = true) :
    o.nested newline = (o.argumentPlaces newline).flatMap (Place.occurrences newline) := by
  have named : o.function.name? = some Call.applyName := by
    unfold Call.declares at declared
    split at declared
    · cases declared
    · simp only [Bool.and_eq_true, Expr.isName, decide_eq_true_eq] at declared
      exact declared.1.1
  have noCalls : Place.occurrences newline ⟨o.before, o.function⟩ = [] := by
    have calls := (map_call_entered newline).1 o.function o.before
    rw [o.function.calls_of_name? _ named] at calls
    exact List.map_eq_nil_iff.mp calls
  rw [nested, inner_place, List.flatMap_cons, noCalls, List.nil_append]

section Geometry
variable (settings : Settings) (newline : Text) (o : Occurrence)

theorem Occurrence.argument_bounds :
    ∀ p ∈ o.argumentPlaces newline,
      o.place.start < p.start ∧ p.stop newline < o.place.stop newline := by
  intro p member
  have bounds := (Part.places_in newline _ _ p member).bounds
  rw [Slot.printAll_flatMap_parts] at bounds
  simp only [inside, List.length_append, sign, List.length_singleton] at bounds
  simp only [Place.stop, Place.start, place, call, Expr.print, List.length_append, sign,
    List.length_singleton] at bounds ⊢
  omega

/-- The start of a place that is strictly inside a call, and that no call inside
reaches across. -/
structure Occurrence.Holds (p : Place) : Prop where
  after : o.place.start < p.start
  before : p.start < o.place.stop newline
  apart : ∀ o' ∈ o.nested newline,
    p.start ≤ o'.place.start ∨ o'.place.stop newline ≤ p.start

theorem Occurrence.holds_argument
    (declared : Call.declares settings.tagger o.function o.arguments = true) (p : Place)
    (isArgument : p ∈ o.argumentPlaces newline) : o.Holds newline (p.core newline) := by
  have bounds := o.argument_bounds newline p isArgument
  have core := (p.core_within newline).bounds
  have length := (p.core newline).start_le_stop newline
  refine ⟨by omega, by omega, ?_⟩
  intro o' member
  rw [o.nested_of_declares settings.tagger newline declared] at member
  exact Place.core_apart (Part.places_pairwise newline _ _) p isArgument o' member

theorem Occurrence.holds_element
    (declared : Call.declares settings.tagger o.function o.arguments = true)
    (found : Text × Entry) (isEntry : found ∈ o.entries newline) :
    o.Holds newline (Place.core newline ⟨found.1, found.2.value⟩) := by
  obtain ⟨third, isThird, noCall, inDict⟩ := o.entry_mem newline found isEntry
  have bounds := o.argument_bounds newline third isThird
  have inThird := (((third.core newline).inner_within newline _ inDict).trans
    (third.core_within newline)).bounds
  have core := (Place.core_within newline ⟨found.1, found.2.value⟩).bounds
  have length := (Place.core newline ⟨found.1, found.2.value⟩).start_le_stop newline
  refine ⟨by omega, by omega, ?_⟩
  intro o' member
  rw [o.nested_of_declares settings.tagger newline declared] at member
  obtain ⟨p, isArgument, inArgument⟩ := List.mem_flatMap.mp member
  have within := (p.occurrence_within newline o' inArgument).bounds
  rcases Place.eq_or_apart (Part.places_pairwise newline _ _) third p isThird isArgument with
    rfl | before | after
  · -- The call is in the dict display, so it is in one of its keys and values.
    rw [← Place.occurrences_core, Place.occurrences_eq, noCall] at inArgument
    exact Place.core_apart (Part.places_pairwise newline _ _) _ inDict o' inArgument
  · exact .inl (by omega)
  · exact .inr (by omega)

end Geometry

/-! ## What messages tell apart -/

/-- What is said of an argument is not said of a call. -/
theorem Call.Malformation.detail_ne (reason reason' : Call.Malformation)
    (inner : reason = .path ∨ reason = .classMap) (outer : reason' ≠ .path ∧ reason' ≠ .classMap) :
    reason.detail ≠ reason'.detail := by
  intro same
  have first := congrArg List.head? same
  rcases inner with rfl | rfl
  all_goals
    cases reason' with
    | count found => simp [detail, text, CodePoint.ofChar] at first
    | notPositional => simp [detail, text, CodePoint.ofChar] at first
    | path => exact outer.1 rfl
    | classMap => exact outer.2 rfl

/-- Two offences that no message is about both. -/
def Offence.Differs (x y : Offence) : Prop :=
  x.place.start ≠ y.place.start ∨ x.diagnostic.statement ≠ y.diagnostic.statement

section Differ
variable (settings : Settings) (newline : Text)

/-- The offence of a call by itself. -/
def Occurrence.offence (o : Occurrence) (reason : Call.Malformation) : Offence :=
  ⟨.malformedExpression, none, settings.tagger, some reason.detail, o.place⟩

theorem Occurrence.own_or_inside (o : Occurrence) (x : Offence)
    (declared : Call.declares settings.tagger o.function o.arguments = true)
    (offends : o.Offends settings newline x) :
    (∃ reason, (reason ≠ .path ∧ reason ≠ .classMap) ∧ x = o.offence settings reason) ∨
    o.Holds newline x.place ∧ ∀ (o' : Occurrence) (reason : Call.Malformation),
      reason ≠ .path ∧ reason ≠ .classMap →
        x.diagnostic.statement ≠ (o'.offence settings reason).diagnostic.statement := by
  cases offends with
  | call reason outer => exact .inl ⟨reason, outer, rfl⟩
  | argument reason inner p isArgument =>
      refine .inr ⟨o.holds_argument settings newline declared p isArgument, ?_⟩
      intro o' reason' outer same
      have details : reason.detail = reason'.detail :=
        List.append_cancel_left (List.append_cancel_right same)
      exact reason.detail_ne reason' inner outer details
  | element path found isEntry defect key given =>
      refine .inr ⟨o.holds_element settings newline declared found isEntry, ?_⟩
      intro o' reason' outer same
      have notExpression :=
        Entry.defect?_ne_malformedExpression path settings.loader found.2 defect key given
      have second := congrArg (·[1]?) same
      cases defect with
      | emptyClassName => simp [Diagnostic.statement, Offence.diagnostic, offence, text,
          CodePoint.ofChar] at second
      | malformedEntry => simp [Diagnostic.statement, Offence.diagnostic, offence, text,
          CodePoint.ofChar] at second
      | malformedExpression => exact notExpression rfl

theorem Occurrence.start_lt_stop (o : Occurrence) : o.place.start < o.place.stop newline := by
  simp only [Place.stop, place, call, Expr.print, List.length_append, sign, List.length_singleton]
  omega

/-- An offence of a call starts in the text of the call. -/
theorem Occurrence.offence_bounds (o : Occurrence) (x : Offence)
    (declared : Call.declares settings.tagger o.function o.arguments = true)
    (offends : o.Offends settings newline x) :
    o.place.start ≤ x.place.start ∧ x.place.start < o.place.stop newline := by
  rcases o.own_or_inside settings newline x declared offends with ⟨_, _, rfl⟩ | ⟨holds, _⟩
  · exact ⟨Nat.le_refl _, o.start_lt_stop newline⟩
  · exact ⟨Nat.le_of_lt holds.after, holds.before⟩

theorem Occurrence.differs_of_precedes (o o' : Occurrence)
    (declared : Call.declares settings.tagger o.function o.arguments = true)
    (declared' : Call.declares settings.tagger o'.function o'.arguments = true)
    (precedes : o.Precedes newline o') (x x' : Offence)
    (offends : o.Offends settings newline x) (offends' : o'.Offends settings newline x') :
    x.Differs x' := by
  have bounds := o.offence_bounds settings newline x declared offends
  have bounds' := o'.offence_bounds settings newline x' declared' offends'
  rcases precedes with nested | after
  · have starts : o.place.start < o'.place.start := by
      rw [o.nested_of_declares settings.tagger newline declared] at nested
      obtain ⟨p, isArgument, inside⟩ := List.mem_flatMap.mp nested
      have argument := o.argument_bounds newline p isArgument
      have within := (p.occurrence_within newline o' inside).bounds
      omega
    rcases o.own_or_inside settings newline x declared offends with ⟨_, _, rfl⟩ | ⟨holds, unlike⟩
    · left
      change o.place.start ≠ _
      omega
    · rcases holds.apart o' nested with upTo | past
      · rcases o'.own_or_inside settings newline x' declared' offends' with
          ⟨reason, outer, rfl⟩ | ⟨holds', _⟩
        · exact .inr (unlike o' reason outer)
        · have later := holds'.after
          exact .inl (by omega)
      · exact .inl (by omega)
  · exact .inl (by omega)

/-! ## Elements of a class map -/

theorem Element.print_eq (element : Entry) : ∃ rest,
    element.print newline = element.lead newline ++ (element.value.print newline ++ rest) := by
  cases element with
  | pair key before after value comma =>
      exact ⟨Comma.print newline comma, by simp [print, printAll, lead, Element.value]⟩
  | spread gap value comma =>
      exact ⟨Comma.print newline comma, by simp [print, printAll, lead, Element.value]⟩

theorem Element.lead_pos (element : Entry) : 0 < (element.lead newline).length := by
  cases element <;> simp only [lead, sign, List.length_append, List.length_singleton] <;> omega

theorem Element.before_lt_located (before : Text) (elements : List Entry) :
    ∀ found ∈ located newline before elements, before.length < found.1.length := by
  induction elements generalizing before with
  | nil => simp [located]
  | cons element rest ih =>
      intro found member
      rcases List.mem_cons.mp member with rfl | later
      · have lead := element.lead_pos newline
        rw [List.length_append]
        omega
      · have longer := ih _ found later
        rw [List.length_append] at longer
        omega

/-- Each value starts after the one before it. -/
theorem Element.located_pairwise (before : Text) (elements : List Entry) :
    (located newline before elements).Pairwise fun a b =>
      (Place.core newline ⟨a.1, a.2.value⟩).start <
        (Place.core newline ⟨b.1, b.2.value⟩).start := by
  induction elements generalizing before with
  | nil => exact List.Pairwise.nil
  | cons element rest ih =>
      refine List.Pairwise.cons ?_ (ih _)
      intro found later
      obtain ⟨after, printed⟩ := element.print_eq newline
      have next := before_lt_located newline _ rest found later
      have core := (Place.core_within newline
        ⟨before ++ element.lead newline, element.value⟩).bounds
      have core' := (Place.core_within newline ⟨found.1, found.2.value⟩).bounds
      have length := (Place.core newline
        ⟨before ++ element.lead newline, element.value⟩).start_le_stop newline
      simp only [Place.stop, Place.start, printed, List.length_append] at next core core' length ⊢
      omega

theorem Occurrence.entries_pairwise (o : Occurrence) :
    (o.entries newline).Pairwise fun a b =>
      (Place.core newline ⟨a.1, a.2.value⟩).start <
        (Place.core newline ⟨b.1, b.2.value⟩).start := by
  unfold entries
  split
  · exact List.Pairwise.nil
  · split
    · exact Element.located_pairwise newline _ _
    · exact List.Pairwise.nil

theorem Occurrence.offences_pairwise (o : Occurrence) :
    (o.offences settings newline).Pairwise Offence.Differs := by
  unfold offences
  split
  · match Call.malformation? o.arguments, o.classMap? settings.tagger with
    | some reason, _ =>
        change List.Pairwise _ ((o.offender? newline reason).toList.map _)
        cases o.offender? newline reason with
        | none => exact List.Pairwise.nil
        | some place => exact List.pairwise_singleton _ _
    | none, some (path, _) =>
        refine (o.entries_pairwise newline).filterMap _ ?_
        intro a b starts x fromA y fromB
        obtain ⟨_, _, rfl⟩ := Option.map_eq_some_iff.mp fromA
        obtain ⟨_, _, rfl⟩ := Option.map_eq_some_iff.mp fromB
        exact .inl (Nat.ne_of_lt starts)
    | none, none => exact List.Pairwise.nil
  · exact List.Pairwise.nil

end Differ

/-! ## The messages of a run -/

theorem Module.offences_pairwise (settings : Settings) (m : Module) :
    (m.offences settings).Pairwise Offence.Differs := by
  rw [offences, List.pairwise_flatMap]
  refine ⟨fun o _ => o.offences_pairwise settings m.newline, m.pairwise_occurrences.imp ?_⟩
  intro o o' precedes x member x' member'
  obtain ⟨declared, offends⟩ := o.offends_of_mem settings m.newline x member
  obtain ⟨declared', offends'⟩ := o'.offends_of_mem settings m.newline x' member'
  exact o.differs_of_precedes settings m.newline o' declared declared' precedes x x' offends
    offends'

/-- Positions are as different as the texts before them, where no line break is
cut. -/
theorem Position.after_inj (t u rest rest' : Text) (whole : t ++ rest = u ++ rest')
    (begins : rest.begins = true) (begins' : rest'.begins = true)
    (same : after t = after u) : t = u := by
  have reads := Text.readFrom?_after true t rest begins (.inl rfl)
  rw [whole, same, Text.readFrom?_after true u rest' begins' (.inl rfl)] at reads
  rw [Option.some.inj reads] at whole
  exact List.append_cancel_right whole

theorem Module.messages_differ (settings : Settings) (source : Text) (m : Module)
    (parsed : Module.parse source = .ok m) (x y : Offence) (member : x ∈ m.offences settings)
    (member' : y ∈ m.offences settings) (differs : x.Differs y) :
    x.diagnostic.message ≠ y.diagnostic.message := by
  intro same
  obtain ⟨statements, positions⟩ := Diagnostic.message_inj _ _ same
  obtain ⟨after, printed, begins⟩ := m.offence_begins settings source parsed x member
  obtain ⟨after', printed', begins'⟩ := m.offence_begins settings source parsed y member'
  have texts : x.place.before = y.place.before :=
    Position.after_inj _ _ after after' (printed.symm.trans printed') begins begins' positions
  rcases differs with apart | unlike
  · exact apart (by rw [Place.start, Place.start, texts])
  · exact unlike statements

theorem Module.messages_apart (settings : Settings) (source : Text) (m : Module)
    (parsed : Module.parse source = .ok m) :
    (((m.offences settings).map Offence.diagnostic).map Diagnostic.message).Nodup := by
  rw [List.map_map, List.Nodup, List.pairwise_map]
  apply (m.offences_pairwise settings).imp_of_mem
  intro x y member member' differs
  exact m.messages_differ settings source parsed x y member member' differs

/-- No two diagnostics of a run read the same, even if they are about nodes that
start at the same place. -/
theorem Run.messages_nodup (settings : Settings) (threshold : Int) (code : Text)
    (outcome : Outcome) (given : Run.source settings threshold code = .ok outcome) :
    (outcome.diagnostics.map Diagnostic.message).Nodup := by
  obtain ⟨m, parsed, same⟩ := Run.offences_source settings threshold code outcome given
  rw [same]
  exact m.messages_apart settings code parsed

/-- An element of the class map and the call that is its value start at one place. -/
theorem Run.messages_nodup_sample :
    ∃ outcome, Run.source Sample.settings 0 Sample.scattered.code = .ok outcome ∧
      outcome.positions = [⟨2, 11⟩, ⟨4, 6⟩, ⟨4, 12⟩, ⟨4, 12⟩, ⟨6, 4⟩] ∧
      (outcome.diagnostics.map Diagnostic.message).Nodup := by
  obtain ⟨outcome, given, seen⟩ := Sample.scattered.returns
  exact ⟨outcome, given, seen, Run.messages_nodup _ _ _ _ given⟩

/-! ## Equal diagnostics -/

theorem Diagnostic.mem_equalPairs (ds : List Diagnostic) (i j : Nat) :
    (i, j) ∈ equalPairs ds ↔ i < j ∧ ∃ d, ds[i]? = some d ∧ ds[j]? = some d := by
  simp only [equalPairs, List.mem_flatMap, List.mem_map, List.mem_filter, List.mem_zipIdx_iff_getElem?,
    Prod.exists, Prod.mk.injEq, Bool.and_eq_true, decide_eq_true_eq]
  constructor
  · rintro ⟨d, k, atK, e, l, ⟨atL, before, rfl⟩, rfl, rfl⟩
    exact ⟨before, d, atK, atL⟩
  · rintro ⟨before, d, atI, atJ⟩
    exact ⟨d, i, atI, d, j, ⟨atJ, before, rfl⟩, rfl, rfl⟩

/-- No run finds the same defect twice. -/
theorem Run.equalPairs_source (settings : Settings) (threshold : Int) (code : Text)
    (outcome : Outcome) (given : Run.source settings threshold code = .ok outcome) :
    Diagnostic.equalPairs outcome.diagnostics = [] := by
  obtain ⟨m, parsed, same⟩ := Run.offences_source settings threshold code outcome given
  have apart := List.Nodup.of_map _ (m.messages_apart settings code parsed)
  rw [← same, List.nodup_iff_getElem?_ne_getElem?] at apart
  rw [List.eq_nil_iff_forall_not_mem]
  rintro ⟨i, j⟩ member
  obtain ⟨before, d, atI, atJ⟩ := (Diagnostic.mem_equalPairs _ i j).mp member
  obtain ⟨last, _⟩ := List.getElem?_eq_some_iff.mp atJ
  exact apart i j before last (atI.trans atJ.symm)

end ClassMaps
