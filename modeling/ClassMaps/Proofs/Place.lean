import ClassMaps.Proofs.Occurrence

/-!
# Places in a text

A place is an expression together with the text before it.  What an expression is
made of stands in its text in order: the places right inside a place lie within it,
one after the other, and so do the calls further inside.

Hence of two calls of a tree, in pre-order, the second is inside the first or starts
where the first has ended.  And no call reaches across the place of an argument or
an element: it lies before that place, inside it, or after it.
-/

set_option autoImplicit false

namespace ClassMaps

/-! ## What expressions are made of -/

/-- The row of gaps, tokens and expressions that an expression is made of. -/
def Expr.parts : Expr → List (Part Expr)
  | .name text => [.token text]
  | .string text => [.token text]
  | .formatted parts => parts
  | .concat left gap right => [.expr left, .gap gap, .expr right]
  | .call function gap opening arguments closing =>
      [.expr function, .gap gap, .token (sign '('), .gap opening] ++
        (arguments.flatMap Slot.parts ++ [.gap closing, .token (sign ')')])
  | .subscript value gap opening indices closing =>
      [.expr value, .gap gap, .token (sign '['), .gap opening] ++
        (indices.flatMap Slot.parts ++ [.gap closing, .token (sign ']')])
  | .dict opening elements closing =>
      [.token (sign '\x7b'), .gap opening] ++
        (elements.flatMap Element.parts ++ [.gap closing, .token (sign '\x7d')])
  | .other _ parts => parts
  | .paren opening inner closing =>
      [.token (sign '('), .gap opening, .expr inner, .gap closing, .token (sign ')')]

theorem Slot.printAll_flatMap_parts (newline : Text) (slots : List Argument) :
    Part.printAll newline (slots.flatMap Slot.parts) = Slot.printAll newline slots := by
  induction slots with
  | nil => rfl
  | cons slot rest ih =>
      rw [List.flatMap_cons, Part.printAll_append, slot.printAll_parts, ih, Slot.printAll_cons]

theorem Element.printAll_flatMap_parts (newline : Text) (elements : List Entry) :
    Part.printAll newline (elements.flatMap Element.parts) =
      Element.printAll newline elements := by
  induction elements with
  | nil => rfl
  | cons element rest ih =>
      rw [List.flatMap_cons, Part.printAll_append, element.printAll_parts, ih,
        Element.printAll_cons]

theorem Expr.printAll_parts (newline : Text) (e : Expr) :
    Part.printAll newline e.parts = e.print newline := by
  cases e <;>
    simp [Expr.parts, Expr.print, Part.printAll, Part.printAll_append,
      Slot.printAll_flatMap_parts, Element.printAll_flatMap_parts]

theorem Comma.expr_notMem_parts (comma : Option Comma) (e : Expr) :
    .expr e ∉ Comma.parts comma := by
  cases comma <;> simp [Comma.parts]

theorem Slot.sizeOf_lt_of_mem_parts (slot : Argument) (e : Expr) (member : .expr e ∈ slot.parts) :
    sizeOf e < sizeOf slot := by
  obtain ⟨mark, value, comma⟩ := slot
  have cases : e = value ∨
      ∃ name before after, mark = .keyword name before after ∧ e = .name name := by
    cases mark <;> simpa [Slot.parts, Comma.expr_notMem_parts, or_comm] using member
  rcases cases with rfl | ⟨name, before, after, rfl, rfl⟩
  · simp only [Slot.mk.sizeOf_spec]
    omega
  · simp only [Slot.mk.sizeOf_spec, Mark.keyword.sizeOf_spec, Expr.name.sizeOf_spec]
    omega

theorem Element.sizeOf_lt_of_mem_parts (element : Entry) (e : Expr)
    (member : .expr e ∈ element.parts) : sizeOf e < sizeOf element := by
  cases element with
  | pair key before after value comma =>
      simp only [Element.parts, List.mem_append, List.mem_cons, Part.expr.injEq, reduceCtorEq,
        List.not_mem_nil, Comma.expr_notMem_parts, or_false, false_or] at member
      simp only [Element.pair.sizeOf_spec]
      rcases member with rfl | rfl <;> omega
  | spread gap value comma =>
      simp only [Element.parts, List.mem_append, List.mem_cons, Part.expr.injEq, reduceCtorEq,
        List.not_mem_nil, Comma.expr_notMem_parts, or_false, false_or] at member
      simp only [Element.spread.sizeOf_spec, member]
      omega

/-- A row of items is larger than what its items are made of. -/
theorem Part.sizeOf_lt_of_mem_flatMap {ι : Type} [SizeOf ι] (parts : ι → List (Part Expr))
    (smaller : ∀ item e, .expr e ∈ parts item → sizeOf e < sizeOf item) (row : List ι) (e : Expr)
    (member : .expr e ∈ row.flatMap parts) : sizeOf e < sizeOf row := by
  obtain ⟨item, inRow, inItem⟩ := List.mem_flatMap.mp member
  have inside := smaller item e inItem
  have below := List.sizeOf_lt_of_mem inRow
  omega

theorem Part.sizeOf_lt_of_mem (row : List (Part Expr)) (e : Expr) (member : .expr e ∈ row) :
    sizeOf e < sizeOf row := by
  have below := List.sizeOf_lt_of_mem member
  rw [Part.expr.sizeOf_spec] at below
  omega

theorem Expr.sizeOf_lt_of_mem_parts (e part : Expr) (member : .expr part ∈ e.parts) :
    sizeOf part < sizeOf e := by
  have slots := Part.sizeOf_lt_of_mem_flatMap Slot.parts Slot.sizeOf_lt_of_mem_parts
  have elements := Part.sizeOf_lt_of_mem_flatMap Element.parts Element.sizeOf_lt_of_mem_parts
  cases e with
  | name text | string text => simp [Expr.parts] at member
  | formatted parts | other form parts =>
      have below := Part.sizeOf_lt_of_mem parts part member
      simp only [Expr.formatted.sizeOf_spec, Expr.other.sizeOf_spec]
      omega
  | concat left gap right =>
      simp only [Expr.parts, List.mem_cons, Part.expr.injEq, reduceCtorEq, List.not_mem_nil,
        or_false, false_or] at member
      simp only [Expr.concat.sizeOf_spec]
      rcases member with rfl | rfl <;> omega
  | call function gap opening arguments closing
  | subscript function gap opening arguments closing =>
      simp only [Expr.parts, List.mem_append, List.mem_cons, Part.expr.injEq, reduceCtorEq,
        List.not_mem_nil, or_false] at member
      simp only [Expr.call.sizeOf_spec, Expr.subscript.sizeOf_spec]
      rcases member with rfl | inside
      · omega
      · have below := slots arguments part inside
        omega
  | dict opening row closing =>
      simp only [Expr.parts, List.mem_append, List.mem_cons, reduceCtorEq, List.not_mem_nil,
        or_false, false_or] at member
      have below := elements row part member
      simp only [Expr.dict.sizeOf_spec]
      omega
  | paren opening inner closing =>
      simp only [Expr.parts, List.mem_cons, Part.expr.injEq, reduceCtorEq, List.not_mem_nil,
        or_false, false_or] at member
      simp only [Expr.paren.sizeOf_spec, member]
      omega

/-! ## Places -/

structure Place where
  before : Text
  node : Expr

def Occurrence.place (o : Occurrence) : Place := ⟨o.before, o.call⟩

/-- The places of the expressions of a row that starts after `before`. -/
def Part.places (newline : Text) : Text → List (Part Expr) → List Place
  | _, [] => []
  | before, .gap trivia :: rest => Part.places newline (before ++ Gap.print newline trivia) rest
  | before, .token text :: rest => Part.places newline (before ++ text) rest
  | before, .expr value :: rest =>
      ⟨before, value⟩ :: Part.places newline (before ++ value.print newline) rest

section Places
variable (newline : Text)

namespace Place

def start (p : Place) : Nat := p.before.length

def stop (p : Place) : Nat := p.start + (p.node.print newline).length

/-- The place of the expression without its own parentheses. -/
def core (p : Place) : Place := ⟨p.before ++ p.node.opened newline, p.node.stripped⟩

/-- The places right inside a place. -/
def inner (p : Place) : List Place := Part.places newline p.before p.node.parts

/-- The call that the place is of, if it is of one. -/
def call? : Place → Option Occurrence
  | ⟨before, .call function gap opening arguments closing⟩ =>
      some ⟨before, function, gap, opening, arguments, closing⟩
  | _ => none

/-- The calls of a place in pre-order. -/
def occurrences (p : Place) : List Occurrence :=
  (p.node.tour newline p.before).filterMap Moment.entered?

/-- The place stands in the text `whole`, which comes after `before`. -/
def In (before whole : Text) (p : Place) : Prop :=
  ∃ skipped after, p.before = before ++ skipped ∧ whole = skipped ++ (p.node.print newline ++ after)

def Within (p q : Place) : Prop := p.In newline q.before (q.node.print newline)

variable {newline}

theorem Within.refl (p : Place) : p.Within newline p := ⟨[], [], by simp, by simp⟩

theorem Within.inside {p q : Place} {before whole : Text} (within : p.Within newline q)
    (inside : q.In newline before whole) : p.In newline before whole := by
  obtain ⟨skipped, after, starts, printed⟩ := within
  obtain ⟨skipped', after', starts', printed'⟩ := inside
  refine ⟨skipped' ++ skipped, after ++ after', ?_, ?_⟩
  · rw [starts, starts', List.append_assoc]
  · rw [printed', printed]
    simp only [List.append_assoc]

theorem Within.trans {p q r : Place} (within : p.Within newline q) (within' : q.Within newline r) :
    p.Within newline r :=
  within.inside within'

/-- A text in front of `whole` shifts what stands in it. -/
theorem In.shift {p : Place} {before whole : Text} (t : Text)
    (inside : p.In newline (before ++ t) whole) : p.In newline before (t ++ whole) := by
  obtain ⟨skipped, after, starts, rfl⟩ := inside
  exact ⟨t ++ skipped, after, by simp [starts], by simp⟩

theorem In.bounds {p : Place} {before whole : Text} (inside : p.In newline before whole) :
    before.length ≤ p.start ∧ p.stop newline ≤ before.length + whole.length := by
  obtain ⟨skipped, after, starts, rfl⟩ := inside
  simp only [stop, start, starts, List.length_append]
  omega

theorem Within.bounds {p q : Place} (within : p.Within newline q) :
    q.start ≤ p.start ∧ p.stop newline ≤ q.stop newline :=
  In.bounds within

variable (newline)

theorem start_le_stop (p : Place) : p.start ≤ p.stop newline := Nat.le_add_right _ _

/-- Parentheses stand around what they enclose. -/
theorem core_within (p : Place) : (p.core newline).Within newline p := by
  obtain ⟨before, e⟩ := p
  have closed : ∃ after, e.print newline =
      e.opened newline ++ (e.stripped.print newline ++ after) := by
    fun_induction Expr.stripped e with
    | case1 opening inner closing ih =>
        obtain ⟨after, printed⟩ := ih
        refine ⟨after ++ (Gap.print newline closing ++ sign ')'), ?_⟩
        simp [Expr.print, Expr.opened, printed]
    | case2 e notParen =>
        refine ⟨[], ?_⟩
        cases e with
        | paren opening inner closing => exact absurd rfl (notParen opening inner closing)
        | _ => simp [Expr.opened]
  obtain ⟨after, printed⟩ := closed
  exact ⟨e.opened newline, after, rfl, printed⟩

end Place

/-! ## Rows of places -/

namespace Part

theorem places_append (before : Text) (parts more : List (Part Expr)) :
    places newline before (parts ++ more) =
      places newline before parts ++
        places newline (before ++ printAll newline parts) more := by
  induction parts generalizing before with
  | nil => simp [places, printAll]
  | cons part rest ih => cases part <;> simp [places, printAll, ih]

theorem places_in (before : Text) (parts : List (Part Expr)) :
    ∀ p ∈ places newline before parts, p.In newline before (printAll newline parts) := by
  induction parts generalizing before with
  | nil => intro p member; cases member
  | cons part rest ih =>
      intro p member
      cases part with
      | gap trivia => exact (ih _ p member).shift _
      | token text => exact (ih _ p member).shift _
      | expr value =>
          rcases List.mem_cons.mp member with rfl | inRest
          · exact ⟨[], printAll newline rest, by simp, by simp [printAll]⟩
          · exact (ih _ p inRest).shift _

theorem expr_mem_of_place (before : Text) (parts : List (Part Expr)) :
    ∀ p ∈ places newline before parts, .expr p.node ∈ parts := by
  induction parts generalizing before with
  | nil => intro p member; cases member
  | cons part rest ih =>
      intro p member
      cases part with
      | gap trivia => exact List.mem_cons_of_mem _ (ih _ p member)
      | token text => exact List.mem_cons_of_mem _ (ih _ p member)
      | expr value =>
          rcases List.mem_cons.mp member with rfl | inRest
          · exact List.mem_cons_self
          · exact List.mem_cons_of_mem _ (ih _ p inRest)

theorem places_pairwise (before : Text) (parts : List (Part Expr)) :
    (places newline before parts).Pairwise fun p q => p.stop newline ≤ q.start := by
  induction parts generalizing before with
  | nil => exact List.Pairwise.nil
  | cons part rest ih =>
      cases part with
      | gap trivia => exact ih _
      | token text => exact ih _
      | expr value =>
          refine List.Pairwise.cons ?_ (ih _)
          intro q inRest
          have after := (places_in newline _ rest q inRest).bounds.1
          rw [List.length_append] at after
          exact after

theorem entered_tourAll (before : Text) (parts : List (Part Expr)) :
    (tourAll newline before parts).filterMap Moment.entered? =
      (places newline before parts).flatMap (Place.occurrences newline) := by
  induction parts generalizing before with
  | nil => rfl
  | cons part rest ih =>
      cases part with
      | gap trivia => exact ih _
      | token text => exact ih _
      | expr value =>
          simp only [tourAll, places, List.filterMap_append, List.flatMap_cons, ih]
          rfl

end Part

/-! ## The calls of a place -/

theorem Part.tourAll_append (before : Text) (parts more : List (Part Expr)) :
    Part.tourAll newline before (parts ++ more) =
      Part.tourAll newline before parts ++
        Part.tourAll newline (before ++ Part.printAll newline parts) more := by
  induction parts generalizing before with
  | nil => simp [Part.tourAll, Part.printAll]
  | cons part rest ih => cases part <;> simp [Part.tourAll, Part.printAll, ih]

theorem Comma.tourAll_parts (before : Text) (comma : Option Comma) :
    Part.tourAll newline before (Comma.parts comma) = [] := by
  cases comma <;> rfl

theorem Slot.tourAll_flatMap_parts (before : Text) (slots : List Argument) :
    Part.tourAll newline before (slots.flatMap Slot.parts) = Slot.tourAll newline before slots := by
  induction slots generalizing before with
  | nil => rfl
  | cons slot rest ih =>
      obtain ⟨mark, value, comma⟩ := slot
      rw [List.flatMap_cons, Part.tourAll_append, Slot.printAll_parts, ih]
      cases mark <;>
        simp [Slot.parts, Slot.tourAll, Slot.print, Slot.printAll, Part.tourAll,
          Comma.tourAll_parts, Mark.print, Expr.tour, Expr.print]

theorem Element.tourAll_flatMap_parts (before : Text) (elements : List Entry) :
    Part.tourAll newline before (elements.flatMap Element.parts) =
      Element.tourAll newline before elements := by
  induction elements generalizing before with
  | nil => rfl
  | cons element rest ih =>
      rw [List.flatMap_cons, Part.tourAll_append, Element.printAll_parts, ih]
      cases element <;>
        simp [Element.parts, Element.tourAll, Element.print, Element.printAll,
          Part.tourAll, Comma.tourAll_parts]

namespace Place

/-- The calls of a place are the call that it is of and the calls right inside. -/
theorem occurrences_eq (p : Place) :
    p.occurrences newline =
      p.call?.toList ++ (p.inner newline).flatMap (occurrences newline) := by
  obtain ⟨before, e⟩ := p
  rw [inner, ← Part.entered_tourAll]
  cases e with
  | call function gap opening arguments closing =>
      simp [occurrences, call?, Expr.tour, Expr.parts, Part.tourAll, Part.tourAll_append,
        Slot.tourAll_flatMap_parts, Occurrence.inside, Moment.entered?]
  | _ =>
      simp [occurrences, call?, Expr.tour, Expr.parts, Part.tourAll, Part.tourAll_append,
        Slot.tourAll_flatMap_parts, Element.tourAll_flatMap_parts]

theorem occurrences_core (p : Place) :
    (p.core newline).occurrences newline = p.occurrences newline := by
  obtain ⟨before, e⟩ := p
  simp only [occurrences, core]
  fun_induction Expr.stripped e generalizing before with
  | case1 opening inner closing ih =>
      have inside := ih (before ++ (sign '(' ++ Gap.print newline opening))
      simpa [Expr.tour, Expr.opened] using inside
  | case2 e notParen =>
      cases e with
      | paren opening inner closing => exact absurd rfl (notParen opening inner closing)
      | _ => simp [Expr.opened]

/-- What holds of a place if it holds of the places right inside, holds of all
places. -/
theorem induction {Q : Place → Prop}
    (step : ∀ p : Place, (∀ q ∈ p.inner newline, Q q) → Q p) (p : Place) : Q p := by
  induction size : sizeOf p.node using Nat.strongRecOn generalizing p with
  | ind n ih =>
      apply step
      intro q member
      have part := Part.expr_mem_of_place newline _ _ q member
      exact ih _ (size ▸ p.node.sizeOf_lt_of_mem_parts q.node part) q rfl

theorem inner_within (p : Place) : ∀ q ∈ p.inner newline, q.Within newline p := by
  intro q member
  have inside := Part.places_in newline _ _ q member
  rw [Expr.printAll_parts] at inside
  exact inside

theorem mem_occurrences (p : Place) (o : Occurrence) :
    o ∈ p.occurrences newline ↔
      p.call? = some o ∨ ∃ q ∈ p.inner newline, o ∈ q.occurrences newline := by
  rw [occurrences_eq]
  simp [eq_comm]

theorem place_of_call? (p : Place) (o : Occurrence) (own : p.call? = some o) : o.place = p := by
  obtain ⟨before, e⟩ := p
  cases e with
  | call function gap opening arguments closing =>
      cases own
      rfl
  | _ => cases own

/-- The calls of a place lie within it. -/
theorem occurrence_within (p : Place) :
    ∀ o ∈ p.occurrences newline, o.place.Within newline p := by
  induction p using Place.induction newline with
  | step p ih =>
      intro o member
      rcases (p.mem_occurrences newline o).mp member with own | ⟨q, isInner, inside⟩
      · rw [p.place_of_call? o own]
        exact Within.refl p
      · exact (ih q isInner o inside).trans (p.inner_within newline q isInner)

/-- And even within its own parentheses. -/
theorem occurrence_within_core (p : Place) :
    ∀ o ∈ p.occurrences newline, o.place.Within newline (p.core newline) := by
  intro o member
  rw [← p.occurrences_core] at member
  exact occurrence_within newline _ o member

end Place

/-! ## Places and calls in a row -/

section Row
variable {newline : Text} {row : List Place}

theorem Place.eq_or_apart (ordered : row.Pairwise fun p q => p.stop newline ≤ q.start) (p q : Place)
    (inRow : p ∈ row) (inRow' : q ∈ row) :
    p = q ∨ p.stop newline ≤ q.start ∨ q.stop newline ≤ p.start := by
  apply List.Pairwise.forall_of_forall_of_flip
    (R := fun p q => p = q ∨ p.stop newline ≤ q.start ∨ q.stop newline ≤ p.start) _ _ _ inRow inRow'
  · intro p _
    exact .inl rfl
  · exact ordered.imp fun before => .inr (.inl before)
  · exact ordered.imp fun before => .inr (.inr before)

/-- No call of a row reaches across the start of an expression in the row, or
across its start without parentheses. -/
theorem Place.core_apart (ordered : row.Pairwise fun p q => p.stop newline ≤ q.start) (p : Place)
    (inRow : p ∈ row) (o : Occurrence) (member : o ∈ row.flatMap (Place.occurrences newline)) :
    (p.core newline).start ≤ o.place.start ∨ o.place.stop newline ≤ (p.core newline).start := by
  obtain ⟨q, inRow', inside⟩ := List.mem_flatMap.mp member
  have core := (p.core_within newline).bounds
  have length := (p.core newline).start_le_stop newline
  rcases Place.eq_or_apart ordered p q inRow inRow' with rfl | before | after
  · exact .inl (p.occurrence_within_core newline o inside).bounds.1
  · have bounds := (q.occurrence_within newline o inside).bounds
    exact .inl (by omega)
  · have bounds := (q.occurrence_within newline o inside).bounds
    exact .inr (by omega)

end Row

/-! ## Calls in pre-order -/

namespace Occurrence

/-- The calls inside a call. -/
def nested (o : Occurrence) : List Occurrence :=
  (o.place.inner newline).flatMap (Place.occurrences newline)

/-- The second call is inside the first, or after it. -/
def Precedes (o o' : Occurrence) : Prop :=
  o' ∈ o.nested newline ∨ o.place.stop newline ≤ o'.place.start

theorem pairwise_row (row : List Place)
    (ordered : row.Pairwise fun p q => p.stop newline ≤ q.start)
    (inOrder : ∀ p ∈ row, (p.occurrences newline).Pairwise (Precedes newline)) :
    (row.flatMap (Place.occurrences newline)).Pairwise (Precedes newline) := by
  rw [List.pairwise_flatMap]
  refine ⟨inOrder, ordered.imp ?_⟩
  intro p q apart o inFirst o' inSecond
  have before := (p.occurrence_within newline o inFirst).bounds.2
  have after := (q.occurrence_within newline o' inSecond).bounds.1
  exact .inr (by omega)

theorem pairwise_occurrences (p : Place) :
    (p.occurrences newline).Pairwise (Precedes newline) := by
  induction p using Place.induction newline with
  | step p ih =>
      have inside := pairwise_row newline _ (Part.places_pairwise newline p.before p.node.parts) ih
      rw [Place.occurrences_eq]
      cases own : p.call? with
      | none => exact inside
      | some o =>
          refine List.Pairwise.cons ?_ inside
          intro o' member
          rw [← p.place_of_call? o own] at member
          exact .inl member

end Occurrence

end Places

theorem Module.occurrences_eq (m : Module) :
    m.occurrences =
      (Part.places m.newline [] m.parts).flatMap (Place.occurrences m.newline) :=
  Part.entered_tourAll m.newline [] m.parts

theorem Module.occurrence_in (m : Module) :
    ∀ o ∈ m.occurrences, o.place.In m.newline [] m.code := by
  intro o member
  rw [m.occurrences_eq] at member
  obtain ⟨p, isPart, inside⟩ := List.mem_flatMap.mp member
  have within := p.occurrence_within m.newline o inside
  exact within.inside (Part.places_in m.newline [] m.parts p isPart)

theorem Module.pairwise_occurrences (m : Module) :
    m.occurrences.Pairwise (Occurrence.Precedes m.newline) := by
  rw [m.occurrences_eq]
  apply Occurrence.pairwise_row
  · exact Part.places_pairwise m.newline [] m.parts
  · intro p _
    exact Occurrence.pairwise_occurrences m.newline p

end ClassMaps
