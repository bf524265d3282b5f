import ClassMaps.Proofs.Declaration
import ClassMaps.Grammar.Lossless

/-!
# Calls where they stand

An occurrence is a call together with the text before it.  The tour of a tree
enters each call, goes through what is inside and leaves it again; the
occurrences that are entered, in order, are the calls of the tree in pre-order.

The positions of the walk are the positions after the texts of the tour:
wherever the walk is at, it is past what stands before.
-/

set_option autoImplicit false

namespace ClassMaps

/-! ## Texts before pieces of a tree -/

/-- What stands before the expression inside its own parentheses. -/
def Expr.opened (newline : Text) : Expr → Text
  | .paren opening inner _ => sign '(' ++ Gap.print newline opening ++ inner.opened newline
  | _ => []

def Element.lead (newline : Text) : Element Expr → Text
  | .pair key before after _ _ =>
      key.print newline ++ Gap.print newline before ++ sign ':' ++ Gap.print newline after
  | .spread gap _ _ => sign '*' ++ sign '*' ++ Gap.print newline gap

/-- The elements of a row after `before`, each with the text before its value. -/
def Element.located (newline : Text) : Text → List Entry → List (Text × Entry)
  | _, [] => []
  | before, element :: rest =>
      (before ++ element.lead newline, element) ::
        Element.located newline (before ++ element.print newline) rest

theorem Element.map_snd_located (newline before : Text) (elements : List Entry) :
    (Element.located newline before elements).map (·.2) = elements := by
  induction elements generalizing before with
  | nil => rfl
  | cons element rest ih => simp only [Element.located, List.map_cons, ih]

structure Occurrence where
  before : Text
  function : Expr
  gap : Gap
  opening : Gap
  arguments : List Argument
  closing : Gap

namespace Occurrence

def call (o : Occurrence) : Expr := .call o.function o.gap o.opening o.arguments o.closing

def inside (newline : Text) (o : Occurrence) : Text :=
  o.before ++ (o.function.print newline ++ Gap.print newline o.gap ++ sign '(' ++
    Gap.print newline o.opening)

def beforeArgument (newline : Text) (o : Occurrence) (i : Nat) : Text :=
  o.inside newline ++ Slot.printAll newline (o.arguments.take i) ++
    match o.arguments[i]? with
    | none => []
    | some slot => slot.mark.print newline ++ slot.value.opened newline

def classMap? (tagger : Text) (o : Occurrence) : Option (Text × List Entry) :=
  Call.classMap? tagger o.function o.arguments

/-- The elements of the dict display in the third argument, each with the text
before its value. -/
def entries (newline : Text) (o : Occurrence) : List (Text × Entry) :=
  match o.arguments[2]? with
  | none => []
  | some third =>
      match third.value.stripped with
      | .dict opening elements _ =>
          Element.located newline
            (o.beforeArgument newline 2 ++ (sign '\x7b' ++ Gap.print newline opening)) elements
      | _ => []

end Occurrence

/-! ## The tour of a tree -/

inductive Moment
  | enter (call : Occurrence)
  | leave (call : Occurrence)

namespace Moment

def entered? : Moment → Option Occurrence
  | .enter call => some call
  | .leave _ => none

def left? : Moment → Option Occurrence
  | .enter _ => none
  | .leave call => some call

end Moment

mutual

/-- The calls of an expression after the text `before`, entered and left. -/
def Expr.tour (newline : Text) : Text → Expr → List Moment
  | _, .name _ => []
  | _, .string _ => []
  | before, .formatted parts => Part.tourAll newline before parts
  | before, .concat left gap right =>
      left.tour newline before ++
        right.tour newline (before ++ (left.print newline ++ Gap.print newline gap))
  | before, .call function gap opening arguments closing =>
      let call : Occurrence := ⟨before, function, gap, opening, arguments, closing⟩
      .enter call :: (function.tour newline before ++
        Slot.tourAll newline (call.inside newline) arguments) ++ [.leave call]
  | before, .subscript value gap opening indices _ =>
      value.tour newline before ++
        Slot.tourAll newline (before ++ (value.print newline ++ Gap.print newline gap ++
          sign '[' ++ Gap.print newline opening)) indices
  | before, .dict opening elements _ =>
      Element.tourAll newline (before ++ (sign '\x7b' ++ Gap.print newline opening)) elements
  | before, .other _ parts => Part.tourAll newline before parts
  | before, .paren opening inner _ =>
      inner.tour newline (before ++ (sign '(' ++ Gap.print newline opening))

def Slot.tourAll (newline : Text) : Text → List (Slot Expr) → List Moment
  | _, [] => []
  | before, ⟨mark, value, comma⟩ :: rest =>
      value.tour newline (before ++ mark.print newline) ++
        Slot.tourAll newline (before ++ (mark.print newline ++ value.print newline ++
          Comma.print newline comma)) rest

def Element.tourAll (newline : Text) : Text → List (Element Expr) → List Moment
  | _, [] => []
  | before, .pair key gap after value comma :: rest =>
      let lead := key.print newline ++ Gap.print newline gap ++ sign ':' ++
        Gap.print newline after
      key.tour newline before ++ value.tour newline (before ++ lead) ++
        Element.tourAll newline (before ++ (lead ++ value.print newline ++
          Comma.print newline comma)) rest
  | before, .spread gap value comma :: rest =>
      let lead := sign '*' ++ sign '*' ++ Gap.print newline gap
      value.tour newline (before ++ lead) ++
        Element.tourAll newline (before ++ (lead ++ value.print newline ++
          Comma.print newline comma)) rest

def Part.tourAll (newline : Text) : Text → List (Part Expr) → List Moment
  | _, [] => []
  | before, .gap trivia :: rest =>
      Part.tourAll newline (before ++ Gap.print newline trivia) rest
  | before, .token text :: rest => Part.tourAll newline (before ++ text) rest
  | before, .expr value :: rest =>
      value.tour newline before ++ Part.tourAll newline (before ++ value.print newline) rest

end

namespace Module

def calls (m : Module) : List Expr := Part.callsAll m.parts

def tour (m : Module) : List Moment := Part.tourAll m.newline [] m.parts

/-- The calls of a module where they stand, in pre-order. -/
def occurrences (m : Module) : List Occurrence := m.tour.filterMap Moment.entered?

end Module

theorem map_call_entered (newline : Text) :
    (∀ (e : Expr) (before : Text),
      ((e.tour newline before).filterMap Moment.entered?).map Occurrence.call = e.calls) ∧
    (∀ (slots : List Argument) (before : Text),
      ((Slot.tourAll newline before slots).filterMap Moment.entered?).map Occurrence.call =
        Slot.callsAll slots) ∧
    (∀ (elements : List Entry) (before : Text),
      ((Element.tourAll newline before elements).filterMap Moment.entered?).map Occurrence.call =
        Element.callsAll elements) ∧
    (∀ (parts : List (Part Expr)) (before : Text),
      ((Part.tourAll newline before parts).filterMap Moment.entered?).map Occurrence.call =
        Part.callsAll parts) := by
  apply Expr.tree_induction
  case call =>
    intro function gap opening arguments closing functionCalls argumentsCalls before
    simp [Expr.tour, Expr.calls, Moment.entered?, Occurrence.call, functionCalls, argumentsCalls]
  all_goals
    intros
    simp_all [Expr.tour, Slot.tourAll, Element.tourAll, Part.tourAll, Expr.calls, Slot.callsAll,
      Element.callsAll, Part.callsAll]

theorem Module.map_call_occurrences (m : Module) :
    m.occurrences.map Occurrence.call = m.calls :=
  (map_call_entered m.newline).2.2.2 m.parts []

/-- The same calls are entered and left, in different orders. -/
theorem left_perm_entered (newline : Text) :
    (∀ (e : Expr) (before : Text), ((e.tour newline before).filterMap Moment.left?).Perm
      ((e.tour newline before).filterMap Moment.entered?)) ∧
    (∀ (slots : List Argument) (before : Text),
      ((Slot.tourAll newline before slots).filterMap Moment.left?).Perm
        ((Slot.tourAll newline before slots).filterMap Moment.entered?)) ∧
    (∀ (elements : List Entry) (before : Text),
      ((Element.tourAll newline before elements).filterMap Moment.left?).Perm
        ((Element.tourAll newline before elements).filterMap Moment.entered?)) ∧
    (∀ (parts : List (Part Expr)) (before : Text),
      ((Part.tourAll newline before parts).filterMap Moment.left?).Perm
        ((Part.tourAll newline before parts).filterMap Moment.entered?)) := by
  apply Expr.tree_induction
  case call =>
    intro function gap opening arguments closing functionSame argumentsSame before
    have same := (functionSame before).append (argumentsSame
      (Occurrence.inside newline ⟨before, function, gap, opening, arguments, closing⟩))
    simp only [Expr.tour, List.cons_append, List.filterMap_cons, List.filterMap_append,
      List.filterMap_nil, Moment.left?, Moment.entered?, List.append_nil]
    exact (List.perm_append_singleton _ _).trans (same.cons _)
  all_goals
    intros
    simp_all [Expr.tour, Slot.tourAll, Element.tourAll, Part.tourAll, List.Perm.append]

end ClassMaps
