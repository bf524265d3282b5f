import ClassMaps.Proofs.Beginning
import ClassMaps.Proofs.Escape
import ClassMaps.Proofs.Outcome
import ClassMaps.Module.Lossless

/-!
# Diagnostics point into the source

The line and the column of a diagnostic lead to the text of what it is about: the
call, if that has the wrong arguments, the argument that is of the wrong kind, or
the value of an element of a class map, each without its own parentheses.
`Occurrence.offences` lists these nodes with their places in the tree, and
`Text.readFrom?` reads a text from a position on.

A carriage return that stands alone ends a line for positions.  Where there is none
before a node, the position leads to it also for a reader who takes only line feeds,
and carriage returns with a line feed, for line ends.

Since the places are those of the input, nothing that is replaced in a run moves
them.
-/

set_option autoImplicit false

namespace ClassMaps

/-! ## Reading from a position -/

namespace Text

/-- The length of the line end at the start of the text, or zero.  A carriage return
without a line feed counts if `lone` is set. -/
def lineEnd (lone : Bool) : Text → Nat
  | [] => 0
  | c :: rest =>
      if c.is '\n' then 1
      else if c.is '\r' then
        if rest.head?.any (·.is '\n') then 2 else if lone then 1 else 0
      else 0

/-- The text after its first line. -/
def nextLine? (lone : Bool) : Text → Option Text
  | [] => none
  | c :: rest =>
      match lineEnd lone (c :: rest) with
      | 0 => nextLine? lone rest
      | n + 1 => some (rest.drop n)

/-- The text from a column of its first line on. -/
def fromColumn? (lone : Bool) : Nat → Text → Option Text
  | 0, t => some t
  | _ + 1, [] => none
  | column + 1, c :: rest =>
      if lineEnd lone (c :: rest) = 0 then fromColumn? lone column rest else none

/-- The text from a column of a line on, both counted from zero. -/
def readAt? (lone : Bool) (column : Nat) : Nat → Text → Option Text
  | 0, t => fromColumn? lone column t
  | line + 1, t => (nextLine? lone t).bind (readAt? lone column line)

/-- The text from a position on, if it has that position. -/
def readFrom? (t : Text) (lone : Bool) (p : Position) : Option Text :=
  if 1 ≤ p.line ∧ 0 ≤ p.column then readAt? lone p.column.toNat (p.line - 1).toNat t else none

/-- Whether the text has a carriage return without a line feed. -/
def hasLoneReturn : Text → Bool
  | [] => false
  | c :: rest => (c.is '\r' && !rest.head?.any (·.is '\n')) || hasLoneReturn rest

theorem lineEnd_of_firm (lone : Bool) (c : CodePoint) (rest : Text) (firm : c.isBreak = false) :
    lineEnd lone (c :: rest) = 0 := by
  simp [lineEnd, (CodePoint.isBreak_eq_false_iff c).mp firm]

section Lines
variable (lone : Bool) (t : Text) (firm : ∀ c ∈ t, c.isBreak = false)
include firm

theorem fromColumn?_length (rest : Text) :
    fromColumn? lone t.length (t ++ rest) = some rest := by
  induction t with
  | nil => rfl
  | cons c t ih =>
      have noEnd := lineEnd_of_firm lone c (t ++ rest) (firm c (by simp))
      simp only [List.length_cons, List.cons_append, fromColumn?, noEnd, if_true]
      exact ih fun d member => firm d (by simp [member])

theorem nextLine?_append (c : CodePoint) (rest : Text) (n : Nat)
    (ends : lineEnd lone (c :: rest) = n + 1) :
    nextLine? lone (t ++ c :: rest) = some (rest.drop n) := by
  induction t with
  | nil => simp only [List.nil_append, nextLine?, ends]
  | cons d t ih =>
      have noEnd := lineEnd_of_firm lone d (t ++ c :: rest) (firm d (by simp))
      simp only [List.cons_append, nextLine?, noEnd]
      exact ih fun e member => firm e (by simp [member])

end Lines

section Reading
variable (lone : Bool) (rest : Text)

/-- A cursor that has come past `t` in its line, and then past `before`, is where
`rest` is read in `t ++ before ++ rest`. -/
def Reaches (t before : Text) : Prop :=
  ∃ line column : Nat,
    (∀ (n : Int) (afterReturn : Bool),
      (afterReturn = true → before.head?.any (·.is '\n') = false) →
      (Cursor.past ⟨⟨n, t.length⟩, afterReturn⟩ before).position = ⟨n + line, column⟩) ∧
    readAt? lone column line (t ++ (before ++ rest)) = some rest

variable {lone rest} {t before : Text}

theorem reaches_nil (firm : ∀ c ∈ t, c.isBreak = false) : Reaches lone rest t [] :=
  ⟨0, t.length, fun n afterReturn _ => by simp [Cursor.past],
    fromColumn?_length lone t firm rest⟩

theorem reaches_firm (c : CodePoint) (firm : c.isBreak = false)
    (later : Reaches lone rest (t ++ [c]) before) : Reaches lone rest t (c :: before) := by
  obtain ⟨line, column, arrives, reads⟩ := later
  refine ⟨line, column, fun n afterReturn _ => ?_, by simpa using reads⟩
  have next := arrives n false nofun
  simpa [Cursor.past, Cursor.step, (CodePoint.isBreak_eq_false_iff c).mp firm] using next

/-- A line end `c :: ending` at which the cursor comes to the next line. -/
theorem reaches_line (c : CodePoint) (ending : Text) (afterwards : Bool)
    (firm : ∀ c ∈ t, c.isBreak = false)
    (ends : lineEnd lone (c :: (ending ++ (before ++ rest))) = ending.length + 1)
    (comes : ∀ (n : Int) (column : Nat) (afterReturn : Bool),
      (afterReturn = true → c.is '\n' = false) →
      Cursor.past ⟨⟨n, column⟩, afterReturn⟩ (c :: ending) = ⟨⟨n + 1, 0⟩, afterwards⟩)
    (unsplit : afterwards = true → before.head?.any (·.is '\n') = false)
    (later : Reaches lone rest [] before) : Reaches lone rest t (c :: (ending ++ before)) := by
  obtain ⟨line, column, arrives, reads⟩ := later
  refine ⟨line + 1, column, fun n afterReturn separate => ?_, ?_⟩
  · have shift : n + 1 + (line : Int) = n + (line + 1 : Nat) := by omega
    have next := comes n t.length afterReturn (by simpa using separate)
    rw [← List.cons_append, Cursor.past_append, next, ← shift]
    exact arrives (n + 1) afterwards unsplit
  · have line' := nextLine?_append lone t firm c (ending ++ (before ++ rest)) ending.length ends
    simp only [List.cons_append, List.append_assoc, readAt?, line', Option.bind_some,
      List.drop_left]
    exact reads

theorem not_return_of_feed {c : CodePoint} (feed : c.is '\n' = true) : c.is '\r' = false := by
  rw [c.eq_of_is '\n' feed]
  rfl

theorem not_feed_of_return {c : CodePoint} (ret : c.is '\r' = true) : c.is '\n' = false := by
  rw [c.eq_of_is '\r' ret]
  rfl

theorem reaches_feed (c : CodePoint) (feed : c.is '\n' = true)
    (firm : ∀ c ∈ t, c.isBreak = false) (later : Reaches lone rest [] before) :
    Reaches lone rest t (c :: before) := by
  refine reaches_line c [] false firm (by simp [lineEnd, feed]) ?_ nofun later
  intro n column afterReturn separate
  cases afterReturn with
  | true => simp [feed] at separate
  | false => simp [Cursor.past, Cursor.step, not_return_of_feed feed, feed, Cursor.nextLine]

theorem reaches_return_feed (c d : CodePoint) (ret : c.is '\r' = true) (feed : d.is '\n' = true)
    (firm : ∀ c ∈ t, c.isBreak = false) (later : Reaches lone rest [] before) :
    Reaches lone rest t (c :: d :: before) := by
  refine reaches_line c [d] false firm ?_ ?_ nofun later
  · simp [lineEnd, not_feed_of_return ret, ret, feed]
  · intro n column afterReturn _
    simp [Cursor.past, Cursor.step, ret, not_return_of_feed feed, feed, Cursor.nextLine]

theorem head?_feed_append (begins : rest.begins = true) (before : Text)
    (alone : before.head?.any (·.is '\n') = false) :
    (before ++ rest).head?.any (·.is '\n') = false := by
  cases before with
  | cons c before => exact alone
  | nil =>
      cases rest with
      | nil => rfl
      | cons c rest =>
          have firm : c.isBreak = false := by simpa [Text.begins] using begins
          exact ((CodePoint.isBreak_eq_false_iff c).mp firm).1

theorem reaches_return (begins : rest.begins = true) (c : CodePoint) (ret : c.is '\r' = true)
    (alone : before.head?.any (·.is '\n') = false) (counts : lone = true)
    (firm : ∀ c ∈ t, c.isBreak = false) (later : Reaches lone rest [] before) :
    Reaches lone rest t (c :: before) := by
  refine reaches_line c [] true firm ?_ ?_ (fun _ => alone) later
  · simpa [lineEnd, not_feed_of_return ret, ret, counts] using
      head?_feed_append begins before alone
  · intro n column afterReturn _
    simp [Cursor.past, Cursor.step, ret, Cursor.nextLine]

theorem ends_tail (c : CodePoint) (ends : lone = true ∨ hasLoneReturn (c :: before) = false) :
    lone = true ∨ hasLoneReturn before = false := by
  simp only [hasLoneReturn, Bool.or_eq_false_iff] at ends
  exact ends.imp_right And.right

theorem reaches (begins : rest.begins = true) (t before : Text)
    (firm : ∀ c ∈ t, c.isBreak = false)
    (ends : lone = true ∨ before.hasLoneReturn = false) : Reaches lone rest t before := by
  match before with
  | [] => exact reaches_nil firm
  | c :: before =>
      have laterEnds := ends_tail c ends
      cases feed : c.is '\n' with
      | true => exact reaches_feed c feed firm (reaches begins [] before nofun laterEnds)
      | false =>
        cases ret : c.is '\r' with
        | true =>
          cases followed : before.head?.any (·.is '\n') with
          | true =>
            match before with
            | d :: before =>
                exact reaches_return_feed c d ret followed firm
                  (reaches begins [] before nofun (ends_tail d laterEnds))
          | false =>
            have counts : lone = true :=
              ends.resolve_right (by simp [hasLoneReturn, ret, followed])
            exact reaches_return begins c ret followed counts firm
              (reaches begins [] before nofun laterEnds)
        | false =>
          have firmHere := (CodePoint.isBreak_eq_false_iff c).mpr ⟨feed, ret⟩
          refine reaches_firm c firmHere (reaches begins (t ++ [c]) before ?_ laterEnds)
          intro d member
          rcases List.mem_append.mp member with inLine | last
          · exact firm d inLine
          · rw [List.mem_singleton.mp last]
            exact firmHere
termination_by before.length

theorem readFrom?_after (lone : Bool) (before rest : Text) (begins : rest.begins = true)
    (ends : lone = true ∨ before.hasLoneReturn = false) :
    (before ++ rest).readFrom? lone (Position.after before) = some rest := by
  obtain ⟨line, column, arrives, reads⟩ := reaches begins [] before nofun ends
  have position : Position.after before = ⟨1 + line, column⟩ := arrives 1 false nofun
  have wellPlaced : 1 ≤ (1 + line : Int) ∧ (0 : Int) ≤ column := by omega
  have lineBefore : (1 + line - 1 : Int).toNat = line := by omega
  simp only [readFrom?, position, wellPlaced, and_self, if_true, lineBefore, Int.toNat_natCast]
  exact reads

end Reading

end Text

/-! ## What diagnostics are about -/

/-- What a diagnostic says, with the place of the node that it is about. -/
structure Offence where
  defect : Defect
  path : Option Text
  key : Text
  detail : Option Text
  place : Place

def Offence.diagnostic (x : Offence) : Diagnostic :=
  ⟨x.defect, x.path, x.key, Position.after x.place.before, x.detail⟩

namespace Occurrence

/-- The place of the value of an argument. -/
def argument? (newline : Text) (o : Occurrence) (i : Nat) : Option Place :=
  o.arguments[i]?.map fun slot =>
    ⟨o.inside newline ++ Slot.printAll newline (o.arguments.take i) ++ slot.mark.print newline,
      slot.value⟩

/-- The place of what is wrong with a call that declares: the call itself, or the
value of the second or the third argument. -/
def offender? (newline : Text) (o : Occurrence) : Call.Malformation → Option Place
  | .count _ => some o.place
  | .notPositional => some o.place
  | .path => (o.argument? newline 1).map (Place.core newline)
  | .classMap => (o.argument? newline 2).map (Place.core newline)

/-- What is wrong with a call, or with the values of the elements of its class
map. -/
def offences (settings : Settings) (newline : Text) (o : Occurrence) : List Offence :=
  if Call.declares settings.tagger o.function o.arguments then
    match Call.malformation? o.arguments, o.classMap? settings.tagger with
    | some reason, _ =>
        (o.offender? newline reason).toList.map fun place =>
          ⟨.malformedExpression, none, settings.tagger, some reason.detail, place⟩
    | none, some (path, _) =>
        (o.entries newline).filterMap fun (before, entry) =>
          (Entry.defect? path settings.loader entry).map fun (defect, key) =>
            ⟨defect, some path, key, none, Place.core newline ⟨before, entry.value⟩⟩
    | none, none => []
  else []

end Occurrence

def Module.offences (settings : Settings) (m : Module) : List Offence :=
  m.occurrences.flatMap (Occurrence.offences settings m.newline)

/-! ## Arguments and elements in their rows -/

section Rows
variable (newline : Text)

theorem Slot.place_mem (before : Text) (slots : List Argument) (i : Nat) (slot : Argument)
    (found : slots[i]? = some slot) :
    (⟨before ++ Slot.printAll newline (slots.take i) ++ slot.mark.print newline,
      slot.value⟩ : Place) ∈
      Part.places newline before (slots.flatMap Slot.parts) := by
  induction slots generalizing before i with
  | nil => simp at found
  | cons head rest ih =>
      rw [List.flatMap_cons, Part.places_append, Slot.printAll_parts, List.mem_append]
      cases i with
      | zero =>
          left
          obtain ⟨mark, value, comma⟩ := slot
          cases found
          cases mark <;> simp [Slot.parts, Part.places, Mark.print, Slot.printAll, Expr.print]
      | succ i =>
          right
          have later := ih (before ++ head.print newline) i found
          simpa [Slot.printAll_cons] using later

theorem Element.place_mem (before : Text) (elements : List Entry) :
    ∀ found ∈ Element.located newline before elements,
      (⟨found.1, found.2.value⟩ : Place) ∈
        Part.places newline before (elements.flatMap Element.parts) := by
  induction elements generalizing before with
  | nil => simp [Element.located]
  | cons element rest ih =>
      intro found member
      rw [List.flatMap_cons, Part.places_append, Element.printAll_parts, List.mem_append]
      rcases List.mem_cons.mp member with rfl | later
      · left
        cases element <;> simp [Element.parts, Part.places, Element.lead, Element.value]
      · exact .inr (ih _ found later)

namespace Occurrence

/-- The places of the arguments, and of their keywords. -/
def argumentPlaces (o : Occurrence) : List Place :=
  Part.places newline (o.inside newline) (o.arguments.flatMap Slot.parts)

theorem inner_place (o : Occurrence) :
    o.place.inner newline = ⟨o.before, o.function⟩ :: o.argumentPlaces newline := by
  simp [Place.inner, place, call, Expr.parts, Part.places, Part.places_append, argumentPlaces,
    inside]

theorem argument_mem (o : Occurrence) (i : Nat) (p : Place)
    (found : o.argument? newline i = some p) : p ∈ o.argumentPlaces newline := by
  obtain ⟨slot, isSlot, rfl⟩ := Option.map_eq_some_iff.mp found
  exact Slot.place_mem newline (o.inside newline) o.arguments i slot isSlot

/-- The values of a class map lie right inside the third argument, less its
parentheses. -/
theorem entry_mem (o : Occurrence) :
    ∀ found ∈ o.entries newline, ∃ third ∈ o.argumentPlaces newline,
      (third.core newline).call? = none ∧
      (⟨found.1, found.2.value⟩ : Place) ∈ (third.core newline).inner newline := by
  intro found member
  unfold entries at member
  split at member
  · cases member
  · rename_i slot isThird
    split at member
    · rename_i opening elements closing display
      refine ⟨_, Slot.place_mem newline (o.inside newline) o.arguments 2 slot isThird, ?_, ?_⟩
      · simp only [Place.core, display, Place.call?]
      · have located := Element.place_mem newline _ elements found member
        simpa [Place.inner, Place.core, display, Expr.parts, Part.places, Part.places_append,
          beforeArgument, isThird] using located
    · cases member

end Occurrence

end Rows

/-! ## The offences of a call -/

theorem Expr.stripped_stripped (e : Expr) : e.stripped.stripped = e.stripped := by
  fun_induction Expr.stripped e with
  | case1 opening inner closing ih => exact ih
  | case2 e notParen =>
      cases e with
      | paren opening inner closing => exact absurd rfl (notParen opening inner closing)
      | _ => rfl

theorem Entry.text?_of_emptyClassName (path loader : Text) (entry : Entry) (key : Text)
    (given : defect? path loader entry = some (.emptyClassName, key)) :
    entry.value.text? = some [] := by
  unfold defect? at given
  split at given
  · rename_i name className found
    split at given
    · rename_i empty
      cases entry with
      | pair key before after value comma =>
          obtain ⟨name', _, isText⟩ := Option.bind_eq_some_iff.mp found
          obtain ⟨content, isText, same⟩ := Option.map_eq_some_iff.mp isText
          cases same
          rw [List.isEmpty_iff.mp empty] at isText
          exact isText
      | spread gap value comma => cases found
    · cases given
  · split at given <;> cases given

namespace Occurrence

variable (settings : Settings) (newline : Text) (o : Occurrence)

theorem argument?_of_lt (i : Nat) (few : i < o.arguments.length) :
    ∃ p, o.argument? newline i = some p ∧
      (p.core newline).before = o.beforeArgument newline i := by
  have found := List.getElem?_eq_getElem few
  exact ⟨_, Option.map_eq_some_iff.mpr ⟨_, found, rfl⟩,
    by simp [Place.core, beforeArgument, found]⟩

/-- What is wrong with a call is at the place that is reported. -/
theorem offender?_of_malformation? (reason : Call.Malformation)
    (given : Call.malformation? o.arguments = some reason) :
    ∃ place, o.offender? newline reason = some place ∧
      place.before = o.beforeFault newline reason := by
  have three := Call.length_of_malformation? o.arguments reason given
  cases reason with
  | count n => exact ⟨o.place, rfl, rfl⟩
  | notPositional => exact ⟨o.place, rfl, rfl⟩
  | path =>
      obtain ⟨p, found, starts⟩ := o.argument?_of_lt newline 1 (by have := three (by simp); omega)
      exact ⟨_, by rw [offender?, found]; rfl, starts⟩
  | classMap =>
      obtain ⟨p, found, starts⟩ := o.argument?_of_lt newline 2 (by have := three (by simp); omega)
      exact ⟨_, by rw [offender?, found]; rfl, starts⟩

theorem diagnostics_eq :
    o.diagnostics settings newline = (o.offences settings newline).map Offence.diagnostic := by
  unfold diagnostics offences
  split
  · match failed : Call.malformation? o.arguments, o.classMap? settings.tagger with
    | some reason, _ =>
        obtain ⟨place, found, starts⟩ := o.offender?_of_malformation? newline reason failed
        simp [found, starts, Offence.diagnostic]
    | none, some (path, _) =>
        simp only [List.map_filterMap, Option.map_map]
        rfl
    | none, none => rfl
  · rfl

/-- How a call comes to an offence: by itself, by an argument, or by an element of
its class map. -/
inductive Offends : Offence → Prop
  | call (reason : Call.Malformation) (outer : reason ≠ .path ∧ reason ≠ .classMap) :
      Offends ⟨.malformedExpression, none, settings.tagger, some reason.detail, o.place⟩
  | argument (reason : Call.Malformation) (inner : reason = .path ∨ reason = .classMap)
      (p : Place) (isArgument : p ∈ o.argumentPlaces newline) :
      Offends ⟨.malformedExpression, none, settings.tagger, some reason.detail, p.core newline⟩
  | element (path : Text) (found : Text × Entry) (isEntry : found ∈ o.entries newline)
      (defect : Defect) (key : Text)
      (given : Entry.defect? path settings.loader found.2 = some (defect, key)) :
      Offends ⟨defect, some path, key, none, Place.core newline ⟨found.1, found.2.value⟩⟩

theorem offends_of_mem (x : Offence) (member : x ∈ o.offences settings newline) :
    Call.declares settings.tagger o.function o.arguments = true ∧
      Offends settings newline o x := by
  unfold offences at member
  split at member
  · rename_i declared
    refine ⟨declared, ?_⟩
    match Call.malformation? o.arguments, o.classMap? settings.tagger, member with
    | some reason, _, member =>
        obtain ⟨place, found, rfl⟩ := List.mem_map.mp member
        rw [Option.mem_toList] at found
        cases reason with
        | count n =>
            cases found
            exact .call _ (by simp)
        | notPositional =>
            cases found
            exact .call _ (by simp)
        | path | classMap =>
            obtain ⟨p, isArgument, rfl⟩ := Option.map_eq_some_iff.mp found
            exact .argument _ (by simp) p (o.argument_mem newline _ p isArgument)
    | none, some (path, _), member =>
        obtain ⟨found, isEntry, given⟩ := List.mem_filterMap.mp member
        obtain ⟨⟨defect, key⟩, given', rfl⟩ := Option.map_eq_some_iff.mp given
        exact .element path found isEntry defect key given'
    | none, none, member => cases member
  · cases member

theorem argument_within : ∀ p ∈ o.argumentPlaces newline, p.Within newline o.place := by
  intro p member
  apply o.place.inner_within newline
  rw [o.inner_place]
  exact List.mem_cons_of_mem _ member

theorem offence_within (x : Offence) (offends : Offends settings newline o x) :
    x.place.Within newline o.place := by
  have argument := o.argument_within newline
  cases offends with
  | call reason outer => exact Place.Within.refl _
  | argument reason inner p isArgument =>
      exact (p.core_within newline).trans (argument p isArgument)
  | element path found isEntry defect key given =>
      obtain ⟨third, isThird, _, inside⟩ := o.entry_mem newline found isEntry
      have inThird := ((third.core newline).inner_within newline _ inside).trans
        (third.core_within newline)
      exact ((Place.core_within newline _).trans inThird).trans (argument third isThird)

/-- What comes at an offence of a call that begins is no line break. -/
theorem offence_begins (begins : o.call.Begins) (whole : Text)
    (inside : o.place.In newline [] whole) (x : Offence) (offends : Offends settings newline o x) :
    ∃ after : Text, whole = x.place.before ++ after ∧ after.begins = true := by
  have within : ∀ p : Place, p.node.Begins → p.Within newline o.place →
      ∃ after : Text, whole = (p.core newline).before ++ after ∧ after.begins = true := by
    intro p pBegins inCall
    obtain ⟨skipped, after, starts, split, afterBegins⟩ :=
      p.begins_core newline pBegins [] whole (inCall.inside inside)
    exact ⟨after, by rw [starts, List.nil_append, split], afterBegins⟩
  have argument : ∀ p ∈ o.argumentPlaces newline, p.node.Begins := by
    intro p member
    have isInner : p ∈ o.place.inner newline := by
      rw [o.inner_place]
      exact List.mem_cons_of_mem _ member
    exact begins.inside_of_stripped rfl _ (Part.expr_mem_of_place newline _ _ p isInner)
  cases offends with
  | call reason outer =>
      have own := within o.place begins (Place.Within.refl _)
      simpa [Place.core, Occurrence.place, Occurrence.call, Expr.opened] using own
  | argument reason inner p isArgument =>
      exact within p (argument p isArgument) (o.argument_within newline p isArgument)
  | element path found isEntry defect key given =>
      obtain ⟨third, isThird, _, inDict⟩ := o.entry_mem newline found isEntry
      have isPart := Part.expr_mem_of_place newline _ _ _ inDict
      have inThird := ((third.core newline).inner_within newline _ inDict).trans
        (third.core_within newline)
      refine within ⟨found.1, found.2.value⟩ ?_
        (inThird.trans (o.argument_within newline third isThird))
      -- The third argument is no empty tuple, since it has an element.
      rcases (argument third isThird).stripped with display | empty
      · exact display.inside_of_stripped third.node.stripped_stripped _ isPart
      · rw [Place.core, empty] at isPart
        cases isPart

theorem Offends.stripped (x : Offence) (offends : Offends settings newline o x) :
    x.place.node.stripped = x.place.node := by
  cases offends with
  | call reason outer => rfl
  | argument reason inner p isArgument => exact p.node.stripped_stripped
  | element path found isEntry defect key given => exact found.2.value.stripped_stripped

theorem Offends.text?_of_emptyClassName (x : Offence) (offends : Offends settings newline o x)
    (empty : x.defect = .emptyClassName) : x.place.node.text? = some [] := by
  cases offends with
  | call reason outer => cases empty
  | argument reason inner p isArgument => cases empty
  | element path found isEntry defect key given =>
      obtain ⟨before, entry⟩ := found
      cases empty
      have isEmpty := Entry.text?_of_emptyClassName path settings.loader entry key given
      simpa [Place.core, Expr.text?_eq_some_iff, Expr.stringValue, Expr.denoted_stripped]
        using isEmpty

end Occurrence

/-! ## The diagnostics of a run -/

theorem Module.offence_in (settings : Settings) (m : Module) :
    ∀ x ∈ m.offences settings, x.place.In m.newline [] m.code := by
  intro x member
  obtain ⟨o, occurs, offence⟩ := List.mem_flatMap.mp member
  obtain ⟨_, offends⟩ := o.offends_of_mem settings m.newline x offence
  exact (o.offence_within settings m.newline x offends).inside (m.occurrence_in o occurs)

/-- What comes at an offence of a parsed module is no line break. -/
theorem Module.offence_begins (settings : Settings) (source : Text) (m : Module)
    (parsed : Module.parse source = .ok m) :
    ∀ x ∈ m.offences settings, ∃ after : Text,
      m.code = x.place.before ++ after ∧ after.begins = true := by
  intro x member
  obtain ⟨o, occurs, offence⟩ := List.mem_flatMap.mp member
  obtain ⟨_, offends⟩ := o.offends_of_mem settings m.newline x offence
  exact o.offence_begins settings m.newline (m.begins_of_parse source parsed o occurs) m.code
    (m.occurrence_in o occurs) x offends

theorem Run.offences_source (settings : Settings) (threshold : Int) (code : Text)
    (outcome : Outcome) (given : Run.source settings threshold code = .ok outcome) :
    ∃ m, Module.parse code = .ok m ∧
      outcome.diagnostics = (m.offences settings).map Offence.diagnostic := by
  obtain ⟨m, parsed, ran⟩ := Run.source_ok settings threshold code outcome given
  obtain ⟨sound, _, rfl⟩ := (Run.tree_ok_iff _ _ _ _).mp ran
  refine ⟨m, parsed, ?_⟩
  rw [Session.diagnostics_toured settings threshold m sound, Module.offences, List.map_flatMap]
  exact List.flatMap_congr fun o _ => o.diagnostics_eq settings m.newline

/-- The diagnostics of a run are those of the offences of its module.  Each leads to
the node that it is about, which has no parentheses of its own and is a literal for
the empty text if that is the defect: the source, read from the line and the column
of the diagnostic on, goes on with the text of the node.  A reader who takes a lone
carriage return for no line end comes to the same place if there is none before. -/
theorem Run.diagnostics_point (settings : Settings) (threshold : Int) (code : Text)
    (outcome : Outcome) (given : Run.source settings threshold code = .ok outcome) :
    ∃ m, Module.parse code = .ok m ∧
      outcome.diagnostics = (m.offences settings).map Offence.diagnostic ∧
      ∀ x ∈ m.offences settings,
        x.place.node.stripped = x.place.node ∧
        (x.defect = .emptyClassName → x.place.node.text? = some []) ∧
        ∃ rest, Source.withoutMark code =
            x.place.before ++ (x.place.node.print m.newline ++ rest) ∧
          ∀ lone, (lone = true ∨ x.place.before.hasLoneReturn = false) →
            (Source.withoutMark code).readFrom? lone x.diagnostic.position =
              some (x.place.node.print m.newline ++ rest) := by
  obtain ⟨m, parsed, same⟩ := Run.offences_source settings threshold code outcome given
  refine ⟨m, parsed, same, ?_⟩
  intro x member
  obtain ⟨o, occurs, offence⟩ := List.mem_flatMap.mp member
  obtain ⟨_, offends⟩ := o.offends_of_mem settings m.newline x offence
  refine ⟨offends.stripped, offends.text?_of_emptyClassName, ?_⟩
  obtain ⟨skipped, rest, starts, printed⟩ := m.offence_in settings x member
  obtain ⟨after, split, begins⟩ := m.offence_begins settings code parsed x member
  rw [List.nil_append] at starts
  rw [← starts] at printed
  obtain rfl : after = x.place.node.print m.newline ++ rest :=
    List.append_cancel_left (split.symm.trans printed)
  rw [m.code_parse code parsed] at printed
  refine ⟨rest, printed, fun lone ends => ?_⟩
  rw [printed]
  exact Text.readFrom?_after lone x.place.before _ begins ends

/-! ## Sources with known runs -/

/-- A source of which something about the run for the sample settings is known. -/
structure Sample.Known {α : Type} (see : Outcome → α) where
  code : Text
  seen : α
  known : (Run.source Sample.settings 0 code).toOption.map see = some seen

theorem Sample.Known.returns {α : Type} {see : Outcome → α} (sample : Sample.Known see) :
    ∃ outcome, Run.source Sample.settings 0 sample.code = .ok outcome ∧
      see outcome = sample.seen :=
  Sample.returns_of_seen _ _ _ sample.known

def Outcome.positions (outcome : Outcome) : List Position := outcome.diagnostics.map (·.position)

/-- Three kinds of line break, literals of two lines, and an element that is a call of
the wrong arguments itself. -/
def Sample.scattered : Sample.Known Outcome.positions where
  code := text "A2(t, '''\n''', \x7bx: (('')),\r\n '''\ny''': 1, z: (A2)(t)\x7d)\n'''\r''';A2(t)"
  seen := [⟨2, 11⟩, ⟨4, 6⟩, ⟨4, 12⟩, ⟨4, 12⟩, ⟨6, 4⟩]
  known := by decide +kernel

theorem Run.diagnostics_point_sample :
    ∃ outcome m, Run.source Sample.settings 0 Sample.scattered.code = .ok outcome ∧
      outcome.positions = [⟨2, 11⟩, ⟨4, 6⟩, ⟨4, 12⟩, ⟨4, 12⟩, ⟨6, 4⟩] ∧
      Module.parse Sample.scattered.code = .ok m ∧
      ∀ x ∈ m.offences Sample.settings, ∃ rest,
        ∀ lone, (lone = true ∨ x.place.before.hasLoneReturn = false) →
          (Source.withoutMark Sample.scattered.code).readFrom? lone x.diagnostic.position =
            some (x.place.node.print m.newline ++ rest) := by
  obtain ⟨outcome, given, seen⟩ := Sample.scattered.returns
  obtain ⟨m, parsed, _, points⟩ := Run.diagnostics_point _ _ _ _ given
  refine ⟨outcome, m, given, seen, parsed, ?_⟩
  intro x member
  obtain ⟨_, _, rest, _, reads⟩ := points x member
  exact ⟨rest, reads⟩

end ClassMaps
