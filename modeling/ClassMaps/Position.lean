import ClassMaps.Text

/-!
# Positions

A position is a line, counted from one, and a column, counted from zero in code
points.  A line ends with a line feed, with a carriage return, or with both of
them in this order.  Since the two may come one after the other, a cursor keeps,
beside the position it has come to, whether a carriage return stands right before
it.
-/

set_option autoImplicit false

namespace ClassMaps

structure Position where
  line : Int
  column : Int
deriving DecidableEq

/-- The start of a text. -/
def Position.origin : Position := ⟨1, 0⟩

structure Cursor where
  position : Position
  afterReturn : Bool
deriving DecidableEq

namespace Cursor

def origin : Cursor := ⟨.origin, false⟩

/-- The start of the next line. -/
def nextLine (k : Cursor) (afterReturn : Bool) : Cursor :=
  ⟨⟨k.position.line + 1, 0⟩, afterReturn⟩

/-- The cursor after one more code point.  A line feed after a carriage return
goes with it. -/
def step (k : Cursor) (c : CodePoint) : Cursor :=
  if c.is '\r' then k.nextLine true
  else if c.is '\n' then
    if k.afterReturn then ⟨k.position, false⟩ else k.nextLine false
  else ⟨⟨k.position.line, k.position.column + 1⟩, false⟩

/-- The cursor after `t`, for a text `t` that starts at `k`. -/
def past (k : Cursor) (t : Text) : Cursor := t.foldl step k

theorem past_append (k : Cursor) (t u : Text) : k.past (t ++ u) = (k.past t).past u :=
  List.foldl_append

end Cursor

/-- The position right after a text. -/
def Position.after (t : Text) : Position := (Cursor.origin.past t).position

end ClassMaps
