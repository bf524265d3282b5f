import ClassMaps.Console.Cells

/-!
# Layout of a message

A message stands in a column beside the name of its level.  It is cut at line
breaks, and each line is filled with words as long as they fit.  A word that is
wider than the column starts a line of its own and is cut where the column
ends.
-/

set_option autoImplicit false

namespace ClassMaps

namespace Layout

def spaces (n : Nat) : Text := List.replicate n (CodePoint.ofChar ' ')

def pad (width : Nat) (t : Text) : Text := t ++ spaces (width - t.cells)

def isDropped (c : CodePoint) : Bool := c.isOneOf ['\x07', '\x08', '\x0b', '\x0c', '\r']

/-- The text with each tab replaced by spaces up to the next multiple of eight
cells, starting at cell `column`. -/
def expandTabs : Nat → Text → Text
  | _, [] => []
  | column, c :: rest =>
      if c.is '\t' then
        let count := 8 - column % 8
        spaces count ++ expandTabs (column + count) rest
      else c :: expandTabs (column + c.cells) rest

def withoutTrail (t : Text) : Text := (t.reverse.dropWhile CodePoint.isBlank).reverse

/-- Cuts a line before each shown code point that follows a blank. -/
def cut : Text → List Text
  | [] => []
  | c :: rest =>
      match cut rest with
      | [] => [[c]]
      | piece :: pieces =>
          if c.isBlank && piece.head?.any (!·.isBlank) then [c] :: piece :: pieces
          else (c :: piece) :: pieces

/-- The words of a line, each with the blanks after it, and the first with the
blanks before it, too. -/
def words (t : Text) : List Text :=
  match cut t with
  | first :: second :: rest =>
      if Text.isBlank first then (first ++ second) :: rest else first :: second :: rest
  | row => row

/-- Cuts a text into pieces of at most `width` cells.  `piece` is the piece so
far and `used` its cells. -/
def chop (width : Nat) (piece : Text) (used : Nat) : Text → List Text
  | [] => [piece]
  | c :: rest =>
      if used + c.cells ≤ width then chop width (piece ++ [c]) (used + c.cells) rest
      else piece :: chop width [c] c.cells rest

/-- A line being filled, after those that are full. -/
structure Filling where
  full : List Text
  line : Text
  used : Nat

/-- Puts one more word on the line, or on a new one. -/
def Filling.put (width : Nat) (f : Filling) (word : Text) : Filling :=
  let needed := (withoutTrail word).cells
  if f.used + needed ≤ width then ⟨f.full, f.line ++ word, f.used + word.cells⟩
  else
    let full := if f.line.isEmpty then f.full else f.full ++ [f.line]
    if width < needed then
      let pieces := chop width [] 0 word
      let last := pieces.getLast?.getD []
      ⟨full ++ pieces.dropLast, last, last.cells⟩
    else ⟨full, word, word.cells⟩

def fill (width : Nat) (t : Text) : List Text :=
  let filling := (words t).foldl (Filling.put width) ⟨[], [], 0⟩
  filling.full ++ [filling.line]

/-- Takes blanks off the end of a text that has more than `width` code points. -/
def crop (width : Nat) (t : Text) : Text :=
  let trail := t.length - (withoutTrail t).length
  t.take (t.length - min trail (t.length - width))

def fitting (width : Nat) : Text → Text
  | [] => []
  | c :: rest => if c.cells ≤ width then c :: fitting (width - c.cells) rest else []

def lines (width : Nat) (message : Text) : List Text :=
  let kept := message.filter fun c => !isDropped c
  let rows := (kept.splitOnP (·.is '\n')).flatMap fun row => fill width (expandTabs 0 row)
  rows.map fun row => pad width (fitting width (crop width row))

def margin : Nat := 9

def block (width : Nat) (name message : Text) : Text :=
  match lines (width - margin) message with
  | [] => []
  | first :: rest =>
      let head := pad margin name ++ first ++ sign '\n'
      head ++ rest.flatMap fun row => spaces margin ++ row ++ sign '\n'

end Layout

end ClassMaps
