/-!
# Texts

A text is a list of code points.  Every number below `0x110000` is a code
point, the surrogates included: an escape in a source literal can denote a
lone surrogate, and such a text is read, carried and written like any other.
-/

set_option autoImplicit false

namespace ClassMaps

structure CodePoint where
  val : Nat
  inRange : val < 0x110000
deriving DecidableEq

abbrev Text := List CodePoint

namespace CodePoint

def ofNat? (n : Nat) : Option CodePoint :=
  if h : n < 0x110000 then some ⟨n, h⟩ else none

def ofChar (c : Char) : CodePoint :=
  ⟨c.toNat, by
    have valid := c.valid
    unfold UInt32.isValidChar Nat.isValidChar at valid
    unfold Char.toNat
    omega⟩

/-- Whether the code point is this character. -/
def is (p : CodePoint) (c : Char) : Bool := p.val == c.toNat

/-- Whether the code point is one of these characters. -/
def isOneOf (p : CodePoint) (cs : List Char) : Bool := cs.any p.is

def isSurrogate (p : CodePoint) : Bool := 0xD800 ≤ p.val && p.val < 0xE000

def isAscii (p : CodePoint) : Bool := p.val < 0x80

def isDigit (p : CodePoint) : Bool := 0x30 ≤ p.val && p.val ≤ 0x39

def isAsciiLetter (p : CodePoint) : Bool :=
  (0x41 ≤ p.val && p.val ≤ 0x5A) || (0x61 ≤ p.val && p.val ≤ 0x7A)

/-- The value of a digit below `base`, for bases up to sixteen, in either case. -/
def digit? (base : Nat) (p : CodePoint) : Option Nat :=
  let value :=
    if p.isDigit then some (p.val - 0x30)
    else if 0x61 ≤ p.val && p.val ≤ 0x66 then some (p.val - 0x57)
    else if 0x41 ≤ p.val && p.val ≤ 0x46 then some (p.val - 0x37)
    else none
  value.filter (· < base)

/-- A capital ASCII letter for a small one; all else is kept. -/
def toAsciiUpper (p : CodePoint) : CodePoint :=
  if h : 0x61 ≤ p.val ∧ p.val ≤ 0x7A then ⟨p.val - 0x20, by omega⟩ else p

/-- A small ASCII letter for a capital one; all else is kept. -/
def toAsciiLower (p : CodePoint) : CodePoint :=
  if h : 0x41 ≤ p.val ∧ p.val ≤ 0x5A then ⟨p.val + 0x20, by omega⟩ else p

/-- Whether the code point lies in one of the ranges, both ends included. -/
def isIn (p : CodePoint) (ranges : List (Nat × Nat)) : Bool :=
  ranges.any fun range => range.1 ≤ p.val && p.val ≤ range.2

/-- The ranges of blank code points: the Unicode white space, and the four
separators before the space.  Zero-width characters are not blank. -/
def blankRanges : List (Nat × Nat) :=
  [(0x9, 0xD), (0x1C, 0x20), (0x85, 0x85), (0xA0, 0xA0), (0x1680, 0x1680), (0x2000, 0x200A),
   (0x2028, 0x2029), (0x202F, 0x202F), (0x205F, 0x205F), (0x3000, 0x3000)]

def isBlank (p : CodePoint) : Bool := p.isIn blankRanges

/-- Whether a line of source ends at the code point. -/
def isBreak (p : CodePoint) : Bool := p.isOneOf ['\n', '\r']

theorem isBreak_eq_false_iff (p : CodePoint) :
    p.isBreak = false ↔ p.is '\n' = false ∧ p.is '\r' = false := by
  simp [isBreak, isOneOf]

end CodePoint

/-- The text of a string of characters. -/
def text (s : String) : Text := s.toList.map CodePoint.ofChar

/-- The text of one character. -/
def sign (c : Char) : Text := [CodePoint.ofChar c]

namespace Text

/-- The decimal digits of a number. -/
def ofNat (n : Nat) : Text := (Nat.toDigits 10 n).map CodePoint.ofChar

/-- The decimal digits of an integer, after a minus sign if it is negative. -/
def ofInt : Int → Text
  | .ofNat n => ofNat n
  | .negSucc n => sign '-' ++ ofNat (n + 1)

/-- The last `width` hexadecimal digits of a number, in small letters. -/
def hex : Nat → Nat → Text
  | 0, _ => []
  | width + 1, n => hex width (n / 16) ++ [CodePoint.ofChar (Nat.digitChar (n % 16))]

/-- The texts in order, with `separator` between neighbours. -/
def join (separator : Text) : List Text → Text
  | [] => []
  | [t] => t
  | t :: u :: rest => t ++ separator ++ join separator (u :: rest)

def hasSurrogate (t : Text) : Bool := t.any CodePoint.isSurrogate

/-- Whether the text has nothing but blanks. -/
def isBlank (t : Text) : Bool := t.all CodePoint.isBlank

/-- The length of the line break at the start of the text, which is a line feed,
a carriage return, or a carriage return and a line feed. -/
def breakLength : Text → Nat
  | [] => 0
  | [c] => if c.isBreak then 1 else 0
  | c :: d :: _ => if c.is '\r' && d.is '\n' then 2 else if c.isBreak then 1 else 0

/-- The rest of the text after `start`, if it starts so. -/
def after? : Text → Text → Option Text
  | [], t => some t
  | c :: start, d :: t => if c = d then after? start t else none
  | _ :: _, [] => none

end Text

end ClassMaps
