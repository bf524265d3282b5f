import ClassMaps.Token

/-!
# String literals

`Literal.evaluate` gives what a literal of the source denotes, prefix and
quotes included in its spelling: a text, or bytes, of which only their being
bytes matters.  `Literal.quote` spells a text as a literal again, in double
quotes, with escapes for the quote, the backslash and the control characters
below the space.
-/

set_option autoImplicit false

namespace ClassMaps

/-- Why a literal denotes nothing. -/
inductive LiteralFault
  | surrogate
  | null
  | escape
deriving DecidableEq

/-- What a literal denotes. -/
inductive Denoted
  | text (content : Text)
  | bytes
deriving DecidableEq

namespace Literal

/-! ## Evaluation -/

/-- The number written by exactly the first `count` code points, as digits of
the base, and the rest. -/
def digits (base : Nat) : Nat → Nat → Text → Option (Nat × Text)
  | 0, value, rest => some (value, rest)
  | _ + 1, _, [] => none
  | count + 1, value, c :: rest =>
      match c.digit? base with
      | none => none
      | some d => digits base count (value * base + d) rest

/-- The letters of the basic alphabet with their character names, and the
bullet.  These are the names that evaluation knows: an escape with any other
name is a fault here, although most characters have a name. -/
def named : List (Text × Nat) :=
  (List.range 26).flatMap (fun i =>
    match CodePoint.ofNat? (0x41 + i) with
    | none => []
    | some letter =>
        [(text "LATIN CAPITAL LETTER " ++ [letter], 0x41 + i),
         (text "LATIN SMALL LETTER " ++ [letter], 0x61 + i)]) ++
  [(text "BULLET", 0x2022)]

/-- The code point of a character name in any case. -/
def ofName? (name : Text) : Option CodePoint :=
  ((named.find? fun entry => entry.1 = name.map CodePoint.toAsciiUpper).bind fun entry =>
    CodePoint.ofNat? entry.2)

/-- What a letter or sign after a backslash stands for. -/
def simpleEscape? (c : CodePoint) : Option Nat :=
  if c.isOneOf ['\\', '\x27', '\x22'] then some c.val
  else if c.is 'a' then some 7
  else if c.is 'b' then some 8
  else if c.is 't' then some 9
  else if c.is 'n' then some 10
  else if c.is 'v' then some 11
  else if c.is 'f' then some 12
  else if c.is 'r' then some 13
  else none

/-- How many hexadecimal digits follow a letter after a backslash. -/
def hexWidth? (c : CodePoint) : Option Nat :=
  if c.is 'x' then some 2 else if c.is 'u' then some 4 else if c.is 'U' then some 8 else none

/-- The number of up to three octal digits at the start of the text, and how
many they are. -/
def octal : Nat → Nat → Nat → Text → Nat × Nat
  | 0, taken, value, _ => (value, taken)
  | _ + 1, taken, value, [] => (value, taken)
  | left + 1, taken, value, c :: rest =>
      match c.digit? 8 with
      | none => (value, taken)
      | some d => octal left (taken + 1) (value * 8 + d) rest

/-- The code point or the nothing that an escape denotes, after its backslash,
and how many code points it takes.  An escape that is none denotes its
backslash alone. -/
def escape (s : Text) : Option (Text × Nat) :=
  match s with
  | [] => none
  | c :: rest =>
      if c.is '\n' then some ([], 1)
      else
        match simpleEscape? c with
        | some value => (CodePoint.ofNat? value).map fun p => ([p], 1)
        | none =>
            if (c.digit? 8).isSome then
              let (value, taken) := octal 3 0 0 s
              (CodePoint.ofNat? value).map fun p => ([p], taken)
            else
              match hexWidth? c with
              | some width =>
                  match digits 16 width 0 rest with
                  | none => none
                  | some (value, _) => (CodePoint.ofNat? value).map fun p => ([p], width + 1)
              | none =>
                  if c.is 'N' then
                    match rest with
                    | brace :: more =>
                        let name := more.takeWhile fun p => !p.is '\x7d'
                        if brace.is '\x7b' && name.length < more.length then
                          (ofName? name).map fun p => ([p], name.length + 3)
                        else none
                    | [] => none
                  else some (sign '\\', 0)

/-- The content of a literal between its quotes, with its escapes replaced.
The first `skip` code points belong to an escape that has been replaced. -/
def unescape : Nat → Text → Option Text
  | _, [] => some []
  | skip + 1, _ :: rest => unescape skip rest
  | 0, c :: rest =>
      if c.is '\\' then
        match escape rest with
        | none => none
        | some (found, taken) => (unescape taken rest).map (found ++ ·)
      else (unescape 0 rest).map (c :: ·)

/-- Every line break as a line feed. -/
def unixLines : Text → Text
  | [] => []
  | [c] => if c.is '\r' then sign '\n' else [c]
  | c :: d :: rest =>
      if c.is '\r' then
        if d.is '\n' then sign '\n' ++ unixLines rest else sign '\n' ++ unixLines (d :: rest)
      else c :: unixLines (d :: rest)

/-- What stands between the quotes of a literal without prefix. -/
def content (s : Text) : Text :=
  let quotes := match s with
    | a :: b :: c :: _ => if a = b && b = c then 3 else 1
    | _ => 1
  (s.drop quotes).take (s.length - 2 * quotes)

/-- Checks the escapes of a bytes literal. -/
def bytesEscapesFit : Text → Bool
  | [] => true
  | [c] => !c.is '\\'
  | c :: d :: rest =>
      if c.is '\\' then
        if d.is 'x' then
          match rest with
          | h :: l :: rest' =>
              (h.digit? 16).isSome && (l.digit? 16).isSome && bytesEscapesFit rest'
          | _ => false
        else bytesEscapesFit rest
      else bytesEscapesFit (d :: rest)

/-- What a literal denotes. -/
def evaluate (literal : Text) : Except LiteralFault Denoted :=
  if Text.hasSurrogate literal then .error .surrogate
  else if literal.any (·.val = 0) then .error .null
  else
    let letters := Token.stringPrefix literal
    let raw := letters.any (·.isOneOf ['r', 'R'])
    let inner := unixLines (content (literal.drop letters.length))
    if letters.any (·.isOneOf ['b', 'B']) then
      if inner.all CodePoint.isAscii && (raw || bytesEscapesFit inner) then .ok .bytes
      else .error .escape
    else if raw then .ok (.text inner)
    else
      match unescape 0 inner with
      | some found => .ok (.text found)
      | none => .error .escape

/-! ## Spelling -/

/-- One code point inside double quotes. -/
def spell (c : CodePoint) : Text :=
  if c.is '\x22' then sign '\\' ++ sign '\x22'
  else if c.is '\\' then sign '\\' ++ sign '\\'
  else if c.is '\n' then sign '\\' ++ sign 'n'
  else if c.is '\r' then sign '\\' ++ sign 'r'
  else if c.is '\t' then sign '\\' ++ sign 't'
  else if c.val = 8 then sign '\\' ++ sign 'b'
  else if c.val = 12 then sign '\\' ++ sign 'f'
  else if c.val < 0x20 then sign '\\' ++ sign 'u' ++ Text.hex 4 c.val
  else [c]

/-- A literal in double quotes that denotes the text. -/
def quote (t : Text) : Text := sign '\x22' ++ t.flatMap spell ++ sign '\x22'

end Literal

end ClassMaps
