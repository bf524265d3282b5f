import ClassMaps.Text

/-!
# UTF-8

Texts as bytes.  Decoding refuses overlong forms, surrogates and everything
beyond the last code point.
-/

set_option autoImplicit false

namespace ClassMaps

namespace Utf8

/-- The bytes of one code point. -/
def encodeOne (p : CodePoint) : List Nat :=
  let n := p.val
  if n < 0x80 then [n]
  else if n < 0x800 then [0xC0 + n / 64, 0x80 + n % 64]
  else if n < 0x10000 then [0xE0 + n / 4096, 0x80 + n / 64 % 64, 0x80 + n % 64]
  else [0xF0 + n / 262144, 0x80 + n / 4096 % 64, 0x80 + n / 64 % 64, 0x80 + n % 64]

def encode (t : Text) : List Nat := t.flatMap encodeOne

def isContinuation (b : Nat) : Bool := 0x80 ≤ b && b < 0xC0

/-- The code point of a number that needs at least the value `least` to be
written in as many bytes as it was. -/
def scalar? (least n : Nat) : Option CodePoint :=
  if n < least || (0xD800 ≤ n && n < 0xE000) then none else CodePoint.ofNat? n

/-- The text that the bytes encode. -/
def decode : List Nat → Option Text
  | [] => some []
  | a :: rest =>
      if a < 0x80 then
        match scalar? 0 a with
        | none => none
        | some p => (decode rest).map (p :: ·)
      else
        match rest with
        | [] => none
        | b :: rest =>
            if !isContinuation b then none
            else if 0xC0 ≤ a && a < 0xE0 then
              match scalar? 0x80 ((a - 0xC0) * 64 + (b - 0x80)) with
              | none => none
              | some p => (decode rest).map (p :: ·)
            else
              match rest with
              | [] => none
              | c :: rest =>
                  if !isContinuation c then none
                  else if 0xE0 ≤ a && a < 0xF0 then
                    match scalar? 0x800
                        ((a - 0xE0) * 4096 + (b - 0x80) * 64 + (c - 0x80)) with
                    | none => none
                    | some p => (decode rest).map (p :: ·)
                  else
                    match rest with
                    | [] => none
                    | d :: rest =>
                        if !isContinuation d then none
                        else if 0xF0 ≤ a && a < 0xF8 then
                          match scalar? 0x10000
                              ((a - 0xF0) * 262144 + (b - 0x80) * 4096 + (c - 0x80) * 64 +
                                (d - 0x80)) with
                          | none => none
                          | some p => (decode rest).map (p :: ·)
                        else none

end Utf8

end ClassMaps
