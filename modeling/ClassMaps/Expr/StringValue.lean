import ClassMaps.Expr
import ClassMaps.Literal

/-!
# The string value of an expression

A string literal, or a concatenation of string literals, denotes a text or
bytes.  A concatenation next to a formatted string denotes nothing, and its
other strings are then not evaluated.
-/

set_option autoImplicit false

namespace ClassMaps

namespace Denoted

/-- Two denoted strings one after the other. -/
def append? : Option Denoted → Option Denoted → Option Denoted
  | some (.text t), some (.text u) => some (.text (t ++ u))
  | some .bytes, some .bytes => some .bytes
  | _, _ => none

end Denoted

namespace Expr

/-- Whether the expression is a formatted string, parentheses aside. -/
def isFormatted (e : Expr) : Bool :=
  match e.stripped with
  | .formatted _ => true
  | _ => false

/-- What the strings of the expression denote together, if it is made of
strings only. -/
def denoted : Expr → Except LiteralFault (Option Denoted)
  | .string literal => (Literal.evaluate literal).map some
  | .concat left _ right =>
      if left.isFormatted || right.isFormatted then .ok none
      else do
        let before ← left.denoted
        let after ← right.denoted
        return Denoted.append? before after
  | .paren _ inner _ => inner.denoted
  | _ => .ok none

/-- The text that the expression denotes, if it is a literal for a text. -/
def stringValue (e : Expr) : Except LiteralFault (Option Text) :=
  e.denoted.map fun
    | some (.text content) => some content
    | _ => none

end Expr

end ClassMaps
