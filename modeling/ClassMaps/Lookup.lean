import ClassMaps.Expr.StringValue
import ClassMaps.Text.Identifier
import ClassMaps.Text.Quoted

/-!
# Module lookups

The expression that a class name resolves to: the loader called with the
path of a style module, subscripted by the class name.
-/

set_option autoImplicit false

namespace ClassMaps

/-- Why a text is no name. -/
inductive NameFault
  | empty
  | invalid (name : Text)
deriving DecidableEq

def NameFault.message : NameFault → Text
  | .empty => text "Cannot have empty name identifier."
  | .invalid name => text "Name " ++ Text.quoted name ++ text " is not a valid identifier."

/-- The name expression of a text. -/
def Expr.ofName (name : Text) : Except NameFault Expr :=
  if name.isEmpty then .error .empty
  else if Text.isIdentifier name then .ok (.name name)
  else .error (.invalid name)

namespace Lookup

/-- A lookup by a loader that is any expression. -/
def expr (loader : Expr) (path className : Text) : Expr :=
  .subscript
    (.call loader [] [] [.bare (.string (Literal.quote path))] [])
    [] [] [.bare (.string (Literal.quote className))] []

/-- The lookup of a class name in a style module. -/
def make (path className loader : Text) : Except NameFault Expr :=
  (Expr.ofName loader).map fun name => expr name path className

/-- The spelling of the only item of a row, if it is a single literal. -/
def soleLiteral? : List (Slot Expr) → Option Text
  | [slot] =>
      match slot.value.stripped with
      | .string literal => some literal
      | _ => none
  | _ => none

/-- The literal for the path, if the expression is a lookup by this loader. -/
def pathLiteral? (e : Expr) (loader : Text) : Option Text :=
  match e.stripped with
  | .subscript value _ _ indices _ =>
      match value.stripped with
      | .call function _ _ arguments _ =>
          if function.isName loader && (soleLiteral? indices).isSome then soleLiteral? arguments
          else none
      | _ => none
  | _ => none

/-- Whether the expression is a lookup by this loader, and of this path if one
is given. -/
def recognizes (e : Expr) (loader : Text) (path : Option Text) : Except LiteralFault Bool :=
  match pathLiteral? e loader with
  | none => .ok false
  | some literal =>
      match path with
      | none => .ok true
      | some path => (Literal.evaluate literal).map (· = .text path)

end Lookup

end ClassMaps
