import ClassMaps.Expr

/-!
# Targets

Which expressions may stand where a value is bound or deleted.  The grammar
reads a target as an expression first and then asks here.
-/

set_option autoImplicit false

namespace ClassMaps

namespace Expr

/-- The names that stand for values of their own. -/
def constants : List Text := [text "None", text "True", text "False"]

mutual

/-- A name, an attribute, a subscript, or a row of targets, of which any may be
starred. -/
def isTarget : Expr → Bool
  | .name text => !constants.contains text
  | .subscript _ _ _ _ _ => true
  | .paren _ inner _ => inner.isTarget
  | .other .attribute _ => true
  | .other .tuple parts => areTargets parts
  | .other .list parts => areTargets parts
  | .other .starred parts => areTargets parts
  | _ => false

def areTargets : List (Part Expr) → Bool
  | [] => true
  | .expr value :: rest => value.isTarget && areTargets rest
  | .gap _ :: rest => areTargets rest
  | .token _ :: rest => areTargets rest

end

mutual

/-- A target without stars. -/
def isDeletable : Expr → Bool
  | .name text => !constants.contains text
  | .subscript _ _ _ _ _ => true
  | .paren _ inner _ => inner.isDeletable
  | .other .attribute _ => true
  | .other .tuple parts => areDeletable parts
  | .other .list parts => areDeletable parts
  | _ => false

def areDeletable : List (Part Expr) → Bool
  | [] => true
  | .expr value :: rest => value.isDeletable && areDeletable rest
  | .gap _ :: rest => areDeletable rest
  | .token _ :: rest => areDeletable rest

end

/-- A name, an attribute or a subscript without parentheses. -/
def isAnnotatable : Expr → Bool
  | .name text => !constants.contains text
  | .subscript _ _ _ _ _ => true
  | .other .attribute _ => true
  | _ => false

/-- A name, an attribute or a subscript. -/
def isSingleTarget (e : Expr) : Bool := e.stripped.isAnnotatable

end Expr

end ClassMaps
