import ClassMaps.Expr

/-!
# The calls of a tree

All calls inside a tree, each before the calls inside it, and otherwise in
source order.
-/

set_option autoImplicit false

namespace ClassMaps

mutual

def Expr.calls : Expr → List Expr
  | .name _ => []
  | .string _ => []
  | .formatted parts => Part.callsAll parts
  | .concat left _ right => left.calls ++ right.calls
  | .call function gap opening arguments closing =>
      .call function gap opening arguments closing :: (function.calls ++ Slot.callsAll arguments)
  | .subscript value _ _ indices _ => value.calls ++ Slot.callsAll indices
  | .dict _ elements _ => Element.callsAll elements
  | .other _ parts => Part.callsAll parts
  | .paren _ inner _ => inner.calls

def Slot.callsAll : List (Slot Expr) → List Expr
  | [] => []
  | ⟨_, value, _⟩ :: rest => value.calls ++ Slot.callsAll rest

def Element.callsAll : List (Element Expr) → List Expr
  | [] => []
  | .pair key _ _ value _ :: rest => key.calls ++ value.calls ++ Element.callsAll rest
  | .spread _ value _ :: rest => value.calls ++ Element.callsAll rest

def Part.callsAll : List (Part Expr) → List Expr
  | [] => []
  | .gap _ :: rest => Part.callsAll rest
  | .token _ :: rest => Part.callsAll rest
  | .expr value :: rest => value.calls ++ Part.callsAll rest

end

end ClassMaps
