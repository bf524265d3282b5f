import ClassMaps.Lookup

/-!
# Renaming

Every name of a tree, keyword arguments included, is looked up once in a list
of changes.  A name that a change brings in must be an identifier.
-/

set_option autoImplicit false

namespace ClassMaps

/-- Old names with their new ones. -/
abbrev Renaming := List (Text × Text)

namespace Renaming

/-- The name after its change. -/
def apply (changes : Renaming) (name : Text) : Except NameFault Text :=
  match changes.find? (·.1 = name) with
  | none => .ok name
  | some (_, new) => (Expr.ofName new).map fun _ => new

def applyMark (changes : Renaming) : Mark → Except NameFault Mark
  | .keyword name before after => do return .keyword (← changes.apply name) before after
  | mark => .ok mark

end Renaming

mutual

def Expr.rename (changes : Renaming) : Expr → Except NameFault Expr
  | .name text => do return .name (← changes.apply text)
  | .string text => .ok (.string text)
  | .formatted parts => do return .formatted (← Part.renameAll changes parts)
  | .concat left gap right => do
      let left' ← left.rename changes
      return .concat left' gap (← right.rename changes)
  | .call function gap opening arguments closing => do
      let function' ← function.rename changes
      return .call function' gap opening (← Slot.renameAll changes arguments) closing
  | .subscript value gap opening indices closing => do
      let value' ← value.rename changes
      return .subscript value' gap opening (← Slot.renameAll changes indices) closing
  | .dict opening elements closing => do
      return .dict opening (← Element.renameAll changes elements) closing
  | .other form parts => do return .other form (← Part.renameAll changes parts)
  | .paren opening inner closing => do
      return .paren opening (← inner.rename changes) closing

def Slot.renameAll (changes : Renaming) : List (Slot Expr) → Except NameFault (List (Slot Expr))
  | [] => .ok []
  | ⟨mark, value, comma⟩ :: rest => do
      let mark' ← changes.applyMark mark
      let value' ← value.rename changes
      return ⟨mark', value', comma⟩ :: (← Slot.renameAll changes rest)

def Element.renameAll (changes : Renaming) :
    List (Element Expr) → Except NameFault (List (Element Expr))
  | [] => .ok []
  | .pair key before after value comma :: rest => do
      let key' ← key.rename changes
      let value' ← value.rename changes
      return .pair key' before after value' comma :: (← Element.renameAll changes rest)
  | .spread gap value comma :: rest => do
      let value' ← value.rename changes
      return .spread gap value' comma :: (← Element.renameAll changes rest)

def Part.renameAll (changes : Renaming) : List (Part Expr) → Except NameFault (List (Part Expr))
  | [] => .ok []
  | .gap trivia :: rest => do return .gap trivia :: (← Part.renameAll changes rest)
  | .token text :: rest => do return .token text :: (← Part.renameAll changes rest)
  | .expr value :: rest => do
      let value' ← value.rename changes
      return .expr value' :: (← Part.renameAll changes rest)

end

end ClassMaps
