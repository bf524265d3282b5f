import ClassMaps.Diagnostic
import ClassMaps.Expr.Print
import ClassMaps.Lookup

/-!
# Entries of a class map

An entry gives a class name under a key: a name, a colon and a string
literal.  Its value is replaced by the lookup of the class name in the style
module.  An entry that is such a lookup already is left alone, and an entry of
any other shape is left alone and reported.
-/

set_option autoImplicit false

namespace ClassMaps

/-- Why an entry cannot be judged. -/
inductive EntryFault
  | literal (fault : LiteralFault)
  | name (fault : NameFault)
deriving DecidableEq

/-- What becomes of an entry: the value that replaces its own, if one does, and
the defect, if it has one. -/
structure Judgement where
  value : Option Expr
  diagnostic : Option Diagnostic

namespace Entry

/-- The source of an entry's key, or of what it spreads, as it would be in a module
of its own: without the indentation of the block, and with line feeds for the
module's own line breaks. -/
def keyText : Entry → Text
  | .pair key _ _ _ _ => key.outdented.print (sign '\n')
  | .spread _ value _ => sign '*' ++ sign '*' ++ value.outdented.print (sign '\n')

def malformed (path : Text) (entry : Entry) (position : Position) : Judgement :=
  ⟨none, some ⟨.malformedEntry, some path, keyText entry, position, none⟩⟩

/-- An entry that gives a class name under a name. -/
def named (path loader key className : Text) (position : Position) :
    Except EntryFault Judgement :=
  match Lookup.make path className loader with
  | .error fault => .error (.name fault)
  | .ok value =>
      .ok ⟨some value,
        if className.isEmpty then some ⟨.emptyClassName, some path, key, position, none⟩
        else none⟩

/-- Judges an entry of the class map for `path`, whose value is at `position`. -/
def judge (path loader : Text) (entry : Entry) (position : Position) :
    Except EntryFault Judgement :=
  match entry with
  | .spread _ _ _ => .ok (malformed path entry position)
  | .pair key _ _ value _ =>
      match Lookup.recognizes value loader (some path) with
      | .error fault => .error (.literal fault)
      | .ok true => .ok ⟨none, none⟩
      | .ok false =>
          match value.stringValue with
          | .error fault => .error (.literal fault)
          | .ok none => .ok (malformed path entry position)
          | .ok (some className) =>
              match key.name? with
              | none => .ok (malformed path entry position)
              | some name => named path loader name className position

/-- The entry after its judgement. -/
def apply (entry : Entry) (judgement : Judgement) : Entry :=
  match judgement.value with
  | none => entry
  | some value => entry.withValue value

end Entry

end ClassMaps
