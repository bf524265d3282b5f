import ClassMaps.Position

/-!
# Diagnostics

A defect of a class map, or of the expression around one, with the place of
the offending piece of source.
-/

set_option autoImplicit false

namespace ClassMaps

inductive Defect
  | emptyClassName
  | malformedEntry
  | malformedExpression
deriving DecidableEq

namespace Defect

def name : Defect → Text
  | .emptyClassName => text "empty_classname"
  | .malformedEntry => text "malformed_entry"
  | .malformedExpression => text "malformed_expression"

def ofName? (name : Text) : Option Defect :=
  [emptyClassName, malformedEntry, malformedExpression].find? (·.name = name)

end Defect

/-- `key` is the source of the entry's key, or the tagger's name for a defect
of the expression; `path` is the path of the style module if it could be
read; `detail` is the reason, if one is given. -/
structure Diagnostic where
  defect : Defect
  path : Option Text
  key : Text
  position : Position
  detail : Option Text
deriving DecidableEq

namespace Diagnostic

/-- A text that may be missing. -/
def shown : Option Text → Text
  | none => text "None"
  | some t => t

def location (p : Position) : Text :=
  sign '(' ++ Text.ofInt p.line ++ sign ',' ++ Text.ofInt p.column ++ sign ')'

def message (d : Diagnostic) : Text :=
  match d.defect with
  | .emptyClassName =>
      text "classname for module '" ++ shown d.path ++ text "' with key '" ++ d.key ++
        text "' contained an empty string " ++ location d.position
  | .malformedEntry =>
      text "classname for module '" ++ shown d.path ++ text "' with key '" ++ d.key ++
        text "' is not a string literal " ++ location d.position
  | .malformedExpression =>
      text "CSS module expression for tagger '" ++ d.key ++ text "' is malformed: " ++
        shown d.detail ++ sign ' ' ++ location d.position

def header : Text := text "elm-css-modules-plugin:"

/-- The header, and a line for each diagnostic after a tab. -/
def report (ds : List Diagnostic) : Text :=
  header ++ text "\n\t" ++ Text.join (text "\n\t") (ds.map message)

/-- No field of a diagnostic can be set: what an attempt is answered with. -/
def refusal (field : Text) : Text :=
  text "cannot assign to field '" ++ field ++ sign '\''

/-- The pairs of places at which equal diagnostics stand, the earlier first. -/
def equalPairs (ds : List Diagnostic) : List (Nat × Nat) :=
  ds.zipIdx.flatMap fun (d, i) =>
    (ds.zipIdx.filter fun (e, j) => i < j && d = e).map fun (_, j) => (i, j)

end Diagnostic

end ClassMaps
