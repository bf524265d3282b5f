import ClassMaps.Token.Scan
import ClassMaps.Grammar.Python

/-!
# Modules

A module is a row of gaps, tokens and expressions, together with the line
break that its source uses first.  Parsing keeps all of a source but a leading
byte order mark.
-/

set_option autoImplicit false

namespace ClassMaps

structure Module where
  newline : Text
  parts : List (Part Expr)

/-- The module as source text. -/
def Module.code (m : Module) : Text := Part.printAll m.newline m.parts

/-- Why a source is not read. -/
inductive SourceFault
  | surrogate
  | grammar
  | mixedStrings
deriving DecidableEq

/-- The message of a fault that has one of its own. -/
def SourceFault.message? : SourceFault → Option Text
  | .mixedStrings => some (text "Cannot concatenate string and bytes.")
  | _ => none

namespace Source

/-- The first line break of a source, or a line feed if it has none. -/
def newlineOf : Text → Text
  | [] => sign '\n'
  | c :: rest =>
      if c.isBreak then (c :: rest).take (Text.breakLength (c :: rest)) else newlineOf rest

/-- A source without its byte order mark. -/
def withoutMark : Text → Text
  | [] => []
  | c :: rest => if c.val = 0xFEFF then rest else c :: rest

/-- What a grammar reads in a whole source. -/
def read (start : Grammar Python.Rule) (source : Text) : Except SourceFault (List Fragment) :=
  if Text.hasSurrogate source then .error .surrogate
  else
    match Token.scan? (newlineOf source) source with
    | none => .error .grammar
    | some tokens =>
        match Grammar.read? Python.rules start tokens with
        | some (row, []) => if Token.mixesBytes tokens then .error .mixedStrings else .ok row
        | _ => .error .grammar

end Source

/-- The module of a source. -/
def Module.parse (source : Text) : Except SourceFault Module :=
  let kept := Source.withoutMark source
  (Source.read Python.file kept).map fun row =>
    ⟨Source.newlineOf kept, Fragment.allParts row⟩

/-- A module of one statement. -/
def Module.parseStatement (source : Text) : Except SourceFault Module :=
  (Source.read Python.oneStatement source).map fun row =>
    ⟨Source.newlineOf source, Fragment.allParts row⟩

namespace Expr

/-- The first expression of a row. -/
def first? : List Fragment → Option Expr
  | [] => none
  | .expr e :: _ => some e
  | _ :: rest => first? rest

/-- The expression of a source that holds nothing else. -/
def parse (source : Text) : Except SourceFault Expr :=
  match Source.read Python.oneExpression source with
  | .error fault => .error fault
  | .ok row =>
      match first? row with
      | none => .error .grammar
      | some e => .ok e

end Expr

end ClassMaps
