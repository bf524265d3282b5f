import ClassMaps.Console.Markup

/-!
# Log records

A record has an origin, a level and a message.  It is passed on if its level
reaches the threshold, and then its message must be sound markup, since the
console that shows it reads it so.
-/

set_option autoImplicit false

namespace ClassMaps

inductive Level
  | debug
  | info
  | success
  | warning
  | error
deriving DecidableEq

namespace Level

def number : Level → Int
  | .debug => 10
  | .info => 20
  | .success => 25
  | .warning => 30
  | .error => 40

def name : Level → Text
  | .debug => text "DEBUG"
  | .info => text "INFO"
  | .success => text "SUCCESS"
  | .warning => text "WARNING"
  | .error => text "ERROR"

end Level

/-- Which part of a run a record comes from: one class map, the run as a whole,
or the account of a diagnostic. -/
inductive Origin
  | classMap
  | run
  | diagnostic
deriving DecidableEq

structure Record where
  origin : Origin
  level : Level
  message : Text
deriving DecidableEq

namespace Log

/-- The threshold that a console sets. -/
def standard : Int := Level.info.number

/-- The records after one more. -/
def add (threshold : Int) (records : List Record) (record : Record) :
    Except MarkupFault (List Record) :=
  if threshold ≤ record.level.number then
    (Markup.render record.message).map fun _ => records ++ [record]
  else .ok records

end Log

end ClassMaps
