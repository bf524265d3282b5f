import ClassMaps.Console.Layout
import ClassMaps.Log

/-!
# Consoles

A console shows messages at a place and in a width.  The handlers of the root
logger are in a row; those that write to a console are told apart from all
others.  A host may put handlers of both kinds there, several of them for one
console, too.  Using a console takes every console handler out of the row, sets
the threshold, and puts a new one for the console at the end.
-/

set_option autoImplicit false

namespace ClassMaps

inductive Sink
  | standard
  | memory (index : Nat)
deriving DecidableEq

/-- A console, told apart from others by its serial number. -/
structure Console where
  serial : Nat
  width : Nat
  sink : Sink
deriving DecidableEq

def Console.standard (serial : Nat) : Console := ⟨serial, 80, .standard⟩

/-- A handler, told apart from others of its kind by its serial number: it writes to
a console or does something else. -/
inductive Handler
  | console (serial : Nat) (target : Console)
  | foreign (serial : Nat)
deriving DecidableEq

namespace Handler

def isConsole : Handler → Bool
  | .console _ _ => true
  | .foreign _ => false

def target? : Handler → Option Console
  | .console _ target => some target
  | .foreign _ => none

end Handler

/-- The handlers of the root logger, its threshold, and the console in use. -/
structure Logging where
  handlers : List Handler
  threshold : Int
  active : Console

structure Output where
  console : Console
  content : Text

namespace Logging

/-- Takes a handler out where it is first. -/
def remove (logging : Logging) (handler : Handler) : Logging :=
  { logging with handlers := logging.handlers.erase handler }

/-- Puts a handler at the end, unless it is there. -/
def add (logging : Logging) (handler : Handler) : Logging :=
  if handler ∈ logging.handlers then logging
  else { logging with handlers := logging.handlers ++ [handler] }

def setThreshold (logging : Logging) (threshold : Int) : Logging :=
  { logging with threshold := threshold }

/-- Takes the console handlers of a row out, one after the other. -/
def removeConsoles : List Handler → Logging → Logging
  | [], logging => logging
  | handler :: rest, logging =>
      removeConsoles rest (if handler.isConsole then logging.remove handler else logging)

/-- Uses a console from now on, through a new handler with this serial number. -/
def use (logging : Logging) (console : Console) (serial : Nat) : Logging :=
  let cleared := removeConsoles logging.handlers { logging with active := console }
  (cleared.setThreshold Log.standard).add (.console serial console)

/-- Uses a new console on standard output from now on. -/
def reset (logging : Logging) (console serial : Nat) : Logging :=
  logging.use (.standard console) serial

/-- The consoles that handlers write to, in their order. -/
def targets (logging : Logging) : List Console := logging.handlers.filterMap Handler.target?

/-- Whether all that is logged goes to the console in use, once. -/
def isBound (logging : Logging) : Bool := logging.targets = [logging.active]

/-- Logs a message at a level. -/
def log (logging : Logging) (level : Level) (message : Text) : Except MarkupFault (List Output) :=
  if level.number < logging.threshold then .ok []
  else
    match Markup.render message with
    | .error fault => .error fault
    | .ok shown =>
        .ok (logging.targets.map fun console =>
          ⟨console, Layout.block console.width level.name shown⟩)

end Logging

end ClassMaps
