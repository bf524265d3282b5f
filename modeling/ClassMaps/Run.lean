import ClassMaps.Session

/-!
# Runs

A run walks one module in a fresh session and accounts for it in the log: the
totals, and then each diagnostic.  `transform` goes from source to source and
fails if there was any diagnostic.
-/

set_option autoImplicit false

namespace ClassMaps

/-- What a run gives. -/
structure Outcome where
  module : Module
  diagnostics : List Diagnostic
  resolved : Nat
  records : List Record

namespace Outcome

def code (outcome : Outcome) : Text := outcome.module.code

def isSuccess (outcome : Outcome) : Bool := outcome.diagnostics.isEmpty

/-- The report of the diagnostics, empty if there are none. -/
def report (outcome : Outcome) : Text :=
  if outcome.diagnostics.isEmpty then [] else Diagnostic.report outcome.diagnostics

end Outcome

/-- Why a source is not run to its end. -/
inductive RunFault
  | source (fault : SourceFault)
  | walk (fault : Fault)
deriving DecidableEq

/-- Why a source is not transformed. -/
inductive TransformFault
  | settings (faults : List (Field × FieldFault))
  | run (fault : RunFault)
  | reported (report : Text)
deriving DecidableEq

namespace Run

def summary (resolved diagnostics : Nat) : Record :=
  ⟨.run, .debug,
    text "Rewrote " ++ Text.ofNat resolved ++ text " CSS module expression(s), " ++
      Text.ofNat diagnostics ++ text " diagnostic(s)"⟩

def account (d : Diagnostic) : Record := ⟨.diagnostic, .debug, Markup.escape d.message⟩

def logAll (threshold : Int) : List Record → Walk Unit
  | [] => pure ()
  | record :: rest => do
      Walk.log threshold record
      logAll threshold rest

/-- Walks a module and logs the account of it. -/
def walk (settings : Settings) (threshold : Int) (m : Module) : Walk Module := do
  let walked ← Session.visit settings threshold true m
  let session ← get
  logAll threshold
    (summary session.resolved session.diagnostics.length :: session.diagnostics.map account)
  return walked

/-- Runs a module in a fresh session. -/
def tree (settings : Settings) (threshold : Int) (m : Module) : Except Fault Outcome :=
  match walk settings threshold m Session.fresh with
  | (.error fault, _) => .error fault
  | (.ok walked, s) => .ok ⟨walked, s.diagnostics, s.resolved, s.records⟩

/-- Runs a source. -/
def source (settings : Settings) (threshold : Int) (code : Text) : Except RunFault Outcome :=
  match Module.parse code with
  | .error fault => .error (.source fault)
  | .ok m =>
      match tree settings threshold m with
      | .error fault => .error (.walk fault)
      | .ok outcome => .ok outcome

end Run

/-- The source with its class maps resolved. -/
def transform (code : Text) (tagger loader : Option Given) : Except TransformFault Text :=
  match Settings.ofTruthy tagger loader with
  | .error faults => .error (.settings faults)
  | .ok settings =>
      match Run.source settings Log.standard code with
      | .error fault => .error (.run fault)
      | .ok outcome =>
          if outcome.isSuccess then .ok outcome.code else .error (.reported outcome.report)

/-- Whether the expression is a call that declares a class map for the tagger. -/
def Expr.declares (tagger : Text) (e : Expr) : Bool :=
  match e.stripped with
  | .call function _ _ arguments _ => Call.declares tagger function arguments
  | _ => false

end ClassMaps
