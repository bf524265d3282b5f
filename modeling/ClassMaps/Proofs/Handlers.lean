import ClassMaps.Console
import Mathlib.Data.List.Basic

/-!
# The handlers of the root logger

The row of handlers is shared with a host, which adds and removes handlers of its
own and sets the threshold.  So nothing is known of the row when a console is put
to use: there may be none or several console handlers in it, anywhere.

Afterwards there is one, for the console in use, at the end.  The removals go
through a copy of the row while the row itself gets shorter; what they have gone
past holds no console handler, and so each removal takes out the handler that it
is at.
-/

set_option autoImplicit false

namespace ClassMaps

namespace Logging

/-- The handlers that do not write to a console. -/
def foreign (logging : Logging) : List Handler :=
  logging.handlers.filter fun handler => !handler.isConsole

/-- Going through the rest of the row takes its console handlers out, if there are
none before it. -/
theorem removeConsoles_eq (rest past : List Handler) (logging : Logging)
    (row : logging.handlers = past ++ rest)
    (free : ∀ handler ∈ past, handler.isConsole = false) :
    removeConsoles rest logging =
      { logging with handlers := past ++ rest.filter fun handler => !handler.isConsole } := by
  induction rest generalizing past logging with
  | nil =>
      obtain ⟨handlers, threshold, active⟩ := logging
      simp only [removeConsoles, List.filter_nil] at row ⊢
      rw [row]
  | cons handler rest ih =>
      rw [removeConsoles]
      by_cases console : handler.isConsole = true
      · have notPast : handler ∉ past := by
          intro member
          rw [free handler member] at console
          cases console
        have taken : (logging.remove handler).handlers = past ++ rest := by
          rw [remove, row, List.erase_append_right _ notPast, List.erase_cons_head]
        rw [if_pos console, ih past (logging.remove handler) taken free]
        simp [remove, console]
      · have plain : handler.isConsole = false := by simpa using console
        have further : ∀ other ∈ past ++ [handler], other.isConsole = false := by
          intro other member
          rcases List.mem_append.mp member with inPast | last
          · exact free other inPast
          · rw [List.mem_singleton.mp last, plain]
        rw [if_neg console, ih (past ++ [handler]) logging (by simp [row]) further]
        simp [plain]

theorem not_mem_foreign (logging : Logging) (serial : Nat) (console : Console) :
    Handler.console serial console ∉ logging.foreign := by
  simp [foreign, Handler.isConsole]

theorem use_eq (logging : Logging) (console : Console) (serial : Nat) :
    logging.use console serial =
      ⟨logging.foreign ++ [.console serial console], Log.standard, console⟩ := by
  have cleared := removeConsoles_eq logging.handlers [] { logging with active := console } rfl
    (by simp)
  rw [use, cleared]
  exact if_neg (logging.not_mem_foreign serial console)

/-! ## Runs -/

/-- What is done to the logging: a console is put to use, or the host adds or
removes a handler or sets the threshold. -/
inductive Action
  | use (console : Console) (serial : Nat)
  | reset (console serial : Nat)
  | add (handler : Handler)
  | remove (handler : Handler)
  | setThreshold (threshold : Int)

/-- The console that an action puts to use. -/
def Action.console? : Action → Option Console
  | .use console _ => some console
  | .reset console _ => some (.standard console)
  | .add _ => none
  | .remove _ => none
  | .setThreshold _ => none

def act (logging : Logging) : Action → Logging
  | .use console serial => logging.use console serial
  | .reset console serial => logging.reset console serial
  | .add handler => logging.add handler
  | .remove handler => logging.remove handler
  | .setThreshold threshold => logging.setThreshold threshold

/-- One action of a run, between what it found and what it left. -/
structure Step where
  before : Logging
  action : Action
  after : Logging

/-- The steps of a run. -/
def steps : Logging → List Action → List Step
  | _, [] => []
  | logging, action :: rest =>
      ⟨logging, action, logging.act action⟩ :: steps (logging.act action) rest

/-- The logging is bound anew: what is logged goes to this console only, once and
after the handlers of other kinds, and these are as they were. -/
structure Rebound (console : Console) (before after : Logging) : Prop where
  active : after.active = console
  one : after.handlers.countP Handler.isConsole = 1
  last : ∃ serial, after.handlers.getLast? = some (.console serial after.active)
  threshold : after.threshold = Level.info.number
  foreign : after.foreign = before.foreign

theorem rebound_use (logging : Logging) (console : Console) (serial : Nat) :
    Rebound console logging (logging.use console serial) := by
  rw [use_eq]
  constructor
  case active => rfl
  case one =>
    have none : logging.foreign.countP Handler.isConsole = 0 := by
      rw [List.countP_eq_zero]
      intro handler member
      simpa [Logging.foreign] using (List.mem_filter.mp member).2
    simp [List.countP_append, none, Handler.isConsole]
  case last => exact ⟨serial, by simp⟩
  case threshold => rfl
  case foreign => simp [Logging.foreign, Handler.isConsole]

theorem rebound_act (logging : Logging) (action : Action) (console : Console)
    (uses : action.console? = some console) : Rebound console logging (logging.act action) := by
  cases action with
  | use given serial =>
      cases uses
      exact logging.rebound_use console serial
  | reset number serial =>
      cases uses
      exact logging.rebound_use (.standard number) serial
  | add handler => cases uses
  | remove handler => cases uses
  | setThreshold threshold => cases uses

theorem act_of_mem_steps (logging : Logging) (actions : List Action) :
    ∀ step ∈ logging.steps actions, step.after = step.before.act step.action := by
  induction actions generalizing logging with
  | nil => simp [steps]
  | cons action rest ih =>
      intro step member
      rcases List.mem_cons.mp member with rfl | later
      · rfl
      · exact ih (logging.act action) step later

end Logging

/-- Whatever handlers there are at first, and whatever is done to them in between:
each time that a console is put to use there is one console handler afterwards, it
is last and writes to the console in use, the threshold is the standard one, and
the other handlers are those that were there before, in their order. -/
theorem Logging.rebound_steps (start : Logging) (actions : List Logging.Action) :
    ∀ step ∈ start.steps actions, ∀ console, step.action.console? = some console →
      Logging.Rebound console step.before step.after := by
  intro step member console uses
  rw [start.act_of_mem_steps actions step member]
  exact step.before.rebound_act step.action console uses

namespace Sample

def memory : Console := ⟨0, 40, .memory 0⟩

/-- Two handlers for one console, one of them there twice, among the host's own. -/
def crowded : Logging :=
  ⟨[.console 0 memory, .foreign 0, .console 1 memory, .console 0 memory, .foreign 1], 0, memory⟩

def changes : List Logging.Action :=
  [.use memory 2, .add (.console 1 memory), .remove (.foreign 0), .add (.foreign 2),
   .setThreshold 0, .reset 1 3]

end Sample

theorem Logging.rebound_steps_sample :
    ∃ step ∈ Sample.crowded.steps Sample.changes,
      step.action.console? = some (.standard 1) ∧
      step.before.handlers =
        [.foreign 1, .console 2 Sample.memory, .console 1 Sample.memory, .foreign 2] ∧
      Logging.Rebound (.standard 1) step.before step.after := by
  have last : 5 < (Sample.crowded.steps Sample.changes).length := by decide
  have member := List.getElem_mem last
  exact ⟨_, member, rfl, rfl,
    Logging.rebound_steps Sample.crowded Sample.changes _ member (.standard 1) rfl⟩

end ClassMaps
