/-
The operations of a scheduler as data. A history is a sequence of operations on a freshly created
scheduler, and the reachable schedulers are those that some history leads to.
-/

import RestrictedAccess.Scheduler.Control
import RestrictedAccess.Scheduler.Pass
import RestrictedAccess.Scheduler.Protection

namespace RestrictedAccess

inductive Operation
  | command (command : Command)
  | associate (aid : Aid)
  | disassociate (aid : Aid)
  | beaconSent
  | triggerUpdate (refreshAids : Bool)
  | pass
  | enable
  | disable
  | setDtimPeriod (period : UInt8)
  | teardown
  | installProtection (aid : Aid)
  | removeProtection
  deriving DecidableEq

inductive Answer
  | done
  | passNeeded (needed : Bool)
  deriving DecidableEq

namespace Scheduler

private def answerDone : Except Fault Unit → Except Fault Answer
  | .ok () => .ok .done
  | .error fault => .error fault

private def answerNeeded : Except Fault Bool → Except Fault Answer
  | .ok needed => .ok (.passNeeded needed)
  | .error fault => .error fault

def perform (scheduler : Scheduler) : Operation → Outcome (Except Fault Answer)
  | .command command =>
      let outcome := scheduler.processCommand command
      ⟨outcome.scheduler, answerDone outcome.answer, outcome.notices⟩
  | .associate aid =>
      let (next, result) := scheduler.stationAssociated aid
      ⟨next, answerNeeded result, []⟩
  | .disassociate aid =>
      let (next, result) := scheduler.stationDisassociated aid
      ⟨next, answerNeeded result, []⟩
  | .beaconSent =>
      let outcome := scheduler.beaconSent
      ⟨outcome.scheduler, .ok (.passNeeded outcome.answer), outcome.notices⟩
  | .triggerUpdate refreshAids =>
      let (next, needed) := scheduler.triggerUpdate refreshAids
      ⟨next, .ok (.passNeeded needed), []⟩
  | .pass =>
      let outcome := scheduler.runPass
      ⟨outcome.scheduler, answerDone outcome.answer, outcome.notices⟩
  | .enable => ⟨scheduler.enable, .ok .done, []⟩
  | .disable => ⟨scheduler.disable, .ok .done, []⟩
  | .setDtimPeriod period => ⟨scheduler.setDtimPeriod period, .ok .done, []⟩
  | .teardown => ⟨scheduler.teardown, .ok .done, []⟩
  | .installProtection aid =>
      let (next, result) := scheduler.installProtection aid
      ⟨next, answerNeeded result, []⟩
  | .removeProtection =>
      let (next, needed) := scheduler.removeProtection
      ⟨next, .ok (.passNeeded needed), []⟩

def after (scheduler : Scheduler) (operation : Operation) : Scheduler :=
  (scheduler.perform operation).scheduler

def afterAll (scheduler : Scheduler) (operations : List Operation) : Scheduler :=
  operations.foldl after scheduler

/-- The schedulers that some history leads to. -/
inductive Reachable : Scheduler → Prop
  | created {kind : InterfaceKind} {options : SchedulerOptions} {scheduler : Scheduler}
      (creation : create kind options = .ok scheduler) : Reachable scheduler
  | performed {scheduler : Scheduler} (operation : Operation)
      (earlier : Reachable scheduler) : Reachable (scheduler.after operation)

end Scheduler

end RestrictedAccess
