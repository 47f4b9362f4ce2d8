/-
The dispatcher serves many clients of one scheduler. Clients change the scheduler and wake a
worker; the worker runs one pass at a time and hands the payload to the observers. A wake-up that
finds the worker busy is kept as a single permit, so any number of them leads to one more pass.
Each step of a client or of the worker is a function of its own, and the last section puts them
together for callers that wait for the worker.
-/

import RestrictedAccess.Journal
import RestrictedAccess.Scheduler.Operation
import RestrictedAccess.Settings

namespace RestrictedAccess

/-- A receiver of payloads. It sees every payload and may decline it. -/
structure Observer where
  /-- Tells receivers of one name apart. -/
  handle : Nat
  name : String
  respond : List UInt8 → Option Fault

/-- What a pass hands to an observer. It is a payload, or the fault that stopped the pass. -/
structure Delivery where
  observer : Observer
  report : Except Fault (List UInt8)

inductive WorkerPhase
  | waiting
  /-- It took a wake-up and will run a pass. -/
  | due
  /-- It ran a pass and will hand on the result. -/
  | delivering (report : Except Fault (List UInt8))

inductive Request
  | command (command : Command)
  | associate (aid : Aid)
  | disassociate (aid : Aid)
  | beaconSent
  | triggerUpdate (refreshAids : Bool)
  | installProtection (aid : Aid)
  | removeProtection
  deriving DecidableEq

namespace Request

def operation : Request → Operation
  | command asked => .command asked
  | associate aid => .associate aid
  | disassociate aid => .disassociate aid
  | beaconSent => .beaconSent
  | triggerUpdate refreshAids => .triggerUpdate refreshAids
  | installProtection aid => .installProtection aid
  | removeProtection => .removeProtection

/-- Whether a request wakes the worker. A command does so even when it fails; everything else
only when its answer says that a pass is needed. -/
def wakes (request : Request) (answer : Except Fault Answer) : Bool :=
  match request, answer with
  | command _, _ => true
  | _, .ok (.passNeeded needed) => needed
  | _, _ => false

end Request

structure Dispatcher where
  scheduler : Scheduler
  journal : Journal
  observers : List Observer
  permit : Bool
  phase : WorkerPhase
  /-- What observers received, oldest first. -/
  delivered : List Delivery

namespace Dispatcher

/-! ### Steps of clients -/

/-- Change the scheduler as a request asks. The flag tells whether the client goes on to wake the
worker. -/
def change (dispatcher : Dispatcher) (now : Nat) (request : Request) :
    Dispatcher × Except Fault Answer × Bool :=
  let outcome := dispatcher.scheduler.perform request.operation
  ({ dispatcher with
      scheduler := outcome.scheduler
      journal := dispatcher.journal.recordAll now outcome.notices },
    outcome.answer, request.wakes outcome.answer)

def wake (dispatcher : Dispatcher) : Dispatcher :=
  { dispatcher with permit := true }

def addObserver (dispatcher : Dispatcher) (observer : Observer) : Dispatcher :=
  { dispatcher with observers := dispatcher.observers ++ [observer] }

/-- Remove the observers of a name. -/
def removeObserver (dispatcher : Dispatcher) (name : String) : Dispatcher :=
  { dispatcher with
    observers := dispatcher.observers.filter (fun observer => observer.name != name) }

/-! ### Steps of the worker -/

def takePermit (dispatcher : Dispatcher) : Dispatcher :=
  match dispatcher.phase, dispatcher.permit with
  | .waiting, true => { dispatcher with permit := false, phase := .due }
  | _, _ => dispatcher

def runPass (dispatcher : Dispatcher) (now : Nat) : Dispatcher :=
  match dispatcher.phase with
  | .due =>
      let outcome := dispatcher.scheduler.runPass
      { dispatcher with
        scheduler := outcome.scheduler
        journal := dispatcher.journal.recordAll now outcome.notices
        phase := .delivering (outcome.answer.map (fun _ => outcome.scheduler.payload)) }
  | _ => dispatcher

/-- What is reported about a delivery. Declined payloads are reported and change nothing else. -/
def deliveryNotices (observers : List Observer) : Except Fault (List UInt8) → List Notice
  | .error fault => [.passFailed fault]
  | .ok payload =>
      observers.filterMap (fun observer =>
        (observer.respond payload).map (fun fault => .observerFailed observer.name fault))

def deliver (dispatcher : Dispatcher) (now : Nat) : Dispatcher :=
  match dispatcher.phase with
  | .delivering report =>
      { dispatcher with
        phase := .waiting
        delivered := dispatcher.delivered
          ++ dispatcher.observers.map (fun observer => ⟨observer, report⟩)
        journal := dispatcher.journal.recordAll now
          (deliveryNotices dispatcher.observers report) }
  | _ => dispatcher

/-! ### The life of a dispatcher -/

/-- Take over a scheduler. The worker starts with a wake-up, so anything asked for before is
picked up by its first pass. -/
def start (scheduler : Scheduler) (observers : List Observer) : Dispatcher :=
  { scheduler
    journal := .new scheduler.options.noticeInterval scheduler.options.noticeBurst.toNat
    observers
    permit := true
    phase := .waiting
    delivered := [] }

def build (settings : Settings) (observers : List Observer) : Except Fault Dispatcher :=
  match Scheduler.create settings.general.interfaceKind settings.engine.toOptions with
  | .error fault => .error fault
  | .ok scheduler => .ok (start (scheduler.triggerUpdate false).1 observers)

def shutdown (dispatcher : Dispatcher) : Dispatcher :=
  { dispatcher with scheduler := dispatcher.scheduler.teardown }

/-! ### Callers that wait for the worker -/

/-- One client call from start to end. A waiting worker takes the wake-up at once. -/
def call (dispatcher : Dispatcher) (now : Nat) (request : Request) :
    Dispatcher × Except Fault Answer :=
  let (changed, answer, wanted) := dispatcher.change now request
  (if wanted then changed.wake.takePermit else changed, answer)

def turn (dispatcher : Dispatcher) (now : Nat) : Dispatcher :=
  ((dispatcher.takePermit.runPass now).deliver now).takePermit

/-- Let the worker run until it waits without a permit. A pass stores no permit, so two turns are
enough. -/
def settle (dispatcher : Dispatcher) (now : Nat) : Dispatcher :=
  (dispatcher.turn now).turn now

def drained (dispatcher : Dispatcher) : Dispatcher :=
  { dispatcher with delivered := [], journal := dispatcher.journal.drained }

end Dispatcher

end RestrictedAccess
