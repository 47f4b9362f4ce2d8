/-
A dispatcher among its clients. A call changes the scheduler in one step and wakes the worker, if it
has to, in another one, and between the two other clients and the worker take their own steps. A
list of events is one such interleaving, of any number of clients.
-/

import RestrictedAccess.Dispatcher

namespace RestrictedAccess

structure Service where
  dispatcher : Dispatcher
  /-- The clients that have changed the scheduler and are about to wake the worker. -/
  waking : List Nat

namespace Service

inductive Event
  | change (client now : Nat) (request : Request)
  | wake (client : Nat)
  | takePermit
  | runPass (now : Nat)
  | deliver (now : Nat)
  | addObserver (observer : Observer)
  | removeObserver (name : String)

def ofDispatcher (dispatcher : Dispatcher) : Service :=
  ⟨dispatcher, []⟩

/-- A client makes one call at a time, so it changes nothing while it is about to wake the worker. -/
def change (service : Service) (client now : Nat) (request : Request) : Service :=
  if client ∈ service.waking then service
  else
    let (dispatcher, _, wakes) := service.dispatcher.change now request
    { dispatcher
      waking := if wakes then client :: service.waking else service.waking }

def wake (service : Service) (client : Nat) : Service :=
  if client ∈ service.waking then
    { dispatcher := service.dispatcher.wake
      waking := service.waking.erase client }
  else service

def after (service : Service) : Event → Service
  | .change client now request => service.change client now request
  | .wake client => service.wake client
  | .takePermit => { service with dispatcher := service.dispatcher.takePermit }
  | .runPass now => { service with dispatcher := service.dispatcher.runPass now }
  | .deliver now => { service with dispatcher := service.dispatcher.deliver now }
  | .addObserver observer =>
      { service with dispatcher := service.dispatcher.addObserver observer }
  | .removeObserver name => { service with dispatcher := service.dispatcher.removeObserver name }

def afterAll (service : Service) (events : List Event) : Service :=
  events.foldl after service

/-- The worker waits without a permit, and no client is about to wake it. -/
structure AtRest (service : Service) : Prop where
  waiting : service.dispatcher.phase = .waiting
  noPermit : service.dispatcher.permit = false
  noWaking : service.waking = []

end Service

namespace Dispatcher

/-- What was delivered last to any of some observers. -/
def lastReportAmong? (dispatcher : Dispatcher) (receivers : Observer → Bool) :
    Option (Except Fault (List UInt8)) :=
  (dispatcher.delivered.reverse.find? (fun delivery => receivers delivery.observer)).map
    Delivery.report

/-- What the observers of a name received last. -/
def lastReport? (dispatcher : Dispatcher) (name : String) :
    Option (Except Fault (List UInt8)) :=
  dispatcher.lastReportAmong? (fun observer => observer.name = name)

/-- What an observer itself received last, whatever others go by its name. -/
def lastReportTo? (dispatcher : Dispatcher) (observer : Observer) :
    Option (Except Fault (List UInt8)) :=
  dispatcher.lastReportAmong? (fun receiver => receiver.handle = observer.handle)

end Dispatcher

end RestrictedAccess
