/-
A simulation that shares its time with the worker. It changes the scheduler in one step, wakes the
worker in another and then waits, and between any two steps of either the other one may take some
of its own. A list of turns is one such interleaving.
-/

import RestrictedAccess.Simulation

namespace RestrictedAccess.Simulation

/-- What a simulation does in its next turn. -/
inductive Stage
  | ready
  /-- It has taken down the payload of a beacon and is about to report the beacon. -/
  | reporting
  | waking
  | waiting
  | stopped (fault : Fault)

structure Session where
  simulation : Simulation
  stage : Stage
  /-- The steps that it has not begun. -/
  left : List Step

inductive Turn
  | simulation
  | takePermit
  | runPass
  | deliver

namespace Session

def begin (dispatcher : Dispatcher) (steps : List Step) : Session :=
  ⟨ofDispatcher dispatcher, .ready, steps⟩

/-- Change the scheduler. Only a request that fails without waking the worker ends the session. -/
def request (session : Session) (request : Request) : Session :=
  let (dispatcher, answer, wakes) := session.simulation.dispatcher.change moment request
  { session with
    simulation := { session.simulation with dispatcher }
    stage :=
      if wakes then .waking
      else match answer with
        | .error fault => .stopped fault
        | .ok _ => .ready }

/-- Take what was delivered, or go on waiting. -/
def receive (session : Session) : Session :=
  let dispatcher := session.simulation.dispatcher
  match dispatcher.delivered with
  | [] => session
  | delivery :: rest =>
      { session with
        simulation := { session.simulation with
          dispatcher := { dispatcher with delivered := rest, journal := dispatcher.journal.drained }
          received := delivery.report :: session.simulation.received }
        stage := .ready }

def start (session : Session) : List Step → Session
  | [] => session
  | .firstPass :: left => { session with stage := .waiting, left }
  | .associate aid :: left => { session with left }.request (.associate aid)
  | .command asked :: left => { session with left }.request (.command asked)
  | .beacon :: left => ⟨session.simulation.carry, .reporting, left⟩

def advance (session : Session) : Session :=
  match session.stage with
  | .ready => session.start session.left
  | .reporting => session.request .beaconSent
  | .waking =>
      { session with
        simulation := { session.simulation with dispatcher := session.simulation.dispatcher.wake }
        stage := .waiting }
  | .waiting => session.receive
  | .stopped _ => session

def work (session : Session) (job : Dispatcher → Dispatcher) : Session :=
  { session with
    simulation := { session.simulation with dispatcher := job session.simulation.dispatcher } }

def after (session : Session) : Turn → Session
  | .simulation => session.advance
  | .takePermit => session.work Dispatcher.takePermit
  | .runPass => session.work (fun dispatcher => dispatcher.runPass moment)
  | .deliver => session.work (fun dispatcher => dispatcher.deliver moment)

def afterAll (session : Session) (turns : List Turn) : Session :=
  turns.foldl after session

/-- The simulation has taken all its steps, and none of them failed. -/
structure Finished (session : Session) : Prop where
  ready : session.stage = .ready
  noneLeft : session.left = []

/-- Neither the simulation nor the worker can go on. -/
def AtRest (session : Session) : Prop :=
  ∀ turn, session.after turn = session

end Session

end RestrictedAccess.Simulation
