/-
Simulations drive a dispatcher through associations, commands and beacons. They are a client of
their own dispatcher: after every request that schedules a pass they wait for what the pass
delivers, so each beacon carries the payload of the latest pass.
-/

import RestrictedAccess.Dispatcher
import RestrictedAccess.Simulation.Scenario

namespace RestrictedAccess

structure Simulation where
  dispatcher : Dispatcher
  /-- What the waits received, newest first. -/
  received : List (Except Fault (List UInt8))
  /-- The payloads that the beacons carried, newest first. -/
  carried : List (List UInt8)

namespace Simulation

/-- The moment at which everything happens. Time decides only which notices are written, and a
simulation reports none. -/
def moment : Nat := 0

/-- The observer through which a simulation waits for passes. It accepts every payload. -/
def observer : Observer :=
  ⟨0, "simulation", fun _ => none⟩

def ofDispatcher (dispatcher : Dispatcher) : Simulation :=
  ⟨dispatcher, [], []⟩

/-! ### Steps -/

inductive Step
  | firstPass
  | associate (aid : Aid)
  | command (command : Command)
  | beacon
  deriving DecidableEq

def ask (simulation : Simulation) (request : Request) : Simulation × Except Fault Answer :=
  let (dispatcher, answer) := simulation.dispatcher.call moment request
  ({ simulation with dispatcher }, answer)

/-- Wait for the next delivery. A worker that comes to rest without one will never make it. -/
def await (simulation : Simulation) : Simulation × Option Fault :=
  let settled := simulation.dispatcher.settle moment
  match settled.delivered with
  | [] => ({ simulation with dispatcher := settled }, some .passTimedOut)
  | delivery :: rest =>
      ({ simulation with
          dispatcher := { settled with delivered := rest, journal := settled.journal.drained }
          received := delivery.report :: simulation.received },
        none)

def proceed : Simulation × Except Fault Answer → Simulation × Option Fault
  | (simulation, .error fault) => (simulation, some fault)
  | (simulation, .ok (.passNeeded true)) => simulation.await
  | (simulation, .ok _) => (simulation, none)

def carry (simulation : Simulation) : Simulation :=
  { simulation with carried := simulation.dispatcher.scheduler.payload :: simulation.carried }

/-- Take one step. A refused command schedules a pass like any other and does not stop the
simulation; a refused association does. -/
def step (simulation : Simulation) : Step → Simulation × Option Fault
  | .firstPass => simulation.await
  | .associate aid => proceed (simulation.ask (.associate aid))
  | .command command => (simulation.ask (.command command)).1.await
  | .beacon => proceed (simulation.carry.ask .beaconSent)

def run : Simulation → List Step → Simulation × Option Fault
  | simulation, [] => (simulation, none)
  | simulation, first :: rest =>
      match simulation.step first with
      | (next, none) => run next rest
      | (stopped, some fault) => (stopped, some fault)

/-! ### Whole simulations -/

/-- The stations that associate. A scenario without any leaves the stations from one up to a
count. -/
def stationsOf (scenario : Scenario) (count : Nat) : List Aid :=
  if scenario.stations = [] then (List.range count).map (fun index => UInt16.ofNat (index + 1))
  else scenario.stations

def steps (scenario : Scenario) (stationCount beaconCount : Nat) : List Step :=
  .firstPass :: (stationsOf scenario stationCount).map .associate
    ++ scenario.commands.map .command ++ List.replicate beaconCount .beacon

structure Record where
  /-- The payloads that the beacons carried, oldest first. -/
  payloads : List (List UInt8)
  /-- The statistics at the end, unless a step failed. -/
  ending : Except Fault SchedulerStats

def record (settings : Settings) (scenario : Scenario) (stationCount beaconCount : Nat) :
    Record :=
  match Dispatcher.build settings [observer] with
  | .error fault => ⟨[], .error fault⟩
  | .ok dispatcher =>
      let (last, stop) := (ofDispatcher dispatcher).run (steps scenario stationCount beaconCount)
      { payloads := last.carried.reverse
        ending := match stop with
          | none => .ok last.dispatcher.scheduler.stats
          | some fault => .error fault }

end Simulation

end RestrictedAccess
