/-
The scheduler of one access point interface: its windows, its stations, the element payload that
beacons currently carry, and the work that the next pass has to consume. It is a plain value;
every operation returns the scheduler that follows, the answer to its caller and the notices it
gives rise to.
-/

import RestrictedAccess.Element.ParameterSet

namespace RestrictedAccess

open Station

structure SchedulerOptions where
  enabled : Bool
  /-- Beacons in a DTIM period. -/
  dtimPeriod : UInt8
  /-- DTIM periods for which periodic windows are announced after a change. -/
  announcedDtims : UInt16
  maxAssignments : Nat
  /-- The window of the rate limit on notices, in milliseconds. -/
  noticeInterval : Nat
  noticeBurst : UInt32
  deriving DecidableEq

namespace SchedulerOptions

def standard : SchedulerOptions :=
  { enabled := false
    dtimPeriod := 1
    announcedDtims := 10
    maxAssignments := 32
    noticeInterval := 5000
    noticeBurst := 10 }

end SchedulerOptions

/-- Work that the next pass has to consume. -/
structure PendingWork where
  /-- The set of stations changed, so their list has to be made anew. -/
  refreshAids : Bool
  /-- A beacon was sent, so the schedules have to count it. -/
  beaconSent : Bool
  enabledChanged : Bool
  deriving DecidableEq

namespace PendingWork

def none : PendingWork :=
  ⟨false, false, false⟩

def names (pending : PendingWork) : List String :=
  (if pending.beaconSent then ["BeaconSent"] else [])
    ++ (if pending.enabledChanged then ["EnabledChanged"] else [])
    ++ (if pending.refreshAids then ["RefreshAids"] else [])

end PendingWork

structure SchedulerStats where
  passes : Nat
  beacons : Nat
  /-- Active windows that found no room in the element, summed over all passes. -/
  dropped : Nat
  expired : Nat
  deriving DecidableEq

namespace SchedulerStats

def zero : SchedulerStats :=
  ⟨0, 0, 0, 0⟩

end SchedulerStats

structure Scheduler where
  options : SchedulerOptions
  registry : Registry
  stations : Bitmap
  /-- The list made by the last refresh, if there was one. -/
  aidList : Option AidList
  payload : List UInt8
  /-- Beacons for which periodic windows are still announced on their own. -/
  burst : UInt16
  pending : PendingWork
  enabled : Bool
  /-- Whether the payload can change with every beacon. -/
  everyBeacon : Bool
  stats : SchedulerStats

structure Outcome (α : Type) where
  scheduler : Scheduler
  answer : α
  notices : List Notice

namespace Scheduler

def aids (scheduler : Scheduler) : AidList :=
  scheduler.aidList.getD .empty

def enable (scheduler : Scheduler) : Scheduler :=
  if scheduler.enabled then scheduler
  else
    { scheduler with
      enabled := true
      pending := { scheduler.pending with enabledChanged := true } }

/-- Disable the scheduler. The next pass clears the payload. -/
def disable (scheduler : Scheduler) : Scheduler :=
  if scheduler.enabled then
    { scheduler with
      enabled := false
      pending := { scheduler.pending with enabledChanged := true } }
  else scheduler

/-- Create a scheduler. Only access points carry one, and its element must have room. -/
def create (kind : InterfaceKind) (options : SchedulerOptions) : Except Fault Scheduler :=
  if kind ≠ .accessPoint then .error (.interfaceUnsupported kind)
  else if options.maxAssignments = 0 then .error .noAssignmentRoom
  else
    let scheduler : Scheduler :=
      { options
        registry := .empty
        stations := .empty
        aidList := none
        payload := []
        burst := 0
        pending := .none
        enabled := false
        everyBeacon := false
        stats := .zero }
    .ok (if options.enabled then scheduler.enable else scheduler)

/-- Ask for a pass, and tell whether one is needed. While disabled, only a change of the enabled
state is worth a pass. -/
def triggerUpdate (scheduler : Scheduler) (refreshAids : Bool) : Scheduler × Bool :=
  if scheduler.enabled then
    if scheduler.aidList.isNone || refreshAids then
      ({ scheduler with pending := { scheduler.pending with refreshAids := true } }, true)
    else (scheduler, true)
  else (scheduler, scheduler.pending.enabledChanged)

/-! ### Stations -/

/-- Note a change of the set of stations. The list is made anew on the next enabled pass, also
after changes made while the scheduler is disabled. -/
def membershipChanged (scheduler : Scheduler) : Scheduler × Bool :=
  { scheduler with
    pending := { scheduler.pending with refreshAids := true } }.triggerUpdate true

/-- Take over a changed set of stations, or ignore a notice that changed nothing. -/
def takeStations (scheduler : Scheduler) :
    Except Fault (Bitmap × Bool) → Scheduler × Except Fault Bool
  | .error fault => (scheduler, .error fault)
  | .ok (stations, changed) =>
      if changed then
        let (next, needed) := { scheduler with stations }.membershipChanged
        (next, .ok needed)
      else (scheduler, .ok false)

def stationAssociated (scheduler : Scheduler) (aid : Aid) : Scheduler × Except Fault Bool :=
  scheduler.takeStations (scheduler.stations.insert aid)

def stationDisassociated (scheduler : Scheduler) (aid : Aid) : Scheduler × Except Fault Bool :=
  scheduler.takeStations (scheduler.stations.erase aid)

/-! ### Beacons -/

/-- Record that a beacon was sent, and tell whether a pass is needed. A beacon that finds the one
before it unconsumed is reported. -/
def beaconSent (scheduler : Scheduler) : Outcome Bool :=
  if scheduler.enabled && scheduler.everyBeacon then
    { scheduler :=
        { scheduler with pending := { scheduler.pending with beaconSent := true } }
      answer := true
      notices := if scheduler.pending.beaconSent then [.beaconOverrun] else [] }
  else ⟨scheduler, false, []⟩

def fullBurst (scheduler : Scheduler) : UInt16 :=
  UInt16.ofNat
    (min (scheduler.options.dtimPeriod.toNat * scheduler.options.announcedDtims.toNat) 65535)

/-! ### The remaining operations -/

/-- Set the DTIM period, which is at least one beacon. -/
def setDtimPeriod (scheduler : Scheduler) (period : UInt8) : Scheduler :=
  { scheduler with
    options := { scheduler.options with dtimPeriod := if period = 0 then 1 else period } }

def teardown (scheduler : Scheduler) : Scheduler :=
  { scheduler with
    enabled := false
    everyBeacon := false
    pending := .none
    payload := []
    registry := .empty }

end Scheduler

end RestrictedAccess
