/-
One pass of the scheduler. It consumes the pending work, selects the windows the next beacons
announce and generates their payload. A pass that fails leaves the payload empty; a pass of a
disabled scheduler clears it and keeps only the wish for a fresh station list.
-/

import RestrictedAccess.Scheduler

namespace RestrictedAccess.Scheduler

open Station

def finishPass (scheduler : Scheduler) : Scheduler :=
  { scheduler with stats := { scheduler.stats with passes := scheduler.stats.passes + 1 } }

def refreshAids (scheduler : Scheduler) : Except Fault Scheduler :=
  match AidList.ofBitmap scheduler.stations with
  | .error fault => .error fault
  | .ok aids =>
      .ok { scheduler with
        registry := scheduler.registry.plain.foldl
          (fun current id => current.modify id (fun window => window.resolveIndices aids))
          scheduler.registry
        aidList := some aids }

/-- Consume the wish for a fresh station list. Stations that just associated have to learn the
schedules, so these are announced for a full burst. -/
def consumeRefresh (scheduler : Scheduler) : Except Fault Scheduler :=
  if scheduler.pending.refreshAids then
    match scheduler.refreshAids with
    | .error fault => .error fault
    | .ok refreshed => .ok { refreshed with burst := refreshed.fullBurst }
  else .ok scheduler

/-- Consume a beacon. Active schedules count it, one that starts over begins a new burst, and the
flag returned tells whether the burst announces periodic windows in this pass. -/
def consumeBeacon (scheduler : Scheduler) : Scheduler × Bool :=
  if scheduler.pending.beaconSent then
    let count := scheduler.registry.countBeacon
    let burst := if count.anyRefreshed then scheduler.fullBurst else scheduler.burst
    ({ scheduler with
        registry := count.registry
        burst := if 0 < burst then burst - 1 else burst
        stats := { scheduler.stats with
          beacons := scheduler.stats.beacons + 1
          expired := scheduler.stats.expired + count.expired.length } },
      0 < burst)
  else (scheduler, false)

/-- The active windows to announce, highest identifier first. Plain windows are always announced
and always accompanied by the periodic ones. -/
def candidates (registry : Registry) (includePeriodic : Bool) : List WindowId :=
  registry.plain.reverse
    ++ (if includePeriodic || !registry.plain.isEmpty then registry.periodic.reverse else [])

def generate (scheduler : Scheduler) (includePeriodic : Bool) : Outcome (Except Fault Unit) :=
  let wanted := candidates scheduler.registry includePeriodic
  let selection := wanted.take scheduler.options.maxAssignments
  let dropped := wanted.drop scheduler.options.maxAssignments
  let (registry, result) := Element.build scheduler.registry selection scheduler.aids
  let notices := dropped.map Notice.assignmentDropped
    ++ Element.buildNotices scheduler.registry selection
  let built := { scheduler with
    registry
    stats := { scheduler.stats with dropped := scheduler.stats.dropped + dropped.length } }
  match result with
  | .ok payload => ⟨{ built with payload }.finishPass, .ok (), notices⟩
  | .error fault => ⟨{ built with payload := [] }, .error fault, notices⟩

def enabledPass (scheduler : Scheduler) : Outcome (Except Fault Unit) :=
  match scheduler.consumeRefresh with
  | .error fault =>
      ⟨{ scheduler with
          payload := []
          pending := { scheduler.pending with refreshAids := false, enabledChanged := false } },
        .error fault, []⟩
  | .ok refreshed =>
      let (counted, includePeriodic) := refreshed.consumeBeacon
      { counted with
        pending := .none
        everyBeacon :=
          !counted.registry.periodic.isEmpty || counted.registry.anyPlainSpreading
        }.generate includePeriodic

def disabledPass (scheduler : Scheduler) : Scheduler :=
  { scheduler with
    pending := { PendingWork.none with refreshAids := scheduler.pending.refreshAids }
    payload := [] }.finishPass

def runPass (scheduler : Scheduler) : Outcome (Except Fault Unit) :=
  if scheduler.enabled then scheduler.enabledPass
  else ⟨scheduler.disabledPass, .ok (), []⟩

end RestrictedAccess.Scheduler
