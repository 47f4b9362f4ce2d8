/-
The configuration of one restricted access window: the stations it covers, its slots, when it
starts, and the optional periodic and spreading behaviour with their running state. Configured
values and running values stand side by side; which operation may touch which is the business of
the modules that own the operation.
-/

import RestrictedAccess.Slot
import RestrictedAccess.Station.AidList

namespace RestrictedAccess

open Station

/-- A window that recurs every few beacons and lapses after a number of periods. -/
structure PeriodicSchedule where
  /-- Beacons from one occurrence to the next. -/
  periodicity : UInt8
  /-- Periods until the schedule lapses. -/
  validity : UInt8
  /-- Beacons until the first occurrence. -/
  startOffset : UInt8
  /-- Periods left of the current validity. -/
  validityLeft : UInt8
  /-- Beacons left until the next occurrence. -/
  offsetLeft : UInt8
  refreshes : Bool
  deriving DecidableEq

namespace PeriodicSchedule

def new (periodicity validity startOffset : UInt8) (refreshes : Bool) : PeriodicSchedule :=
  ⟨periodicity, validity, startOffset, validity, startOffset, refreshes⟩

def reset (schedule : PeriodicSchedule) : PeriodicSchedule :=
  { schedule with validityLeft := schedule.validity, offsetLeft := schedule.startOffset }

/-- The countdown of a schedule can only complete periods under these conditions. -/
def isValid (schedule : PeriodicSchedule) : Bool :=
  0 < schedule.periodicity && 0 < schedule.validity
    && schedule.startOffset < schedule.periodicity

end PeriodicSchedule

structure Spreading where
  /-- The most beacons to spread over. Zero sets no limit. -/
  maxSpread : UInt16
  /-- The intended number of stations in each beacon. Zero turns spreading off. -/
  nominal : UInt16
  /-- The last station that an earlier beacon included. -/
  lastAid : Aid
  deriving DecidableEq

namespace Spreading

def new (maxSpread nominal : UInt16) : Spreading :=
  ⟨maxSpread, nominal, 0⟩

def isEnabled (spreading : Spreading) : Bool :=
  0 < spreading.nominal

end Spreading

structure WindowConfig where
  id : WindowId
  kind : WindowKind
  startAid : Aid
  /-- The last identifier of the range, which is part of it. -/
  endAid : Aid
  /-- The slice of the station list that the range was last resolved to. -/
  indices : IndexPair
  startTime : UInt32
  slot : SlotDefinition
  periodic : Option PeriodicSchedule
  spreading : Option Spreading
  deriving DecidableEq

namespace WindowConfig

def empty (id : WindowId) : WindowConfig :=
  { id
    kind := .generic
    startAid := 0
    endAid := 0
    indices := .unresolved
    startTime := 0
    slot := .empty
    periodic := none
    spreading := none }

def generic (id : WindowId) (startAid endAid : Aid) (slot : SlotDefinition) : WindowConfig :=
  { empty id with startAid, endAid, slot }

def isValid (window : WindowConfig) : Bool :=
  0 < window.slot.duration && 0 < window.startAid && 0 < window.endAid
    && window.periodic.all PeriodicSchedule.isValid

def isPeriodic (window : WindowConfig) : Bool :=
  window.periodic.isSome

def usesSpreading (window : WindowConfig) : Bool :=
  window.spreading.any Spreading.isEnabled

/-- Cache the slice that the window's range covers. Only spread windows use it. -/
def resolveIndices (window : WindowConfig) (aids : AidList) : WindowConfig :=
  if window.usesSpreading then
    { window with indices := aids.resolve window.startAid window.endAid }
  else window

end WindowConfig

end RestrictedAccess
