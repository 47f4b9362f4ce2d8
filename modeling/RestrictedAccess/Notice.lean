/-
What the engine reports besides its results. Notices are values: an operation returns the notices
it gives rise to, and a journal decides which of the repeated ones are written.
-/

import RestrictedAccess.Fault

namespace RestrictedAccess

inductive SettingsWarning
  | assignmentsMayExceedElement (count : Nat)
  | retransmissionDisabled
  | warningsSuppressed
  deriving DecidableEq

namespace SettingsWarning

def message : SettingsWarning → String
  | assignmentsMayExceedElement count =>
      s!"Max assignments {count} may exceed the RPS element size limit"
  | retransmissionDisabled =>
      "PRAW retransmission disabled, PRAW-only setups will never be advertised"
  | warningsSuppressed => "Warning burst is 0, rate limited warnings are suppressed"

end SettingsWarning

inductive Notice
  | slotTooShort
  | slotCountCapped (count limit : Nat)
  | slotDurationCapped (units duration limit limitDuration : Nat)
  | startTimeCapped (duration : Nat)
  | elementTooLong (size : Nat)
  | enableWithoutWindow (id : WindowId)
  | commandFailed (id : WindowId) (fault : Fault)
  | beaconOverrun
  | assignmentDropped (id : WindowId)
  | messagesSuppressed (count : Nat)
  | observerFailed (name : String) (fault : Fault)
  | passFailed (fault : Fault)
  | settings (warning : SettingsWarning)
  deriving DecidableEq

namespace Notice

/-- Notices that may arise with every beacon and are therefore limited in rate. -/
def isRateLimited : Notice → Bool
  | beaconOverrun => true
  | assignmentDropped _ => true
  | _ => false

def message : Notice → String
  | slotTooShort => "RAW slot duration too short, setting to 500us"
  | slotCountCapped count limit => s!"Too many slots: {count}, capping to {limit}"
  | slotDurationCapped units duration limit limitDuration =>
      s!"Slot duration too long: {units} ({duration}us), capping to {limit} ({limitDuration}us)"
  | startTimeCapped duration => s!"RAW start time {duration}us too large, capping"
  | elementTooLong size => s!"RPS IE size {size} exceeds element limit of 255"
  | enableWithoutWindow id => s!"Trying to enable RAW {id} without configuration"
  | commandFailed id fault => s!"RAW command {id} failed: {fault.message}"
  | beaconOverrun => "Beacon sent before the previous RAW update completed"
  | assignmentDropped id => s!"Too many active RAW assignments, ID {id} not included"
  | messagesSuppressed count => s!"{count} messages suppressed"
  | observerFailed name fault => s!"Observer {name} failed: {fault.message}"
  | passFailed fault => s!"RAW update failed: {fault.message}"
  | settings warning => warning.message

end Notice

end RestrictedAccess
