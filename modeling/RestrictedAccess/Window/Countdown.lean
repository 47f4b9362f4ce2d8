/-
The countdown of a periodic schedule. A beacon moves the offset one step towards the next
occurrence; each return to the configured offset ends a period, and the end of the last period
ends the schedule, which then either lapses or starts over.
-/

import RestrictedAccess.Window

namespace RestrictedAccess

inductive CountdownEvent
  | running
  | periodElapsed
  | expired
  | refreshed
  deriving DecidableEq

namespace CountdownEvent

def name : CountdownEvent → String
  | running => "Running"
  | periodElapsed => "PeriodElapsed"
  | expired => "Expired"
  | refreshed => "Refreshed"

end CountdownEvent

namespace PeriodicSchedule

/-- The offset after one more beacon. Zero wraps to the last offset of a period. -/
def nextOffset (schedule : PeriodicSchedule) : UInt8 :=
  if schedule.offsetLeft = 0 then
    if schedule.periodicity = 0 then 0 else schedule.periodicity - 1
  else schedule.offsetLeft - 1

def advance (schedule : PeriodicSchedule) : PeriodicSchedule × CountdownEvent :=
  let offsetLeft := schedule.nextOffset
  if offsetLeft ≠ schedule.startOffset then ({ schedule with offsetLeft }, .running)
  else
    let validityLeft := if schedule.validityLeft = 0 then 0 else schedule.validityLeft - 1
    if 0 < validityLeft then ({ schedule with offsetLeft, validityLeft }, .periodElapsed)
    else (schedule.reset, if schedule.refreshes then .refreshed else .expired)

end PeriodicSchedule

end RestrictedAccess
