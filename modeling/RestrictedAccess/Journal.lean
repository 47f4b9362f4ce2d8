/-
The record of notices. A notice that may arise with every beacon is written only when the rate
limit admits it; all others are written at once. The number of notices held back is written when
the limit opens a new window. The limit decides about entries of the record only, so the scheduler
does not carry it, and its counters are numbers without a bound.
-/

import RestrictedAccess.Notice
import RestrictedAccess.RateLimiter

namespace RestrictedAccess

structure Journal where
  limiter : RateLimiter
  /-- The notices written so far, oldest first. -/
  entries : List Notice
  deriving DecidableEq

namespace Journal

def new (interval burst : Nat) : Journal :=
  ⟨RateLimiter.new interval burst, []⟩

def record (now : Nat) (journal : Journal) (notice : Notice) : Journal :=
  if notice.isRateLimited then
    let flushed := journal.limiter.flushedAt now
    let (limiter, admitted) := journal.limiter.request now
    { limiter
      entries := journal.entries
        ++ (if 0 < flushed then [.messagesSuppressed flushed] else [])
        ++ (if admitted then [notice] else []) }
  else
    { journal with entries := journal.entries ++ [notice] }

def recordAll (journal : Journal) (now : Nat) (notices : List Notice) : Journal :=
  notices.foldl (record now) journal

def drained (journal : Journal) : Journal :=
  { journal with entries := [] }

end Journal

end RestrictedAccess
