/-
A limit on the rate of repeated notices. A window of time opens at the first request and at each
request that comes an interval or more after the opening of the current one; every window admits a
fixed number of requests and counts the rest.
-/

namespace RestrictedAccess

structure RateLimiter where
  /-- The length of a window in milliseconds. -/
  interval : Nat
  burst : Nat
  opened : Option Nat
  admitted : Nat
  /-- The requests refused in the current window. -/
  suppressed : Nat
  deriving DecidableEq

namespace RateLimiter

def new (interval burst : Nat) : RateLimiter :=
  ⟨interval, burst, none, 0, 0⟩

def standard : RateLimiter :=
  new 5000 10

/-- Whether a time falls into the current window. Times before its opening do. -/
def isOpenAt (limiter : RateLimiter) (now : Nat) : Bool :=
  limiter.opened.any (fun opened => now - opened < limiter.interval)

def openAt (limiter : RateLimiter) (now : Nat) : RateLimiter :=
  if limiter.isOpenAt now then limiter
  else { limiter with opened := some now, admitted := 0, suppressed := 0 }

def request (limiter : RateLimiter) (now : Nat) : RateLimiter × Bool :=
  let current := limiter.openAt now
  if current.admitted < current.burst then
    ({ current with admitted := current.admitted + 1 }, true)
  else
    ({ current with suppressed := current.suppressed + 1 }, false)

/-- The refused requests that are reported when a request opens a new window. -/
def flushedAt (limiter : RateLimiter) (now : Nat) : Nat :=
  if limiter.isOpenAt now then 0 else limiter.suppressed

end RateLimiter

end RestrictedAccess
