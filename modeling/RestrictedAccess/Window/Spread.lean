/-
Spreading a window over successive beacons. Each beacon restricts one block of the slice of
stations that the window covers, the next beacon continues behind the last station of the block,
and after the end of the slice the cycle starts over. The number of beacons in a cycle is fixed by
the size of the slice, the nominal size of a block and the limit on the spread.
-/

import RestrictedAccess.Window

namespace RestrictedAccess

open Station

structure AidRange where
  first : Aid
  last : Aid
  deriving DecidableEq

namespace Spreading

def cycleLength (spreading : Spreading) (stations : Nat) : Nat :=
  let nominal := max spreading.nominal.toNat 1
  if 0 < spreading.maxSpread.toNat ∧ spreading.maxSpread.toNat < stations / nominal then
    spreading.maxSpread.toNat
  else
    max ((stations + nominal - 1) / nominal) 1

/-- The stations in each beacon of a cycle and the number of leading beacons with one more. -/
def split (spreading : Spreading) (stations : Nat) : Nat × Nat :=
  let beacons := spreading.cycleLength stations
  (stations / beacons, stations % beacons)

end Spreading

namespace WindowConfig

/-- The slice of the list that a spread window is divided over, as its first index and its last.
An end index past the list is cut back to the last station. -/
def spreadSlice? (window : WindowConfig) (aids : AidList) : Option (Nat × Nat) :=
  if window.indices.isResolved && window.indices.first.toNat < aids.size then
    some (window.indices.first.toNat, min window.indices.last.toNat (aids.size - 1))
  else none

/-- The block of a slice that follows a station. Blocks at the start of a cycle may hold one
station more. The block is given by its two list indices, or is undefined when the slice is. -/
def nextBlock? (spreading : Spreading) (aids : AidList) (first last : Nat) : Option (Nat × Nat) :=
  if last < first then none
  else
    let stations := last + 1 - first
    let (perBeacon, extra) := spreading.split (stations % 65536)
    let slice := (aids.aids.drop first).take stations
    let done := (slice.findIdx? (fun aid => spreading.lastAid < aid)).getD 0
    let size := if done < (perBeacon + 1) * extra then perBeacon + 1 else perBeacon
    if first + done + size = 0 then none
    else some (first + done, min (first + done + size - 1) last)

/-- The range to announce in the next beacon and the window with its spreading state advanced.
A window that is not spread, or whose range matches no station, announces all of its range. -/
def beaconRange (window : WindowConfig) (aids : AidList) :
    Except Fault (WindowConfig × AidRange) :=
  match window.spreading with
  | none => .ok (window, ⟨window.startAid, window.endAid⟩)
  | some spreading =>
      match (if spreading.isEnabled then window.spreadSlice? aids else none) with
      | none =>
          .ok ({ window with spreading := some { spreading with lastAid := window.endAid } },
            ⟨window.startAid, window.endAid⟩)
      | some (first, last) =>
          match nextBlock? spreading aids first last with
          | none => .error (.spreadSliceInvalid window.id)
          | some (blockFirst, blockLast) =>
              match aids.aids[blockFirst]?, aids.aids[blockLast]? with
              | some firstAid, some lastAid =>
                  .ok ({ window with spreading := some { spreading with lastAid } },
                    ⟨firstAid, lastAid⟩)
              | _, _ => .error (.spreadSliceInvalid window.id)

end WindowConfig

end RestrictedAccess
