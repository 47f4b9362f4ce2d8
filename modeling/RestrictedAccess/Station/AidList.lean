/-
A snapshot of the associated stations in ascending order. Windows address ranges of identifiers;
the snapshot turns a range into the slice of listed stations that it covers.
-/

import RestrictedAccess.Station.Bitmap

namespace RestrictedAccess.Station

/-- The largest byte size of an allocation. -/
def maxListBytes : Nat := 9223372036854775807

structure IndexPair where
  first : Int
  last : Int
  deriving DecidableEq

namespace IndexPair

def unresolved : IndexPair :=
  ⟨-1, -1⟩

def isResolved (pair : IndexPair) : Bool :=
  0 ≤ pair.first && 0 ≤ pair.last

end IndexPair

structure AidList where
  aids : List Aid
  deriving DecidableEq

namespace AidList

def empty : AidList :=
  ⟨[]⟩

def size (list : AidList) : Nat :=
  list.aids.length

/-- List the set positions up to and including the largest announced one. The number of stations
is announced as well, and a different number found is a fault. -/
def generate (words : List UInt64) (count : Nat) (largest : Aid) : Except Fault AidList :=
  if maxListBytes < 2 * count then .error .aidListTooLarge
  else
    let found := if count = 0 then [] else setPositions words (largest.toNat + 1)
    if count < found.length then .error (.stationsExceedCount count)
    else if found.length ≠ count then .error (.stationCountMismatch found.length count)
    else .ok ⟨found.map UInt16.ofNat⟩

def ofBitmap (bitmap : Bitmap) : Except Fault AidList :=
  generate bitmap.words bitmap.count (bitmap.max?.getD 0)

/-- The ascending list of the given identifiers without repetitions. -/
def ofAids (aids : List Aid) : AidList :=
  ⟨(aids.mergeSort (fun left right => left ≤ right)).eraseReps⟩

/-- The index of an identifier, or of the closest smaller one that is listed. -/
def indexAtOrBelow? (list : AidList) (aid : Aid) : Option Nat :=
  match (list.aids.takeWhile (fun listed => listed ≤ aid)).length with
  | 0 => none
  | below + 1 => some below

/-- The slice of a range. The start must be listed; the end may fall between two stations. -/
def resolve (list : AidList) (start stop : Aid) : IndexPair :=
  match list.indexAtOrBelow? start, list.indexAtOrBelow? stop with
  | some first, some last =>
      if list.aids[first]? = some start ∧ first ≤ last then ⟨first, last⟩
      else IndexPair.unresolved
  | _, _ => IndexPair.unresolved

end AidList

end RestrictedAccess.Station
