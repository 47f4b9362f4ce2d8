/-
The set of associated stations, kept as words of 64 bits with a running count of the bits that are
set. The position of a bit is the identifier of the station. Identifiers outside the range a
station can hold are refused before anything changes.
-/

import RestrictedAccess.Fault

namespace RestrictedAccess.Station

def wordSize : Nat := 64

def wordCount : Nat := (maxAid + wordSize) / wordSize

/-- Whether a position is set. Positions past the last word are clear. -/
def bitAt (words : List UInt64) (position : Nat) : Bool :=
  match words[position / wordSize]? with
  | some word => word.toNat.testBit (position % wordSize)
  | none => false

def flipBit (words : List UInt64) (position : Nat) : List UInt64 :=
  words.modify (position / wordSize) (fun word =>
    UInt64.ofNat (word.toNat ^^^ Nat.pow 2 (position % wordSize)))

/-- The positions that are set among those below a bound, in ascending order. -/
def setPositions (words : List UInt64) (bound : Nat) : List Nat :=
  (List.range bound).filter (bitAt words)

structure Bitmap where
  words : List UInt64
  count : Nat
  deriving DecidableEq

namespace Bitmap

def empty : Bitmap :=
  ⟨List.replicate wordCount 0, 0⟩

def contains (bitmap : Bitmap) (aid : Aid) : Bool :=
  bitAt bitmap.words aid.toNat

def isValidAid (aid : Aid) : Bool :=
  0 < aid.toNat && aid.toNat ≤ maxAid

def insert (bitmap : Bitmap) (aid : Aid) : Except Fault (Bitmap × Bool) :=
  if isValidAid aid then
    if bitmap.contains aid then .ok (bitmap, false)
    else .ok (⟨flipBit bitmap.words aid.toNat, bitmap.count + 1⟩, true)
  else
    .error (.aidOutOfRange aid)

def erase (bitmap : Bitmap) (aid : Aid) : Except Fault (Bitmap × Bool) :=
  if isValidAid aid then
    if bitmap.contains aid then
      .ok (⟨flipBit bitmap.words aid.toNat, bitmap.count - 1⟩, true)
    else .ok (bitmap, false)
  else
    .error (.aidOutOfRange aid)

def highestPosition? : List UInt64 → Option Nat
  | [] => none
  | word :: rest =>
      match highestPosition? rest with
      | some position => some (position + wordSize)
      | none => if word = 0 then none else some word.toNat.log2

def max? (bitmap : Bitmap) : Option Aid :=
  (highestPosition? bitmap.words).map UInt16.ofNat

def clear (bitmap : Bitmap) : Bitmap :=
  ⟨bitmap.words.map (fun _ => 0), 0⟩

end Bitmap

end RestrictedAccess.Station
