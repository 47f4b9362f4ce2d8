/-
Slot definitions and their sixteen-bit form on the air. Durations travel in steps of 120 us above
a floor of 500 us. Two layouts share the sixteen bits: long slots take the layout with the wider
duration part, which leaves room for fewer slots. Values beyond a layout are capped, never
wrapped, so the parts of the field cannot run into each other.
-/

import RestrictedAccess.Notice

namespace RestrictedAccess

/-- The shortest slot, announced as zero steps. -/
def minSlotDuration : Nat := 500

/-- The length of one duration step in microseconds. -/
def slotStep : Nat := 120

/-- Whole steps above the floor. Shorter durations count as the floor. -/
def slotUnits (duration : Nat) : Nat :=
  (duration - minSlotDuration) / slotStep

def unitsDuration (units : Nat) : Nat :=
  minSlotDuration + slotStep * units

inductive SlotFormat
  | compact
  | extended
  deriving DecidableEq

namespace SlotFormat

def name : SlotFormat → String
  | compact => "Compact"
  | extended => "Extended"

def maxUnits : SlotFormat → Nat
  | compact => 255
  | extended => 2047

def maxSlots : SlotFormat → Nat
  | compact => 63
  | extended => 7

end SlotFormat

structure SlotDefinition where
  count : UInt8
  /-- The duration of each slot in microseconds. -/
  duration : UInt32
  crossesBoundary : Bool
  deriving DecidableEq

namespace SlotDefinition

def empty : SlotDefinition :=
  ⟨0, 0, false⟩

/-- Duration steps before any cap. -/
def units (slot : SlotDefinition) : Nat :=
  slotUnits slot.duration.toNat

/-- The narrow duration part is used whenever it suffices. -/
def format (slot : SlotDefinition) : SlotFormat :=
  if slot.units ≤ SlotFormat.compact.maxUnits then .compact else .extended

def cappedUnits (slot : SlotDefinition) : Nat :=
  min slot.units slot.format.maxUnits

def cappedCount (slot : SlotDefinition) : Nat :=
  min slot.count.toNat slot.format.maxSlots

def airDuration (slot : SlotDefinition) : Nat :=
  unitsDuration slot.cappedUnits

/-- The field as a number. Bit 0 tells the layouts apart, bit 1 allows crossing a slot boundary,
the duration starts at bit 2 and the count fills what the duration leaves. -/
def fieldValue (slot : SlotDefinition) : Nat :=
  let boundary := if slot.crossesBoundary then 2 else 0
  match slot.format with
  | .compact => boundary + 4 * slot.cappedUnits + 1024 * slot.cappedCount
  | .extended => 1 + boundary + 4 * slot.cappedUnits + 8192 * slot.cappedCount

def encode (slot : SlotDefinition) : UInt16 :=
  UInt16.ofNat slot.fieldValue

def decode (field : UInt16) : SlotDefinition :=
  let value := field.toNat
  let crossesBoundary := decide (value / 2 % 2 = 1)
  if value % 2 = 1 then
    ⟨UInt8.ofNat (value / 8192), UInt32.ofNat (unitsDuration (value / 4 % 2048)), crossesBoundary⟩
  else
    ⟨UInt8.ofNat (value / 1024), UInt32.ofNat (unitsDuration (value / 4 % 256)), crossesBoundary⟩

def encodeNotices (slot : SlotDefinition) : List Notice :=
  (if slot.duration.toNat < minSlotDuration then [.slotTooShort] else [])
    ++ (if slot.format.maxSlots < slot.count.toNat then
          [.slotCountCapped slot.count.toNat slot.format.maxSlots]
        else [])
    ++ (if slot.format.maxUnits < slot.units then
          [.slotDurationCapped slot.units (unitsDuration slot.units)
            slot.format.maxUnits (unitsDuration slot.format.maxUnits)]
        else [])

end SlotDefinition

end RestrictedAccess
