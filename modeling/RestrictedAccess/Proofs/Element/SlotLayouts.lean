/-
The layouts of a slot field, drawn in bits. Each part of a layout has its place and its width, and
what is put there by a shift and a mask stays clear of the other parts, because the values are
capped to what a layout holds. A receiver loses nothing but the excess: whole duration steps and
the counts that fit arrive as they are, and reading is undone by writing except where a short
duration was drawn in the layout of the long ones.
-/

import Mathlib.Data.Nat.Bitwise
import RestrictedAccess.Proofs.Element.SlotField

namespace RestrictedAccess

structure FieldPart where
  start : Nat
  width : Nat
  nonempty : 0 < width
  within : start + width ≤ 16

namespace FieldPart

def mask (part : FieldPart) : UInt16 :=
  UInt16.ofNat ((2 ^ part.width - 1) <<< part.start)

def place (part : FieldPart) (value : UInt16) : UInt16 :=
  (value <<< UInt16.ofNat part.start) &&& part.mask

def take (part : FieldPart) (field : UInt16) : UInt16 :=
  (field &&& part.mask) >>> UInt16.ofNat part.start

variable (part : FieldPart)

theorem shift_lt {value : Nat} (fits : value < 2 ^ part.width) : value <<< part.start < 2 ^ 16 :=
  calc value <<< part.start = value * 2 ^ part.start := Nat.shiftLeft_eq _ _
    _ < 2 ^ part.width * 2 ^ part.start := Nat.mul_lt_mul_of_pos_right fits (Nat.two_pow_pos _)
    _ = 2 ^ (part.start + part.width) := by rw [Nat.pow_add, Nat.mul_comm]
    _ ≤ 2 ^ 16 := Nat.pow_le_pow_right (by decide) part.within

theorem toNat_mask : part.mask.toNat = (2 ^ part.width - 1) <<< part.start :=
  UInt16.toNat_ofNat_of_lt' (part.shift_lt (Nat.pred_lt (Nat.ne_of_gt (Nat.two_pow_pos _))))

theorem toNat_start : (UInt16.ofNat part.start).toNat % 16 = part.start := by
  have nonempty := part.nonempty
  have within := part.within
  rw [UInt16.toNat_ofNat_of_lt' (show part.start < 65536 by omega)]
  exact Nat.mod_eq_of_lt (by omega)

theorem toNat_place {value : UInt16} (fits : value.toNat < 2 ^ part.width) :
    (part.place value).toNat = value.toNat <<< part.start := by
  rw [place, UInt16.toNat_and, UInt16.toNat_shiftLeft, toNat_start, toNat_mask,
    Nat.mod_eq_of_lt (part.shift_lt fits), ← Nat.shiftLeft_and_distrib,
    Nat.and_two_pow_sub_one_eq_mod, Nat.mod_eq_of_lt fits]

theorem toNat_take (field : UInt16) :
    (part.take field).toNat = field.toNat / 2 ^ part.start % 2 ^ part.width := by
  rw [take, UInt16.toNat_shiftRight, UInt16.toNat_and, toNat_start, toNat_mask,
    Nat.shiftRight_and_distrib, Nat.shiftLeft_shiftRight, Nat.and_two_pow_sub_one_eq_mod,
    Nat.shiftRight_eq_div_pow]

/-- A part is put beside the bits below it and leaves them alone. -/
theorem toNat_or_place {low value : UInt16} (below : low.toNat < 2 ^ part.start)
    (fits : value.toNat < 2 ^ part.width) :
    (low ||| part.place value).toNat = low.toNat + 2 ^ part.start * value.toNat := by
  rw [UInt16.toNat_or, part.toNat_place fits, Nat.or_comm, ← Nat.shiftLeft_add_eq_or_of_lt below,
    Nat.shiftLeft_eq, Nat.mul_comm, Nat.add_comm]

end FieldPart

theorem and_flag_ne_zero_iff (field : UInt16) {bit : Nat} (inside : bit < 16) :
    field &&& UInt16.ofNat (2 ^ bit) ≠ 0 ↔ field.toNat / 2 ^ bit % 2 = 1 := by
  have flag : (UInt16.ofNat (2 ^ bit)).toNat = 2 ^ bit :=
    UInt16.toNat_ofNat_of_lt' (Nat.pow_lt_pow_right (by decide) inside)
  have tested : field.toNat.testBit bit = decide (field.toNat / 2 ^ bit % 2 = 1) :=
    Nat.testBit_eq_decide_div_mod_eq
  rw [ne_eq, ← UInt16.toNat_inj, UInt16.toNat_and, flag, Nat.and_two_pow, tested]
  by_cases set : field.toNat / 2 ^ bit % 2 = 1 <;> simp [set]

namespace SlotFormat

def flag : SlotFormat → UInt16
  | compact => 0
  | extended => 1

def durationBits : SlotFormat → FieldPart
  | compact => ⟨2, 8, by decide, by decide⟩
  | extended => ⟨2, 11, by decide, by decide⟩

def countBits : SlotFormat → FieldPart
  | compact => ⟨10, 6, by decide, by decide⟩
  | extended => ⟨13, 3, by decide, by decide⟩

def ofField (field : UInt16) : SlotFormat :=
  if field &&& 1 ≠ 0 then extended else compact

theorem maxUnits_lt (format : SlotFormat) : format.maxUnits < 2 ^ format.durationBits.width := by
  cases format <;> decide

theorem maxSlots_lt (format : SlotFormat) : format.maxSlots < 2 ^ format.countBits.width := by
  cases format <;> decide

/-- The count starts where the duration ends, above the two flags. -/
theorem start_countBits (format : SlotFormat) :
    2 ^ format.countBits.start = 4 * 2 ^ format.durationBits.width := by
  cases format <;> rfl

end SlotFormat

namespace SlotDefinition

/-! ### Drawing a field and reading it off -/

def drawn (slot : SlotDefinition) : UInt16 :=
  (if slot.crossesBoundary then 2 else 0) ||| slot.format.flag |||
    slot.format.durationBits.place (UInt16.ofNat slot.cappedUnits) |||
      slot.format.countBits.place (UInt16.ofNat slot.cappedCount)

def readOff (field : UInt16) : SlotDefinition :=
  let format := SlotFormat.ofField field
  ⟨(format.countBits.take field).toUInt8, 500 + 120 * (format.durationBits.take field).toUInt32,
    decide (field &&& 2 ≠ 0)⟩

/-- No part of a drawn field runs into another one. -/
theorem toNat_drawn (slot : SlotDefinition) :
    slot.drawn.toNat = 2 * slot.crossesBoundary.toNat + slot.format.flag.toNat +
      4 * slot.cappedUnits + 2 ^ slot.format.countBits.start * slot.cappedCount := by
  have flags : ((if slot.crossesBoundary then 2 else 0) ||| slot.format.flag : UInt16).toNat =
      2 * slot.crossesBoundary.toNat + slot.format.flag.toNat := by
    cases slot.crossesBoundary <;> cases slot.format <;> rfl
  have low : 2 * slot.crossesBoundary.toNat + slot.format.flag.toNat < 4 := by
    cases slot.crossesBoundary <;> cases slot.format <;> decide
  have units : slot.cappedUnits < 2 ^ slot.format.durationBits.width :=
    Nat.lt_of_le_of_lt slot.cappedUnits_le slot.format.maxUnits_lt
  have count : slot.cappedCount < 2 ^ slot.format.countBits.width :=
    Nat.lt_of_le_of_lt slot.cappedCount_le slot.format.maxSlots_lt
  have unitsWord : (UInt16.ofNat slot.cappedUnits).toNat = slot.cappedUnits :=
    UInt16.toNat_ofNat_of_lt' (Nat.lt_of_le_of_lt slot.cappedUnits_le_max (by decide))
  have countWord : (UInt16.ofNat slot.cappedCount).toNat = slot.cappedCount :=
    UInt16.toNat_ofNat_of_lt' (Nat.lt_of_le_of_lt slot.cappedCount_le_max (by decide))
  have start : 2 ^ slot.format.durationBits.start = 4 := by
    cases slot.format <;> rfl
  have duration := slot.format.durationBits.toNat_or_place
    (by rw [flags, start]; exact low) (by rw [unitsWord]; exact units)
  rw [flags, start, unitsWord] at duration
  have below : 2 * slot.crossesBoundary.toNat + slot.format.flag.toNat + 4 * slot.cappedUnits <
      2 ^ slot.format.countBits.start := by
    rw [slot.format.start_countBits]
    omega
  have whole := slot.format.countBits.toNat_or_place
    (by rw [duration]; exact below) (by rw [countWord]; exact count)
  rw [duration, countWord] at whole
  exact whole

theorem encode_eq_drawn (slot : SlotDefinition) : slot.encode = slot.drawn := by
  have written : slot.encode.toNat = slot.fieldValue := UInt16.toNat_ofNat_of_lt' slot.fieldValue_lt
  rw [← UInt16.toNat_inj, written, toNat_drawn]
  unfold fieldValue
  rw [boundary_value]
  cases slot.format with
  | compact => rfl
  | extended =>
      simp only [Nat.add_comm 1 (2 * slot.crossesBoundary.toNat)]
      rfl

theorem and_one_ne_zero_iff (field : UInt16) : field &&& 1 ≠ 0 ↔ IsExtended field := by
  have tested := and_flag_ne_zero_iff field (by decide : 0 < 16)
  rw [Nat.pow_zero, Nat.div_one] at tested
  exact tested

theorem ofField_eq (field : UInt16) :
    SlotFormat.ofField field = if IsExtended field then .extended else .compact :=
  if_congr (and_one_ne_zero_iff field) rfl rfl

theorem toNat_take_durationBits (field : UInt16) :
    ((SlotFormat.ofField field).durationBits.take field).toNat = durationPart field := by
  rw [FieldPart.toNat_take, ofField_eq]
  unfold durationPart
  split <;> rfl

theorem toNat_take_countBits (field : UInt16) :
    ((SlotFormat.ofField field).countBits.take field).toNat = countPart field := by
  have small := field.toNat_lt
  rw [FieldPart.toNat_take, ofField_eq]
  unfold countPart
  split
  · change field.toNat / 8192 % 8 = _
    omega
  · change field.toNat / 1024 % 64 = _
    omega

theorem decode_eq_readOff (field : UInt16) : decode field = readOff field := by
  have crossing : decide (field &&& 2 ≠ 0) = decide (field.toNat / 2 % 2 = 1) :=
    decide_eq_decide.mpr (and_flag_ne_zero_iff field (by decide : 1 < 16))
  have duration : UInt32.ofNat (unitsDuration (durationPart field)) =
      500 + 120 * ((SlotFormat.ofField field).durationBits.take field).toUInt32 := by
    unfold unitsDuration
    rw [← toNat_take_durationBits, UInt32.ofNat_add, UInt32.ofNat_mul, UInt32.ofNat_uInt16ToNat]
    rfl
  have count : UInt8.ofNat (countPart field) =
      ((SlotFormat.ofField field).countBits.take field).toUInt8 := by
    rw [← toNat_take_countBits, UInt8.ofNat_uInt16ToNat]
  rw [decode_eq, duration, count, ← crossing]
  rfl

/-! ### What is lost -/

theorem airDuration_eq (slot : SlotDefinition) :
    slot.airDuration = 500 + 120 * min ((max slot.duration.toNat 500 - 500) / 120) 2047 := by
  have floored : max slot.duration.toNat 500 - 500 = slot.duration.toNat - 500 := by omega
  have capped : slot.cappedUnits = min slot.units 2047 := by
    unfold cappedUnits format
    split
    · rename_i short
      change slot.units ≤ 255 at short
      change min slot.units 255 = _
      omega
    · rfl
  unfold airDuration
  rw [capped, floored]
  rfl

theorem cappedCount_eq (slot : SlotDefinition) :
    slot.cappedCount = min slot.count.toNat (if slot.duration.toNat < 31220 then 63 else 7) := by
  have short : slot.units ≤ SlotFormat.compact.maxUnits ↔ slot.duration.toNat < 31220 := by
    change (slot.duration.toNat - 500) / 120 ≤ 255 ↔ _
    omega
  unfold cappedCount format
  simp only [short]
  split <;> rfl

/-- A definition as a receiver reads it: the duration in whole steps, and the count that fits. -/
structure ReadAs (slot read : SlotDefinition) : Prop where
  boundary : read.crossesBoundary = slot.crossesBoundary
  duration : read.duration.toNat =
    500 + 120 * min ((max slot.duration.toNat 500 - 500) / 120) 2047
  foretold : read.duration.toNat = slot.airDuration
  count : read.count.toNat = min slot.count.toNat (if slot.duration.toNat < 31220 then 63 else 7)
  /-- Between the floor and the cap of the longest duration, less than one step is lost. -/
  near : 500 ≤ slot.duration.toNat → slot.duration.toNat ≤ 246259 →
    read.duration.toNat ≤ slot.duration.toNat ∧ slot.duration.toNat ≤ read.duration.toNat + 119

theorem readAs_decode_encode (slot : SlotDefinition) : slot.ReadAs (decode slot.encode) := by
  have duration := slot.toNat_duration_decode_encode.trans slot.airDuration_eq
  refine
    { boundary := ?_
      duration := duration
      foretold := slot.toNat_duration_decode_encode
      count := slot.toNat_count_decode_encode.trans slot.cappedCount_eq
      near := ?_ }
  · rw [decode_encode]
  · intro floor cap
    rw [duration]
    omega

theorem duration_decode_encode_mono {slot longer : SlotDefinition}
    (ordered : slot.duration ≤ longer.duration) :
    (decode slot.encode).duration ≤ (decode longer.encode).duration := by
  rw [UInt32.le_iff_toNat_le] at ordered ⊢
  rw [(readAs_decode_encode slot).duration, (readAs_decode_encode longer).duration]
  omega

/-- A short duration in the layout of the long ones, read off the bits. -/
theorem isExtended_short_iff (field : UInt16) :
    (IsExtended field ∧ durationPart field ≤ 255) ↔
      (field &&& 1 ≠ 0 ∧ SlotFormat.extended.durationBits.take field ≤ 255) := by
  rw [← and_one_ne_zero_iff]
  refine and_congr_right (fun flag => ?_)
  have layout : SlotFormat.ofField field = .extended := if_pos flag
  rw [← toNat_take_durationBits, layout, UInt16.le_iff_toNat_le]
  rfl

/-- Fields are drawn and read off part by part. What is read keeps the boundary flag, the duration
in whole steps up to the longest one and the count that the layout has room for, longer durations
are not read as shorter ones, and what was read is written as a field that is read alike. -/
theorem slot_loses_only_excess (slot longer : SlotDefinition) (field : UInt16) :
    slot.encode = slot.drawn ∧ slot.ReadAs (decode slot.encode) ∧
      (slot.duration ≤ longer.duration →
        (decode slot.encode).duration ≤ (decode longer.encode).duration) ∧
      decode field = readOff field ∧
      decode (decode field).encode = decode field ∧
      ((decode field).encode = field ↔
        ¬ (field &&& 1 ≠ 0 ∧ SlotFormat.extended.durationBits.take field ≤ 255)) := by
  refine ⟨slot.encode_eq_drawn, slot.readAs_decode_encode, duration_decode_encode_mono,
    decode_eq_readOff field, decode_encode_decode field, ?_⟩
  rw [encode_decode_iff, isExtended_short_iff]

/-- One microsecond takes a definition from one layout to the other, which has room for seven
slots, and the shortest duration is not written in the layout that it was read from. -/
theorem slot_loses_only_excess_between_layouts :
    (⟨20, 31219, true⟩ : SlotDefinition).ReadAs ⟨20, 31100, true⟩ ∧
      (⟨20, 31220, true⟩ : SlotDefinition).ReadAs ⟨7, 31220, true⟩ ∧
      (decode (⟨20, 31219, true⟩ : SlotDefinition).encode).duration ≤
        (decode (⟨20, 31220, true⟩ : SlotDefinition).encode).duration ∧
      (decode 0x0001).encode ≠ 0x0001 := by
  obtain ⟨_, short, ordered, _, _, kept⟩ :=
    slot_loses_only_excess ⟨20, 31219, true⟩ ⟨20, 31220, true⟩ 0x0001
  obtain ⟨_, long, _⟩ := slot_loses_only_excess ⟨20, 31220, true⟩ ⟨20, 31220, true⟩ 0x0001
  refine ⟨short, long, ordered (by decide), ?_⟩
  rw [ne_eq, kept]
  decide

end SlotDefinition

end RestrictedAccess
