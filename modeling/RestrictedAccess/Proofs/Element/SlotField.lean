/-
Slot definitions read off the air. A field that was read fits the layouts, so nothing is capped
when it is written again and the definition survives. The bits survive unless the extended layout
was used for a duration that the compact one can hold: a writer never does that.
-/

import RestrictedAccess.Proofs.Element.RoundTrip

namespace RestrictedAccess

namespace SlotDefinition

def IsExtended (field : UInt16) : Prop :=
  field.toNat % 2 = 1

instance (field : UInt16) : Decidable (IsExtended field) :=
  inferInstanceAs (Decidable (field.toNat % 2 = 1))

def durationPart (field : UInt16) : Nat :=
  if IsExtended field then field.toNat / 4 % 2048 else field.toNat / 4 % 256

def countPart (field : UInt16) : Nat :=
  if IsExtended field then field.toNat / 8192 else field.toNat / 1024

/-! ### The parts of a field -/

theorem durationPart_lt (field : UInt16) : durationPart field < 2048 := by
  unfold durationPart
  split
  · exact Nat.mod_lt _ (by decide)
  · exact Nat.lt_trans (Nat.mod_lt _ (by decide)) (by decide : 256 < 2048)

theorem isExtended_of_long {field : UInt16} (long : 255 < durationPart field) :
    IsExtended field := by
  unfold durationPart at long
  split at long
  · assumption
  · omega

theorem countPart_le (field : UInt16) : countPart field ≤ 63 := by
  have small := field.toNat_lt
  unfold countPart
  split <;> omega

theorem countPart_le_of_isExtended {field : UInt16} (extended : IsExtended field) :
    countPart field ≤ 7 := by
  have small := field.toNat_lt
  unfold countPart
  rw [if_pos extended]
  omega

theorem decode_eq (field : UInt16) :
    decode field =
      ⟨UInt8.ofNat (countPart field), UInt32.ofNat (unitsDuration (durationPart field)),
        decide (field.toNat / 2 % 2 = 1)⟩ := by
  by_cases extended : IsExtended field
  · have odd : field.toNat % 2 = 1 := extended
    simp only [decode, durationPart, countPart, if_pos extended, if_pos odd]
  · have even : ¬ field.toNat % 2 = 1 := extended
    simp only [decode, durationPart, countPart, if_neg extended, if_neg even]

theorem units_decode (field : UInt16) : (decode field).units = durationPart field := by
  have bounded := durationPart_lt field
  have duration : (decode field).duration.toNat = unitsDuration (durationPart field) := by
    rw [decode_eq]
    apply UInt32.toNat_ofNat_of_lt'
    change 500 + 120 * durationPart field < 4294967296
    omega
  unfold units
  rw [duration]
  exact slotUnits_unitsDuration (durationPart field)

theorem toNat_count_decode (field : UInt16) : (decode field).count.toNat = countPart field := by
  have few := countPart_le field
  rw [decode_eq]
  exact UInt8.toNat_ofNat_of_lt' (Nat.lt_of_le_of_lt few (by decide))

/-! ### Writing what was read -/

theorem format_decode (field : UInt16) :
    (decode field).format = if durationPart field ≤ 255 then .compact else .extended := by
  unfold format
  rw [units_decode]
  rfl

theorem capped_decode (field : UInt16) :
    (decode field).cappedUnits = durationPart field ∧
      (decode field).cappedCount = countPart field := by
  have bounded := durationPart_lt field
  have few := countPart_le field
  unfold cappedUnits cappedCount
  rw [units_decode, toNat_count_decode, format_decode]
  by_cases short : durationPart field ≤ 255
  · rw [if_pos short]
    exact ⟨Nat.min_eq_left short, Nat.min_eq_left few⟩
  · have extended := isExtended_of_long (Nat.lt_of_not_le short)
    rw [if_neg short]
    exact ⟨Nat.min_eq_left (Nat.le_of_lt_succ bounded),
      Nat.min_eq_left (countPart_le_of_isExtended extended)⟩

theorem decode_encode_decode (field : UInt16) : decode (decode field).encode = decode field := by
  rcases capped_decode field with ⟨units, count⟩
  rw [decode_encode, airDuration, units, count, decode_eq]

theorem boundary_decode (field : UInt16) :
    (if (decode field).crossesBoundary then 2 else 0) = 2 * (field.toNat / 2 % 2) := by
  rw [decode_eq]
  by_cases crosses : field.toNat / 2 % 2 = 1
  · simp only [crosses, decide_true, if_true]
  · have clear : field.toNat / 2 % 2 = 0 := by omega
    simp only [clear]
    rfl

/-- A duration that fits the compact layout is written in it, which clears the lowest bit. -/
theorem fieldValue_decode_of_short {field : UInt16} (short : durationPart field ≤ 255) :
    (decode field).fieldValue =
      2 * (field.toNat / 2 % 2) + 4 * durationPart field + 1024 * countPart field := by
  rcases capped_decode field with ⟨units, count⟩
  unfold fieldValue
  rw [format_decode, units, count, boundary_decode, if_pos short]

theorem fieldValue_decode_of_long {field : UInt16} (long : 255 < durationPart field) :
    (decode field).fieldValue =
      1 + 2 * (field.toNat / 2 % 2) + 4 * durationPart field + 8192 * countPart field := by
  rcases capped_decode field with ⟨units, count⟩
  unfold fieldValue
  rw [format_decode, units, count, boundary_decode, if_neg (Nat.not_le_of_lt long)]

/-- The bits survive unless the extended layout holds a duration that the compact one has room
for. -/
theorem encode_decode_iff (field : UInt16) :
    (decode field).encode = field ↔ ¬ (IsExtended field ∧ durationPart field ≤ 255) := by
  have small := field.toNat_lt
  have written : (decode field).encode.toNat = (decode field).fieldValue :=
    UInt16.toNat_ofNat_of_lt' (decode field).fieldValue_lt
  rw [← UInt16.toNat_inj, written]
  by_cases short : durationPart field ≤ 255
  · rw [fieldValue_decode_of_short short]
    by_cases extended : IsExtended field
    · have odd : field.toNat % 2 = 1 := extended
      constructor
      · intro same
        omega
      · intro kept
        exact absurd ⟨extended, short⟩ kept
    · have even : ¬ field.toNat % 2 = 1 := extended
      have parts : 2 * (field.toNat / 2 % 2) + 4 * durationPart field + 1024 * countPart field =
          field.toNat := by
        simp only [durationPart, countPart, if_neg extended]
        omega
      exact iff_of_true parts (fun both => extended both.1)
  · have long := Nat.lt_of_not_le short
    have extended := isExtended_of_long long
    have odd : field.toNat % 2 = 1 := extended
    have parts : 1 + 2 * (field.toNat / 2 % 2) + 4 * durationPart field + 8192 * countPart field =
        field.toNat := by
      simp only [durationPart, countPart, if_pos extended]
      omega
    rw [fieldValue_decode_of_long long]
    exact iff_of_true parts (fun both => short both.2)

end SlotDefinition

end RestrictedAccess
