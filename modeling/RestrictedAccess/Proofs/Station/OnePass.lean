/-
The list of the stations made in one pass over the words of a bitmap. The pass ends at the largest
announced position, at the end of the words or at the first station too many, and it finds the list
and the fault that filtering all positions finds. The announced number of stations is checked
against the number of set positions unless it is zero: then there is no pass, and positions that are
set go unnoticed.
-/

import Mathlib.Data.Finset.Card
import Mathlib.Data.Nat.Bitwise
import RestrictedAccess.Proofs.Station.Slices

namespace RestrictedAccess.Station

/-! ### Set positions -/

/-- A position is set if masking its word with its bit leaves something. -/
def IsSet (words : List UInt64) (position : Nat) : Prop :=
  ∃ word, words[position / wordSize]? = some word ∧
    word &&& (1 <<< UInt64.ofNat (position % wordSize)) ≠ 0

section Positions

variable {words : List UInt64} {position bound : Nat}

theorem toNat_mask (position : Nat) :
    ((1 : UInt64) <<< UInt64.ofNat (position % wordSize)).toNat = 2 ^ (position % wordSize) := by
  have small : position % wordSize < 64 := Nat.mod_lt _ (by decide)
  have power : 2 ^ (position % wordSize) < 2 ^ 64 := Nat.pow_lt_pow_right (by decide) small
  have shift : (UInt64.ofNat (position % wordSize)).toNat = position % wordSize :=
    UInt64.toNat_ofNat_of_lt' (Nat.lt_trans small (by decide))
  rw [UInt64.toNat_shiftLeft, shift, Nat.mod_eq_of_lt small, Nat.shiftLeft_eq, UInt64.toNat_one,
    Nat.one_mul, Nat.mod_eq_of_lt power]

theorem bitAt_iff_mask {word : UInt64} (placed : words[position / wordSize]? = some word) :
    bitAt words position = true ↔ word &&& (1 <<< UInt64.ofNat (position % wordSize)) ≠ 0 := by
  have tested : bitAt words position = word.toNat.testBit (position % wordSize) := by
    unfold bitAt
    rw [placed]
  rw [tested, ne_eq, ← UInt64.toNat_inj, UInt64.toNat_and, toNat_mask, Nat.and_two_pow,
    UInt64.toNat_zero]
  cases word.toNat.testBit (position % wordSize) with
  | false => simp
  | true => simp

theorem bitAt_of_behind {other : Nat} (behind : words[position / wordSize]? = none)
    (later : position ≤ other) : bitAt words other = false := by
  have length := List.getElem?_eq_none_iff.mp behind
  have further : words[other / wordSize]? = none :=
    List.getElem?_eq_none_iff.mpr (Nat.le_trans length (Nat.div_le_div_right later))
  unfold bitAt
  rw [further]

theorem isSet_iff : IsSet words position ↔ bitAt words position = true := by
  unfold IsSet
  cases placed : words[position / wordSize]? with
  | none =>
      rw [bitAt_of_behind placed (Nat.le_refl position)]
      exact iff_of_false (fun ⟨_, impossible, _⟩ => nomatch impossible) Bool.false_ne_true
  | some word =>
      rw [bitAt_iff_mask placed]
      simp

instance (words : List UInt64) : DecidablePred (IsSet words) :=
  fun _ => decidable_of_iff _ isSet_iff.symm

end Positions

def stationPositions (words : List UInt64) (largest : Aid) : Finset Nat :=
  (Finset.range (largest.toNat + 1)).filter (IsSet words)

theorem card_stationPositions (words : List UInt64) (largest : Aid) :
    (stationPositions words largest).card = (setPositions words (largest.toNat + 1)).length := by
  have distinct : (setPositions words (largest.toNat + 1)).Nodup := List.nodup_range.filter _
  have same : stationPositions words largest =
      (setPositions words (largest.toNat + 1)).toFinset := by
    ext position
    unfold stationPositions setPositions
    rw [Finset.mem_filter, Finset.mem_range, List.mem_toFinset, List.mem_filter, List.mem_range,
      isSet_iff]
  rw [same, List.toFinset_card_of_nodup distinct]

namespace AidList

/-! ### The pass -/

def passFrom (words : List UInt64) (count : Nat) (largest : Aid) (position : Nat)
    (found : List Aid) : Except Fault (List Aid) :=
  if largest.toNat < position then .ok found
  else
    match words[position / wordSize]? with
    | none => .ok found
    | some word =>
        if word &&& (1 <<< UInt64.ofNat (position % wordSize)) = 0 then
          passFrom words count largest (position + 1) found
        else if count ≤ found.length then .error (.stationsExceedCount count)
        else passFrom words count largest (position + 1) (found ++ [UInt16.ofNat position])
termination_by largest.toNat + 1 - position

/-- The list made in one pass. There is no pass where no stations are announced. -/
def generateInOnePass (words : List UInt64) (count : Nat) (largest : Aid) : Except Fault AidList :=
  if maxListBytes < 2 * count then .error .aidListTooLarge
  else
    match if count = 0 then .ok [] else passFrom words count largest 0 [] with
    | .error fault => .error fault
    | .ok found =>
        if found.length ≠ count then .error (.stationCountMismatch found.length count)
        else .ok ⟨found⟩

section Pass

variable {words : List UInt64} {count : Nat} {largest : Aid}

/-- The pass has found all set positions in front of it and not too many of them. -/
theorem passFrom_eq {position : Nat} {found : List Aid} (reached : position ≤ largest.toNat + 1)
    (meets : found = (setPositions words position).map UInt16.ofNat)
    (few : found.length ≤ count) :
    passFrom words count largest position found =
      if count < (setPositions words (largest.toNat + 1)).length then
        .error (.stationsExceedCount count)
      else .ok ((setPositions words (largest.toNat + 1)).map UInt16.ofNat) := by
  have length : found.length = (setPositions words position).length := by
    rw [meets, List.length_map]
  fun_induction passFrom words count largest position found with
  | case1 position found beyond =>
      have last : position = largest.toNat + 1 := Nat.le_antisymm reached beyond
      rw [← last, ← length, if_neg (Nat.not_lt.mpr few), meets]
  | case2 position found within behind =>
      have whole := setPositions_eq_of_clear reached (fun other => bitAt_of_behind behind)
      rw [whole, ← length, if_neg (Nat.not_lt.mpr few), meets]
  | case3 position found within word placed clear ih =>
      have unset := Bool.eq_false_iff.mpr (mt (bitAt_iff_mask placed).mp (not_not.mpr clear))
      rw [← setPositions_succ_of_clear unset] at meets length
      exact ih (by omega) meets few length
  | case4 position found within word placed masked full =>
      have next := setPositions_succ_of_set ((bitAt_iff_mask placed).mpr masked)
      have ahead : position + 1 ≤ largest.toNat + 1 := by omega
      have most := length_setPositions_mono words ahead
      rw [next, List.length_append, List.length_singleton] at most
      rw [if_pos (by omega)]
  | case5 position found within word placed masked room ih =>
      have next := setPositions_succ_of_set ((bitAt_iff_mask placed).mpr masked)
      apply ih (by omega)
      · rw [next, List.map_append, meets]
        rfl
      · rw [List.length_append, List.length_singleton]
        omega
      · rw [next, List.length_append, List.length_append, length]
        rfl

theorem generateInOnePass_eq (words : List UInt64) (count : Nat) (largest : Aid) :
    generateInOnePass words count largest = generate words count largest := by
  unfold generateInOnePass generate
  by_cases tooLarge : maxListBytes < 2 * count
  · rw [if_pos tooLarge, if_pos tooLarge]
  · rw [if_neg tooLarge, if_neg tooLarge]
    by_cases none : count = 0
    · simp [none]
    · have pass : passFrom words count largest 0 [] = _ :=
        passFrom_eq (Nat.zero_le _) rfl (Nat.zero_le _)
      simp only [if_neg none, pass]
      by_cases more : count < (setPositions words (largest.toNat + 1)).length
      · simp only [if_pos more]
      · simp only [if_neg more, List.length_map]

/-! ### The announced number of stations -/

theorem generate_of_pos (allocatable : 2 * count ≤ maxListBytes) (some : count ≠ 0) :
    generate words count largest =
      if count < (stationPositions words largest).card then .error (.stationsExceedCount count)
      else if (stationPositions words largest).card ≠ count then
        .error (.stationCountMismatch (stationPositions words largest).card count)
      else .ok ⟨(setPositions words (largest.toNat + 1)).map UInt16.ofNat⟩ := by
  unfold generate
  rw [if_neg (Nat.not_lt.mpr allocatable), card_stationPositions]
  simp only [if_neg some]

theorem generate_zero (words : List UInt64) (largest : Aid) :
    generate words 0 largest = .ok .empty := by
  unfold generate
  rw [if_neg (Nat.not_lt_zero _)]
  rfl

structure Enumerates (list : AidList) (words : List UInt64) (largest : Aid) : Prop where
  ascending : list.Ascending
  member : ∀ aid, aid ∈ list.aids ↔ aid ≤ largest ∧ IsSet words aid.toNat

theorem enumerates_setPositions (words : List UInt64) (largest : Aid) :
    Enumerates ⟨(setPositions words (largest.toNat + 1)).map UInt16.ofNat⟩ words largest := by
  have addressed : largest.toNat + 1 ≤ 65536 := largest.toNat_lt
  refine { ascending := ascending_setPositions addressed words, member := ?_ }
  intro aid
  rw [mem_map_setPositions addressed, isSet_iff, Nat.lt_succ_iff, UInt16.le_iff_toNat_le]

/-- The announced number is that of the set positions, or there is a fault and no list. -/
structure CountChecked (words : List UInt64) (count : Nat) (largest : Aid) : Prop where
  listed : (stationPositions words largest).card = count →
    ∃ list, generate words count largest = .ok list ∧ list.Enumerates words largest
  refused : (stationPositions words largest).card ≠ count →
    ∃ fault, generate words count largest = .error fault ∧
      fault.category = .internalInconsistency

theorem countChecked_of_pos (allocatable : 2 * count ≤ maxListBytes) (some : count ≠ 0) :
    CountChecked words count largest := by
  have outcome : generate words count largest = _ := generate_of_pos allocatable some
  refine { listed := ?_, refused := ?_ }
  · intro same
    rw [same, if_neg (Nat.lt_irrefl count), if_neg (not_not.mpr rfl)] at outcome
    exact ⟨_, outcome, enumerates_setPositions words largest⟩
  · intro different
    by_cases more : count < (stationPositions words largest).card
    · rw [if_pos more] at outcome
      exact ⟨_, outcome, rfl⟩
    · rw [if_neg more, if_pos different] at outcome
      exact ⟨_, outcome, rfl⟩

theorem countChecked_zero_iff :
    CountChecked words 0 largest ↔ stationPositions words largest = ∅ := by
  constructor
  · intro checked
    by_contra some
    obtain ⟨_, refused, _⟩ := checked.refused (mt Finset.card_eq_zero.mp some)
    rw [generate_zero] at refused
    cases refused
  · intro none
    have noPositions := card_stationPositions words largest
    rw [none, Finset.card_empty] at noPositions
    have enumerates := enumerates_setPositions words largest
    rw [List.eq_nil_of_length_eq_zero noPositions.symm] at enumerates
    refine { listed := fun _ => ⟨_, generate_zero words largest, enumerates⟩, refused := ?_ }
    intro some
    exact absurd (Finset.card_eq_zero.mpr none) some

end Pass

/-- One pass makes the list. It holds exactly the set positions and their number is the announced
one, or there is a fault, unless no stations are announced where positions are set: then the list
is empty. -/
theorem announced_count_checked_iff (words : List UInt64) (count : Nat) (largest : Aid)
    (allocatable : 2 * count ≤ 9223372036854775807) :
    generateInOnePass words count largest = generate words count largest ∧
      (CountChecked words count largest ↔
        ¬ (count = 0 ∧ stationPositions words largest ≠ ∅)) ∧
      (count = 0 → generate words count largest = .ok ⟨[]⟩) := by
  refine ⟨generateInOnePass_eq words count largest, ?_, ?_⟩
  · by_cases none : count = 0
    · subst none
      rw [countChecked_zero_iff]
      simp
    · exact iff_of_true (countChecked_of_pos allocatable none) (fun both => none both.1)
  · rintro rfl
    exact generate_zero words largest

theorem announced_count_checked_across_words :
    2 * 3 ≤ 9223372036854775807 ∧
      generateInOnePass [0x8000000000000002, 1] 3 100 = .ok ⟨[1, 63, 64]⟩ ∧
      CountChecked [0x8000000000000002, 1] 3 100 := by
  obtain ⟨pass, checked, _⟩ :=
    announced_count_checked_iff [0x8000000000000002, 1] 3 100 (by decide)
  refine ⟨by decide, pass.trans ?_, checked.mpr (by decide)⟩
  decide +kernel

/-- Three positions are set, none are announced, and there is no fault. -/
theorem unannounced_stations_ignored :
    (stationPositions [14] 3).card = 3 ∧ generate [14] 0 3 = .ok ⟨[]⟩ ∧
      ¬ CountChecked [14] 0 3 := by
  have three : (stationPositions [14] 3).card = 3 := by
    rw [card_stationPositions]
    decide +kernel
  refine ⟨three, by decide +kernel, ?_⟩
  intro checked
  obtain ⟨_, refused, _⟩ := checked.refused (by rw [three]; decide)
  rw [generate_zero] at refused
  cases refused

end AidList

end RestrictedAccess.Station
