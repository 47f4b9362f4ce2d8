/-
The arithmetic of beacon spreading has no failing case for windows whose cached indices are in
order, whatever station list the indices are read in. The slice is cut back to the list, every
beacon of a cycle gets a station, and the block lies in the slice. Announcing a range moves the last
station of the window and leaves the rest of it alone.
-/

import RestrictedAccess.Proofs.Registry.RunningState
import RestrictedAccess.Window.Spread

namespace RestrictedAccess

open Station

/-! ### Resolved indices -/

/-- A range resolves to nothing or to two indices in order. -/
theorem Station.AidList.resolve_spec (list : AidList) (start stop : Aid) :
    list.resolve start stop = .unresolved ∨
      0 ≤ (list.resolve start stop).first ∧
        (list.resolve start stop).first ≤ (list.resolve start stop).last := by
  unfold AidList.resolve
  split
  · rename_i first last _ _
    split
    · rename_i matching
      exact Or.inr ⟨Int.natCast_nonneg first, Int.ofNat_le.mpr matching.2⟩
    · exact Or.inl rfl
  · exact Or.inl rfl

theorem Station.AidList.ordered_resolve (list : AidList) (start stop : Aid) :
    (list.resolve start stop).first ≤ (list.resolve start stop).last := by
  rcases list.resolve_spec start stop with missing | ⟨_, ordered⟩
  · rw [missing]
    exact Int.le_refl _
  · exact ordered

namespace WindowConfig

theorem id_resolveIndices (aids : AidList) (window : WindowConfig) :
    (window.resolveIndices aids).id = window.id := by
  unfold resolveIndices
  split <;> rfl

theorem isPeriodic_resolveIndices (aids : AidList) (window : WindowConfig) :
    (window.resolveIndices aids).isPeriodic = window.isPeriodic := by
  unfold resolveIndices
  split <;> rfl

theorem Sound.resolveIndices {window : WindowConfig} (sound : window.Sound) (aids : AidList) :
    (window.resolveIndices aids).Sound := by
  unfold WindowConfig.resolveIndices
  split
  · exact
      { generic := sound.generic
        ordered := fun _ => aids.ordered_resolve window.startAid window.endAid
        internal := sound.internal }
  · exact sound

end WindowConfig

/-! ### Cycles and blocks -/

namespace Spreading

theorem cycleLength_pos (spreading : Spreading) (stations : Nat) :
    0 < spreading.cycleLength stations := by
  unfold cycleLength
  simp only
  split
  · rename_i limited
    exact limited.1
  · exact Nat.le_max_right _ _

theorem nominal_pos {spreading : Spreading} (enabled : spreading.isEnabled = true) :
    0 < spreading.nominal.toNat :=
  UInt16.lt_iff_toNat_lt.mp (of_decide_eq_true enabled)

theorem cycleLength_eq {spreading : Spreading} {stations : Nat}
    (enabled : spreading.isEnabled = true) (some : 0 < stations) :
    spreading.cycleLength stations =
      if 0 < spreading.maxSpread.toNat ∧
          spreading.maxSpread.toNat < stations / spreading.nominal.toNat then
        spreading.maxSpread.toNat
      else (stations + spreading.nominal.toNat - 1) / spreading.nominal.toNat := by
  have nominal := nominal_pos enabled
  have rounded : 1 ≤ (stations + spreading.nominal.toNat - 1) / spreading.nominal.toNat :=
    Nat.div_pos (by omega) nominal
  unfold cycleLength
  simp only [Nat.max_eq_left nominal, Nat.max_eq_left rounded]

theorem cycleLength_le (spreading : Spreading) {stations : Nat} (some : 0 < stations) :
    spreading.cycleLength stations ≤ stations := by
  have nominal : 0 < max spreading.nominal.toNat 1 := Nat.le_max_right _ _
  unfold cycleLength
  simp only
  split
  · rename_i limited
    exact Nat.le_trans (Nat.le_of_lt limited.2) (Nat.div_le_self _ _)
  · refine Nat.max_le.mpr ⟨?_, some⟩
    refine Nat.le_of_lt_succ ((Nat.div_lt_iff_lt_mul nominal).mpr ?_)
    have least : stations + 1 ≤ max spreading.nominal.toNat 1 * stations + 1 :=
      Nat.add_le_add_right (Nat.le_mul_of_pos_left stations nominal) 1
    rw [Nat.succ_mul, Nat.mul_comm stations]
    omega

theorem split_pos (spreading : Spreading) {stations : Nat} (some : 0 < stations) :
    0 < (spreading.split stations).1 :=
  Nat.div_pos (spreading.cycleLength_le some) (spreading.cycleLength_pos stations)

def passed (spreading : Spreading) (aids : AidList) (first stations : Nat) : Nat :=
  (((aids.aids.drop first).take stations).findIdx? (fun aid => spreading.lastAid < aid)).getD 0

def blockSize (spreading : Spreading) (stations passed : Nat) : Nat :=
  if passed < ((spreading.split stations).1 + 1) * (spreading.split stations).2 then
    (spreading.split stations).1 + 1
  else (spreading.split stations).1

theorem passed_lt (spreading : Spreading) (aids : AidList) (first : Nat) {stations : Nat}
    (some : 0 < stations) : spreading.passed aids first stations < stations := by
  unfold passed
  cases found : ((aids.aids.drop first).take stations).findIdx?
      (fun aid => spreading.lastAid < aid) with
  | none => exact some
  | some index =>
      rcases List.findIdx?_eq_some_iff_getElem.mp found with ⟨inside, _⟩
      exact Nat.lt_of_lt_of_le inside (List.length_take_le _ _)

theorem blockSize_pos (spreading : Spreading) {stations : Nat} (some : 0 < stations)
    (passed : Nat) : 0 < spreading.blockSize stations passed := by
  unfold blockSize
  split
  · exact Nat.succ_pos _
  · exact spreading.split_pos some

end Spreading

namespace WindowConfig

theorem nextBlock?_eq (spreading : Spreading) (aids : AidList) {first last : Nat}
    (ordered : first ≤ last) (few : last + 1 - first < 65536) :
    nextBlock? spreading aids first last =
      some (first + spreading.passed aids first (last + 1 - first),
        min (first + spreading.passed aids first (last + 1 - first) +
          spreading.blockSize (last + 1 - first)
            (spreading.passed aids first (last + 1 - first)) - 1) last) := by
  have stations : 0 < last + 1 - first := by omega
  have size := spreading.blockSize_pos stations (spreading.passed aids first (last + 1 - first))
  have nonzero : first + spreading.passed aids first (last + 1 - first) +
      spreading.blockSize (last + 1 - first)
        (spreading.passed aids first (last + 1 - first)) ≠ 0 := by omega
  unfold nextBlock?
  rw [if_neg (Nat.not_lt.mpr ordered)]
  simp only [Nat.mod_eq_of_lt few]
  exact if_neg nonzero

theorem nextBlock?_bounds (spreading : Spreading) (aids : AidList) {first last : Nat}
    (ordered : first ≤ last) (few : last + 1 - first < 65536) :
    ∃ blockFirst blockLast, nextBlock? spreading aids first last = some (blockFirst, blockLast) ∧
      first ≤ blockFirst ∧ blockFirst ≤ blockLast ∧ blockLast ≤ last := by
  have stations : 0 < last + 1 - first := by omega
  have passed := spreading.passed_lt aids first stations
  have size := spreading.blockSize_pos stations (spreading.passed aids first (last + 1 - first))
  refine ⟨_, _, nextBlock?_eq spreading aids ordered few, ?_, ?_, ?_⟩
  · exact Nat.le_add_right _ _
  · exact Nat.le_min.mpr ⟨by omega, by omega⟩
  · exact Nat.min_le_right _ _

section Ordered

variable {window : WindowConfig} {aids : AidList}
  (ordered : window.indices.isResolved = true → window.indices.first ≤ window.indices.last)

include ordered

/-- The slice of indices in order lies in the list it is read in, also when they were resolved in
another one. -/
theorem spreadSlice?_bounds {first last : Nat}
    (slice : window.spreadSlice? aids = some (first, last)) : first ≤ last ∧ last < aids.size := by
  unfold spreadSlice? at slice
  split at slice
  · rename_i usable
    rw [Bool.and_eq_true, decide_eq_true_iff] at usable
    have forward := ordered usable.1
    have inList := usable.2
    cases slice
    omega
  · cases slice

theorem exists_beaconRange (few : aids.size < 65536) :
    ∃ advanced range, window.beaconRange aids = .ok (advanced, range) := by
  unfold WindowConfig.beaconRange
  split
  · exact ⟨_, _, rfl⟩
  · rename_i spreading _
    split
    · exact ⟨_, _, rfl⟩
    · rename_i first last chosen
      have slice : window.spreadSlice? aids = some (first, last) := by
        split at chosen
        · exact chosen
        · cases chosen
      rcases spreadSlice?_bounds ordered slice with ⟨forward, inList⟩
      obtain ⟨blockFirst, blockLast, block, _, inBlock, inSlice⟩ :=
        nextBlock?_bounds spreading aids forward (by omega)
      have lastListed : blockLast < aids.aids.length := Nat.lt_of_le_of_lt inSlice inList
      have firstListed : blockFirst < aids.aids.length := Nat.lt_of_le_of_lt inBlock lastListed
      rw [block]
      simp only [List.getElem?_eq_getElem firstListed, List.getElem?_eq_getElem lastListed]
      exact ⟨_, _, rfl⟩

end Ordered

/-! ### Moving the last station -/

/-- The window with another last station. A window without spreading has none and stays. -/
def spreadTo (last : Aid) (window : WindowConfig) : WindowConfig :=
  { window with
    spreading := window.spreading.map (fun spreading => { spreading with lastAid := last }) }

theorem spreadTo_spreadTo (window : WindowConfig) (earlier later : Aid) :
    (window.spreadTo earlier).spreadTo later = window.spreadTo later := by
  unfold spreadTo
  rw [Option.map_map]
  rfl

theorem resting_spreadTo (window : WindowConfig) (last : Aid) :
    (window.spreadTo last).resting = window.resting := by
  unfold spreadTo resting
  rw [Option.map_map]
  rfl

theorem exists_spreadTo_self (window : WindowConfig) : ∃ last, window = window.spreadTo last := by
  cases window with
  | mk id kind startAid endAid indices startTime slot periodic spreading =>
      cases spreading with
      | none => exact ⟨0, rfl⟩
      | some spreading => exact ⟨spreading.lastAid, rfl⟩

theorem spreadTo_of_beaconRange {window next : WindowConfig} {aids : AidList} {range : AidRange}
    (answered : window.beaconRange aids = .ok (next, range)) :
    ∃ last, next = window.spreadTo last := by
  cases configured : window.spreading with
  | none =>
      simp only [beaconRange, configured, Except.ok.injEq, Prod.mk.injEq] at answered
      rw [← answered.1]
      exact window.exists_spreadTo_self
  | some spreading =>
      have moved (last : Aid) :
          { window with spreading := some { spreading with lastAid := last } } =
            window.spreadTo last := by
        unfold spreadTo
        rw [configured]
        rfl
      simp only [beaconRange, configured] at answered
      split at answered
      · cases answered
        exact ⟨_, moved window.endAid⟩
      · split at answered
        · cases answered
        · split at answered
          · cases answered
            exact ⟨_, moved _⟩
          · cases answered

end WindowConfig

end RestrictedAccess
