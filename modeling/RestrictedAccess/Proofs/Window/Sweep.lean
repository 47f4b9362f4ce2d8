/-
The sweep of a spread window over its stations. Each beacon takes the block at the current position
and moves the position behind it, or back to the front at the end. Wherever a sweep begins, one
beacon more than a cycle has is enough to pass every station: the leading blocks are decided by
the position and not by the number of beacons, so a sweep never falls behind the even division of
the stations.
-/

import RestrictedAccess.Proofs.Element.Build
import RestrictedAccess.Proofs.Station.Slices

namespace RestrictedAccess

open Station

namespace Spreading

variable {spreading : Spreading} {stations : Nat}

def blockEnd (spreading : Spreading) (stations position : Nat) : Nat :=
  min (position + spreading.blockSize stations position - 1) (stations - 1)

def nextPosition (spreading : Spreading) (stations position : Nat) : Nat :=
  if spreading.blockEnd stations position + 1 < stations then
    spreading.blockEnd stations position + 1
  else 0

def positionAfter (spreading : Spreading) (stations position : Nat) : Nat → Nat
  | 0 => position
  | beacons + 1 =>
      spreading.nextPosition stations (spreading.positionAfter stations position beacons)

theorem positionAfter_succ (spreading : Spreading) (stations position beacons : Nat) :
    spreading.positionAfter stations position (beacons + 1) =
      spreading.positionAfter stations (spreading.nextPosition stations position) beacons := by
  induction beacons with
  | zero => rfl
  | succ beacons ih => exact congrArg (spreading.nextPosition stations) ih

theorem positionAfter_add (spreading : Spreading) (stations position earlier later : Nat) :
    spreading.positionAfter stations position (earlier + later) =
      spreading.positionAfter stations
        (spreading.positionAfter stations position earlier) later := by
  induction later with
  | zero => rfl
  | succ later ih => exact congrArg (spreading.nextPosition stations) ih

theorem nextPosition_eq (spreading : Spreading) {position : Nat}
    (more : position + spreading.blockSize stations position < stations) :
    spreading.nextPosition stations position =
      position + spreading.blockSize stations position := by
  have size := spreading.blockSize_pos (Nat.zero_lt_of_lt more) position
  unfold nextPosition blockEnd
  rw [if_pos (by omega)]
  omega

/-! ### The even division -/

/-- Where a block of the even division begins. Leading blocks have one station more. -/
def boundary (spreading : Spreading) (stations block : Nat) : Nat :=
  block * (spreading.split stations).1 + min block (spreading.split stations).2

theorem boundary_cycleLength (spreading : Spreading) (stations : Nat) :
    spreading.boundary stations (spreading.cycleLength stations) = stations := by
  have whole := Nat.div_add_mod stations (spreading.cycleLength stations)
  have small := Nat.mod_lt stations (spreading.cycleLength_pos stations)
  unfold boundary split
  simp only
  rw [Nat.min_eq_right (Nat.le_of_lt small)]
  exact whole

theorem boundary_succ_le (spreading : Spreading) (stations block : Nat) :
    spreading.boundary stations (block + 1) ≤
      spreading.boundary stations block + (spreading.split stations).1 + 1 := by
  unfold boundary
  rw [Nat.succ_mul]
  omega

/-- A block that begins at a boundary or behind it ends at the next boundary or behind it. -/
theorem boundary_succ_le_blockSize {position block : Nat}
    (reached : spreading.boundary stations block ≤ position) :
    spreading.boundary stations (block + 1) ≤
      position + spreading.blockSize stations position := by
  unfold blockSize
  split
  · have step := spreading.boundary_succ_le stations block
    omega
  · rename_i past
    by_cases leading : block < (spreading.split stations).2
    · -- The position is behind all leading blocks, so it is behind this one.
      have all : (block + 1) * ((spreading.split stations).1 + 1) ≤
          (spreading.split stations).2 * ((spreading.split stations).1 + 1) :=
        Nat.mul_le_mul_right _ leading
      rw [Nat.mul_comm (spreading.split stations).2] at all
      unfold boundary
      rw [Nat.min_eq_left leading]
      rw [Nat.mul_succ] at all
      omega
    · unfold boundary at reached ⊢
      rw [Nat.succ_mul]
      omega

theorem exists_block (spreading : Spreading) {position : Nat} (inside : position < stations) :
    ∃ block, block < spreading.cycleLength stations ∧
      spreading.boundary stations block ≤ position ∧
      position < spreading.boundary stations (block + 1) := by
  have search (blocks : Nat) (before : position < spreading.boundary stations blocks) :
      ∃ block, block < blocks ∧ spreading.boundary stations block ≤ position ∧
        position < spreading.boundary stations (block + 1) := by
    induction blocks with
    | zero =>
        unfold boundary at before
        omega
    | succ blocks ih =>
        by_cases earlier : position < spreading.boundary stations blocks
        · obtain ⟨block, sooner, reached, next⟩ := ih earlier
          exact ⟨block, Nat.lt_succ_of_lt sooner, reached, next⟩
        · exact ⟨blocks, Nat.lt_succ_self blocks, Nat.le_of_not_lt earlier, before⟩
  apply search
  rw [spreading.boundary_cycleLength]
  exact inside

/-! ### A sweep -/

def Passes (spreading : Spreading) (stations position beacon station : Nat) : Prop :=
  spreading.positionAfter stations position beacon ≤ station ∧
    station ≤ spreading.blockEnd stations (spreading.positionAfter stations position beacon)

/-- A station between the position and a boundary is passed on the way to the boundary. -/
theorem exists_passes {position block beacons station : Nat} (listed : station < stations)
    (reached : spreading.boundary stations block ≤ position) (ahead : position ≤ station)
    (before : station < spreading.boundary stations (block + beacons)) :
    ∃ beacon, beacon < beacons ∧ spreading.Passes stations position beacon station := by
  induction beacons generalizing position block with
  | zero => exact absurd reached (by rw [Nat.add_zero] at before; omega)
  | succ beacons ih =>
      by_cases within : station ≤ spreading.blockEnd stations position
      · exact ⟨0, Nat.succ_pos beacons, ahead, within⟩
      · have later : position + spreading.blockSize stations position ≤ station := by
          have size := spreading.blockSize_pos (Nat.zero_lt_of_lt listed) position
          unfold blockEnd at within
          omega
        have further := boundary_succ_le_blockSize reached
        have next := spreading.nextPosition_eq (Nat.lt_of_le_of_lt later listed)
        rw [← next] at further later
        obtain ⟨beacon, sooner, passes⟩ := ih further later
          (by rw [Nat.add_right_comm]; exact before)
        refine ⟨beacon + 1, Nat.succ_lt_succ sooner, ?_⟩
        unfold Passes
        rw [positionAfter_succ]
        exact passes

/-- A sweep is back at the front when the blocks are used up that its position has left. -/
theorem exists_return {position block left : Nat} (inside : position < stations)
    (reached : spreading.boundary stations block ≤ position)
    (total : block + left = spreading.cycleLength stations) :
    ∃ beacon, beacon ≤ left ∧ spreading.positionAfter stations position beacon = 0 := by
  induction left generalizing position block with
  | zero =>
      rw [Nat.add_zero] at total
      rw [total, spreading.boundary_cycleLength] at reached
      omega
  | succ left ih =>
      by_cases more : position + spreading.blockSize stations position < stations
      · have further := boundary_succ_le_blockSize reached
        rw [← spreading.nextPosition_eq more] at further more
        obtain ⟨beacon, sooner, returns⟩ := ih more further (by omega)
        refine ⟨beacon + 1, Nat.succ_le_succ sooner, ?_⟩
        rw [positionAfter_succ]
        exact returns
      · refine ⟨1, Nat.succ_pos left, ?_⟩
        have size := spreading.blockSize_pos (Nat.zero_lt_of_lt inside) position
        change spreading.nextPosition stations position = 0
        unfold nextPosition blockEnd
        rw [if_neg (by omega)]

/-- One beacon more than a cycle has is enough to pass every station, wherever the sweep begins. -/
theorem passes_all (spreading : Spreading) {position station : Nat} (inside : position < stations)
    (listed : station < stations) :
    ∃ beacon, beacon ≤ spreading.cycleLength stations ∧
      spreading.Passes stations position beacon station := by
  obtain ⟨block, counted, reached, next⟩ := spreading.exists_block inside
  obtain ⟨left, total⟩ := Nat.exists_eq_add_of_le (Nat.le_of_lt counted)
  by_cases ahead : position ≤ station
  · have before : station < spreading.boundary stations (block + left) := by
      rw [← total, spreading.boundary_cycleLength]
      exact listed
    obtain ⟨beacon, sooner, passes⟩ := exists_passes listed reached ahead before
    exact ⟨beacon, by omega, passes⟩
  · -- The sweep goes back to the front first and then up to the block it began in.
    obtain ⟨first, returned, front⟩ := exists_return inside reached total.symm
    have start : spreading.boundary stations 0 ≤ 0 := by
      unfold boundary
      omega
    have before : station < spreading.boundary stations (0 + (block + 1)) := by
      rw [Nat.zero_add]
      omega
    obtain ⟨second, sooner, passes⟩ :=
      exists_passes listed start (Nat.zero_le station) before
    refine ⟨first + second, by omega, ?_⟩
    unfold Passes
    rw [positionAfter_add, front]
    exact passes

/-! ### Stations of the slice -/

/-- The position in a slice, the first station behind the last one that was announced. -/
def position (spreading : Spreading) (slice : List Aid) : Nat :=
  (slice.findIdx? (fun aid => spreading.lastAid < aid)).getD 0

theorem position_lt (spreading : Spreading) {slice : List Aid} (some : slice ≠ []) :
    spreading.position slice < slice.length := by
  unfold position
  cases found : slice.findIdx? (fun aid => spreading.lastAid < aid) with
  | none => exact List.length_pos_of_ne_nil some
  | some index =>
      rcases List.findIdx?_eq_some_iff_getElem.mp found with ⟨inside, _⟩
      exact inside

/-- A slice that was passed as a whole is begun again. -/
theorem position_of_passed {slice : List Aid}
    (passed : ∀ aid, aid ∈ slice → aid ≤ spreading.lastAid) : spreading.position slice = 0 := by
  have none : slice.findIdx? (fun aid => decide (spreading.lastAid < aid)) = none := by
    rw [List.findIdx?_eq_none_iff]
    intro aid member
    exact decide_eq_false (UInt16.not_lt.mpr (passed aid member))
  unfold position
  rw [none]
  rfl

theorem position_of_last {slice : List Aid}
    (ascending : slice.Pairwise (fun earlier later => earlier < later)) {last : Nat}
    (listed : last < slice.length) :
    ({ spreading with lastAid := slice[last] } : Spreading).position slice =
      if last + 1 < slice.length then last + 1 else 0 := by
  have behind {index : Nat} (inside : index < slice.length) :
      slice[last] < slice[index] ↔ last < index :=
    AidList.lt_iff_of_ascending ascending listed inside
  split
  · rename_i more
    have found : slice.findIdx? (fun aid => decide (slice[last] < aid)) = some (last + 1) := by
      rw [List.findIdx?_eq_some_iff_getElem]
      refine ⟨more, decide_eq_true ((behind more).mpr (Nat.lt_succ_self last)), ?_⟩
      intro index sooner
      rw [decide_eq_true_iff, behind]
      omega
    unfold position
    rw [found]
    rfl
  · rename_i atEnd
    apply position_of_passed
    intro aid member
    obtain ⟨index, inside, same⟩ := List.getElem_of_mem member
    subst same
    rw [← UInt16.not_lt, behind]
    omega

structure BlockAt (spreading : Spreading) (slice : List Aid) (position : Nat)
    (range : AidRange) : Prop where
  first : slice[position]? = some range.first
  last : slice[spreading.blockEnd slice.length position]? = some range.last

/-- Announcing the block at the position moves a sweep to the next position. -/
theorem BlockAt.position_eq {slice : List Aid} {range : AidRange}
    (block : spreading.BlockAt slice (spreading.position slice) range)
    (ascending : slice.Pairwise (fun earlier later => earlier < later)) :
    ({ spreading with lastAid := range.last } : Spreading).position slice =
      spreading.nextPosition slice.length (spreading.position slice) := by
  obtain ⟨listed, same⟩ := List.getElem?_eq_some_iff.mp block.last
  rw [← same]
  exact position_of_last ascending listed

end Spreading

theorem WindowConfig.spreadSlice?_of_indices {window : WindowConfig} {aids : AidList}
    {first last : Nat} (indices : window.indices = ⟨first, last⟩) (forward : first ≤ last)
    (listed : last < aids.size) : window.spreadSlice? aids = some (first, last) := by
  have near : min last (aids.size - 1) = last := by omega
  have inFront : first < aids.size := by omega
  unfold spreadSlice? IndexPair.isResolved
  rw [indices]
  simp only [Int.toNat_natCast, Int.natCast_nonneg, decide_true, Bool.and_self, inFront, near,
    if_true]

/-- A window with a slice in the list announces the block at its position, and remembers the last
station of the block. -/
theorem WindowConfig.beaconRange_of_slice {window : WindowConfig} {spreading : Spreading}
    {aids : AidList} {first last : Nat} (usable : window.spreadSlice? aids = some (first, last))
    (forward : first ≤ last) (inList : last < aids.size) (few : last + 1 - first < 65536)
    (configured : window.spreading = some spreading) (enabled : spreading.isEnabled = true)
    {slice : List Aid} (cut : (aids.aids.drop first).take (last + 1 - first) = slice) :
    ∃ range, spreading.BlockAt slice (spreading.position slice) range ∧
      window.beaconRange aids =
        .ok ({ window with spreading := some { spreading with lastAid := range.last } },
          range) := by
  have length : slice.length = last + 1 - first := by
    rw [← cut, List.length_take, List.length_drop]
    unfold AidList.size at inList
    omega
  have nonempty : slice ≠ [] := by
    intro empty
    rw [empty, List.length_nil] at length
    omega
  have inside := spreading.position_lt nonempty
  have size := spreading.blockSize_pos (List.length_pos_of_ne_nil nonempty)
    (spreading.position slice)
  have endInside : spreading.blockEnd slice.length (spreading.position slice) < slice.length := by
    unfold Spreading.blockEnd
    omega
  have entry {index : Nat} (within : index < slice.length) :
      aids.aids[first + index]? = some slice[index] := by
    rw [← List.getElem?_eq_getElem within, ← cut, List.getElem?_take, if_pos (by omega),
      List.getElem?_drop]
  have passed : spreading.passed aids first (last + 1 - first) = spreading.position slice := by
    unfold Spreading.passed
    rw [cut]
    rfl
  have block := nextBlock?_eq spreading aids forward few
  have blockLast : min (first + spreading.position slice +
      spreading.blockSize slice.length (spreading.position slice) - 1) last =
        first + spreading.blockEnd slice.length (spreading.position slice) := by
    unfold Spreading.blockEnd
    omega
  rw [passed, ← length, blockLast] at block
  refine ⟨⟨_, _⟩, ⟨List.getElem?_eq_getElem inside, List.getElem?_eq_getElem endInside⟩, ?_⟩
  unfold beaconRange
  simp only [configured, enabled, if_true, usable, block, entry inside, entry endInside]

/-- A window that is resolved in the list sweeps over the stations of its range. -/
theorem WindowConfig.beaconRange_of_resolved {window : WindowConfig} {spreading : Spreading}
    {aids : AidList} (ascending : aids.Ascending) (member : window.startAid ∈ aids.aids)
    (ordered : window.startAid ≤ window.endAid) (few : aids.size < 65536)
    (indices : window.indices = aids.resolve window.startAid window.endAid)
    (configured : window.spreading = some spreading) (enabled : spreading.isEnabled = true)
    {slice : List Aid} (sliced : slice = aids.between window.startAid window.endAid) :
    ∃ range, spreading.BlockAt slice (spreading.position slice) range ∧
      window.beaconRange aids =
        .ok ({ window with spreading := some { spreading with lastAid := range.last } },
          range) := by
  obtain ⟨front, back, resolved, forward, inList, cut⟩ := ascending.resolve_eq member ordered
  rw [← sliced] at cut
  exact beaconRange_of_slice (spreadSlice?_of_indices (indices.trans resolved) forward inList)
    forward inList (by omega) configured enabled cut

end RestrictedAccess
