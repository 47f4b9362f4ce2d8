/-
Whole cycles of a spread window over one list of stations. A cycle divides the slice into one block
for each of its beacons, in order and as evenly as whole stations allow, the larger blocks first. A
window that rests outside of its slice announces these blocks one after the other and over again,
although it keeps no position but the last station that it announced.
-/

import RestrictedAccess.Proofs.Window.Repetition

namespace RestrictedAccess

open Station

namespace Spreading

variable {spreading : Spreading} {stations block : Nat}

/-! ### The boundaries of the even division -/

def share (spreading : Spreading) (stations block : Nat) : Nat :=
  if block < (spreading.split stations).2 then (spreading.split stations).1 + 1
  else (spreading.split stations).1

theorem boundary_zero (spreading : Spreading) (stations : Nat) :
    spreading.boundary stations 0 = 0 := by
  unfold boundary
  rw [Nat.zero_mul, Nat.zero_min]

theorem boundary_succ (spreading : Spreading) (stations block : Nat) :
    spreading.boundary stations (block + 1) =
      spreading.boundary stations block + spreading.share stations block := by
  unfold boundary share
  rw [Nat.succ_mul]
  split <;> omega

theorem share_pos (spreading : Spreading) (some : 0 < stations) (block : Nat) :
    0 < spreading.share stations block := by
  have each := spreading.split_pos some
  unfold share
  split <;> omega

theorem boundary_le (inCycle : block ≤ spreading.cycleLength stations) :
    spreading.boundary stations block ≤ stations := by
  have whole := spreading.boundary_cycleLength stations
  have before : block * (spreading.split stations).1 ≤
      spreading.cycleLength stations * (spreading.split stations).1 :=
    Nat.mul_le_mul_right _ inCycle
  unfold boundary at whole ⊢
  omega

theorem boundary_lt (some : 0 < stations) (inCycle : block < spreading.cycleLength stations) :
    spreading.boundary stations block < stations := by
  have next := boundary_le (Nat.succ_le_of_lt inCycle)
  have size := spreading.share_pos some block
  rw [boundary_succ] at next
  omega

/-- The stations that were passed tell whether the leading blocks are used up. -/
theorem boundary_lt_leading_iff (spreading : Spreading) (stations block : Nat) :
    spreading.boundary stations block <
        ((spreading.split stations).1 + 1) * (spreading.split stations).2 ↔
      block < (spreading.split stations).2 := by
  unfold boundary
  rw [Nat.succ_mul, Nat.mul_comm (spreading.split stations).1]
  constructor
  · intro before
    apply Nat.lt_of_not_le
    intro behind
    have all := Nat.mul_le_mul_right (spreading.split stations).1 behind
    omega
  · intro leading
    have all := Nat.mul_le_mul_right (spreading.split stations).1 (Nat.le_of_lt leading)
    omega

theorem blockSize_boundary (spreading : Spreading) (stations block : Nat) :
    spreading.blockSize stations (spreading.boundary stations block) =
      spreading.share stations block := by
  unfold blockSize share
  simp only [boundary_lt_leading_iff]

theorem blockEnd_boundary (some : 0 < stations) (inCycle : block < spreading.cycleLength stations) :
    spreading.blockEnd stations (spreading.boundary stations block) + 1 =
      spreading.boundary stations (block + 1) := by
  have next := boundary_le (Nat.succ_le_of_lt inCycle)
  have size := spreading.share_pos some block
  unfold blockEnd
  rw [blockSize_boundary]
  rw [boundary_succ] at next ⊢
  omega

/-- A sweep that stands at a boundary goes on to the next one, and from the last one to the
front. -/
theorem nextPosition_boundary (some : 0 < stations)
    (inCycle : block < spreading.cycleLength stations) :
    spreading.nextPosition stations (spreading.boundary stations block) =
      spreading.boundary stations ((block + 1) % spreading.cycleLength stations) := by
  unfold nextPosition
  rw [blockEnd_boundary some inCycle]
  by_cases more : block + 1 < spreading.cycleLength stations
  · rw [Nat.mod_eq_of_lt more, if_pos (boundary_lt some more)]
  · have last : block + 1 = spreading.cycleLength stations := by omega
    rw [last, boundary_cycleLength, Nat.mod_self, if_neg (Nat.lt_irrefl stations), boundary_zero]

theorem positionAfter_front (spreading : Spreading) (some : 0 < stations) (beacons : Nat) :
    spreading.positionAfter stations 0 beacons =
      spreading.boundary stations (beacons % spreading.cycleLength stations) := by
  have cycle := spreading.cycleLength_pos stations
  induction beacons with
  | zero => rw [Nat.zero_mod, boundary_zero, positionAfter]
  | succ beacons ih =>
      rw [positionAfter, ih, nextPosition_boundary some (Nat.mod_lt beacons cycle), Nat.mod_add_mod]

/-! ### The blocks of a slice -/

def blockOf (spreading : Spreading) (slice : List Aid) (block : Nat) : List Aid :=
  (slice.drop (spreading.boundary slice.length block)).take (spreading.share slice.length block)

def blocks (spreading : Spreading) (slice : List Aid) : List (List Aid) :=
  (List.range (spreading.cycleLength slice.length)).map (spreading.blockOf slice)

theorem length_blocks (spreading : Spreading) (slice : List Aid) :
    (spreading.blocks slice).length = spreading.cycleLength slice.length := by
  unfold blocks
  rw [List.length_map, List.length_range]

theorem getElem?_blocks {slice : List Aid} (inCycle : block < spreading.cycleLength slice.length) :
    (spreading.blocks slice)[block]? = some (spreading.blockOf slice block) := by
  unfold blocks
  rw [List.getElem?_map, List.getElem?_range inCycle, Option.map_some]

/-- Every station of the slice is in a block, and the blocks follow each other in order. -/
theorem flatten_blocks (spreading : Spreading) (slice : List Aid) :
    (spreading.blocks slice).flatten = slice := by
  have upTo (count : Nat) : ((List.range count).map (spreading.blockOf slice)).flatten =
      slice.take (spreading.boundary slice.length count) := by
    induction count with
    | zero => rw [boundary_zero, List.take_zero, List.range_zero, List.map_nil, List.flatten_nil]
    | succ count ih =>
        rw [List.range_succ, List.map_append, List.flatten_append, ih, boundary_succ,
          List.take_add, List.map_singleton, List.flatten_singleton]
        rfl
  unfold blocks
  rw [upTo, boundary_cycleLength, List.take_length]

theorem length_blockOf {slice : List Aid} (inCycle : block < spreading.cycleLength slice.length) :
    (spreading.blockOf slice block).length = spreading.share slice.length block := by
  have next := boundary_le (Nat.succ_le_of_lt inCycle)
  rw [boundary_succ] at next
  unfold blockOf
  rw [List.length_take, List.length_drop]
  omega

/-- Without a limit on the spread the blocks stay within the nominal size. -/
theorem length_blockOf_le {slice : List Aid} (enabled : spreading.isEnabled = true)
    (some : 0 < slice.length)
    (unlimited : ¬ (0 < spreading.maxSpread.toNat ∧
      spreading.maxSpread.toNat < slice.length / spreading.nominal.toNat))
    (inCycle : block < spreading.cycleLength slice.length) :
    (spreading.blockOf slice block).length ≤ spreading.nominal.toNat := by
  have nominal := nominal_pos enabled
  have cycle := cycleLength_eq enabled some
  rw [if_neg unlimited] at cycle
  have rounded := Nat.div_add_mod (slice.length + spreading.nominal.toNat - 1)
    spreading.nominal.toNat
  have rest := Nat.mod_lt (slice.length + spreading.nominal.toNat - 1) nominal
  rw [← cycle] at rounded
  have enough : slice.length ≤ spreading.nominal.toNat * spreading.cycleLength slice.length := by
    omega
  have whole := Nat.div_add_mod slice.length (spreading.cycleLength slice.length)
  have left := Nat.mod_lt slice.length (spreading.cycleLength_pos slice.length)
  rw [length_blockOf inCycle]
  unfold share split
  simp only
  split
  · -- A larger block leaves some station over, so the even share is below the nominal size.
    apply Nat.succ_le_of_lt
    apply Nat.lt_of_not_le
    intro more
    have all := Nat.mul_le_mul_left (spreading.cycleLength slice.length) more
    rw [Nat.mul_comm _ spreading.nominal.toNat] at all
    omega
  · apply Nat.div_le_of_le_mul
    rw [Nat.mul_comm]
    exact enough

end Spreading

structure AidRange.Spans (range : AidRange) (stations : List Aid) : Prop where
  first : stations.head? = some range.first
  last : stations.getLast? = some range.last

theorem AidRange.Spans.eq {range other : AidRange} {stations : List Aid}
    (spans : range.Spans stations) (same : other.Spans stations) : range = other := by
  cases range
  cases other
  cases Option.some.inj (spans.first.symm.trans same.first)
  cases Option.some.inj (spans.last.symm.trans same.last)
  rfl

namespace Spreading

variable {spreading : Spreading} {slice : List Aid} {block : Nat} {range : AidRange}

theorem BlockAt.spans (inCycle : block < spreading.cycleLength slice.length)
    (blockAt : spreading.BlockAt slice (spreading.boundary slice.length block) range) :
    range.Spans (spreading.blockOf slice block) := by
  obtain ⟨listed, _⟩ := List.getElem?_eq_some_iff.mp blockAt.first
  have some := Nat.zero_lt_of_lt listed
  have size := spreading.share_pos some block
  have last := blockEnd_boundary some inCycle
  rw [boundary_succ] at last
  refine ⟨?_, ?_⟩
  · unfold blockOf
    rw [List.head?_take, if_neg (Nat.ne_of_gt size), List.head?_drop]
    exact blockAt.first
  · rw [List.getLast?_eq_getElem?, length_blockOf inCycle]
    unfold blockOf
    rw [List.getElem?_take, if_pos (by omega), List.getElem?_drop]
    have index : spreading.boundary slice.length block +
        (spreading.share slice.length block - 1) =
          spreading.blockEnd slice.length (spreading.boundary slice.length block) := by omega
    rw [index]
    exact blockAt.last

/-- The last announced station is in front of the slice, or the slice is passed. -/
def RestsOutside (spreading : Spreading) (slice : List Aid) : Prop :=
  ∀ first last, slice.head? = some first → slice.getLast? = some last →
    spreading.lastAid < first ∨ last ≤ spreading.lastAid

theorem RestsOutside.position (outside : spreading.RestsOutside slice)
    (ascending : slice.Pairwise (fun earlier later => earlier < later)) :
    spreading.position slice = 0 := by
  cases slice with
  | nil => rfl
  | cons first rest =>
      have nonempty : first :: rest ≠ [] := List.cons_ne_nil first rest
      rcases outside first _ rfl (List.getLast?_eq_some_getLast nonempty) with ahead | passed
      · unfold position
        rw [List.findIdx?_cons, if_pos (decide_eq_true ahead)]
        rfl
      · apply position_of_passed
        intro aid member
        obtain ⟨index, placed⟩ := List.mem_iff_getElem?.mp member
        obtain ⟨listed, _⟩ := List.getElem?_eq_some_iff.mp placed
        have atEnd := List.getLast?_eq_some_getLast nonempty
        rw [List.getLast?_eq_getElem?] at atEnd
        have within :=
          AidList.le_of_ascending ascending (Nat.le_sub_one_of_lt listed) placed atEnd
        exact UInt16.le_trans within passed

end Spreading

namespace WindowConfig

variable {window : WindowConfig} {aids : AidList} {spreading : Spreading} {slice : List Aid}

/-! ### Successive announcements -/

def afterBeacons (aids : AidList) (window : WindowConfig) : Nat → WindowConfig
  | 0 => window
  | beacons + 1 => (window.afterBeacons aids beacons).advanced aids

def rangeAt (aids : AidList) (window : WindowConfig) (beacon : Nat) : AidRange :=
  ((window.afterBeacons aids beacon).announcing aids).2

/-- A spread window whose cached indices name a slice of an ascending list. -/
structure SpreadsOver (window : WindowConfig) (aids : AidList) (spreading : Spreading)
    (slice : List Aid) : Prop where
  ascending : aids.Ascending
  configured : window.spreading = some spreading
  enabled : spreading.isEnabled = true
  indices : ∃ first last : Nat, window.indices = ⟨first, last⟩ ∧ first ≤ last ∧
    last < aids.size ∧ slice = aids.segment first last
  few : slice.length < 65536

theorem SpreadsOver.ascending_slice (spreads : window.SpreadsOver aids spreading slice) :
    slice.Pairwise (fun earlier later => earlier < later) := by
  obtain ⟨first, last, _, _, _, rfl⟩ := spreads.indices
  exact spreads.ascending.segment first last

theorem SpreadsOver.length_pos (spreads : window.SpreadsOver aids spreading slice) :
    0 < slice.length := by
  obtain ⟨first, last, _, forward, inList, rfl⟩ := spreads.indices
  unfold AidList.size at inList
  unfold AidList.segment
  rw [List.length_take, List.length_drop]
  omega

theorem SpreadsOver.slice_eq (spreads : window.SpreadsOver aids spreading slice)
    (resolved : window.indices = aids.resolve window.startAid window.endAid) :
    slice = aids.between window.startAid window.endAid := by
  obtain ⟨first, last, indices, _, _, rfl⟩ := spreads.indices
  exact spreads.ascending.slice_of_resolve_eq (resolved.symm.trans indices)

/-- The window announces the block at its position, and spreads over the same slice from there. -/
theorem SpreadsOver.announcing (spreads : window.SpreadsOver aids spreading slice) :
    ∃ range, spreading.BlockAt slice (spreading.position slice) range ∧
      window.beaconRange aids = .ok (window.advanced aids, range) ∧
      (window.announcing aids).2 = range ∧
      (window.advanced aids).SpreadsOver aids { spreading with lastAid := range.last } slice := by
  obtain ⟨first, last, indices, forward, inList, rfl⟩ := spreads.indices
  have length : (aids.segment first last).length = last + 1 - first := by
    unfold AidList.size at inList
    unfold AidList.segment
    rw [List.length_take, List.length_drop]
    omega
  obtain ⟨range, block, ranged⟩ := beaconRange_of_slice
    (spreadSlice?_of_indices indices forward inList) forward inList (length ▸ spreads.few)
    spreads.configured spreads.enabled rfl
  have announced := announcing_of_beaconRange ranged
  have advanced : window.advanced aids =
      { window with spreading := some { spreading with lastAid := range.last } } :=
    congrArg Prod.fst announced
  refine ⟨range, block, advanced ▸ ranged, congrArg Prod.snd announced, ?_⟩
  rw [advanced]
  exact
    { ascending := spreads.ascending
      configured := rfl
      enabled := spreads.enabled
      indices := ⟨first, last, indices, forward, inList, rfl⟩
      few := spreads.few }

theorem SpreadsOver.afterBeacons (spreads : window.SpreadsOver aids spreading slice)
    (beacons : Nat) :
    ∃ last, (window.afterBeacons aids beacons).SpreadsOver aids
        { spreading with lastAid := last } slice ∧
      ({ spreading with lastAid := last } : Spreading).position slice =
        spreading.positionAfter slice.length (spreading.position slice) beacons := by
  induction beacons with
  | zero => exact ⟨spreading.lastAid, spreads, rfl⟩
  | succ beacons ih =>
      obtain ⟨last, current, position⟩ := ih
      obtain ⟨range, block, _, _, next⟩ := current.announcing
      refine ⟨range.last, next, ?_⟩
      have moved := block.position_eq spreads.ascending_slice
      rw [position] at moved
      exact moved

/-- Every announcement succeeds, and its range is a block of the sweep. -/
theorem SpreadsOver.rangeAt (spreads : window.SpreadsOver aids spreading slice) (beacon : Nat) :
    (window.afterBeacons aids beacon).beaconRange aids =
        .ok (window.afterBeacons aids (beacon + 1), window.rangeAt aids beacon) ∧
      spreading.BlockAt slice
        (spreading.positionAfter slice.length (spreading.position slice) beacon)
        (window.rangeAt aids beacon) := by
  obtain ⟨last, current, position⟩ := spreads.afterBeacons beacon
  obtain ⟨range, block, ranged, announced, _⟩ := current.announcing
  rw [position] at block
  have same : window.rangeAt aids beacon = range := announced
  rw [same]
  exact ⟨ranged, block.first, block.last⟩

/-! ### The cycle of a window -/

structure DividesEvenly (window : WindowConfig) (aids : AidList) (spreading : Spreading)
    (slice : List Aid) : Prop where
  /-- The slice of indices that were resolved for the range of the window. -/
  resolved : window.indices = aids.resolve window.startAid window.endAid →
    slice = aids.between window.startAid window.endAid
  /-- No station is listed twice, so different blocks have no station in common. -/
  ascending : slice.Pairwise (fun earlier later => earlier < later)
  /-- The beacons of a cycle. The nominal size decides unless the limit on the spread is smaller. -/
  cycle : (spreading.blocks slice).length =
    if 0 < spreading.maxSpread.toNat ∧
        spreading.maxSpread.toNat < slice.length / spreading.nominal.toNat then
      spreading.maxSpread.toNat
    else (slice.length + spreading.nominal.toNat - 1) / spreading.nominal.toNat
  whole : (spreading.blocks slice).flatten = slice
  sizes : ∀ index block, (spreading.blocks slice)[index]? = some block →
    block.length =
      if index < slice.length % (spreading.blocks slice).length then
        slice.length / (spreading.blocks slice).length + 1
      else slice.length / (spreading.blocks slice).length
  nominal : ¬ (0 < spreading.maxSpread.toNat ∧
      spreading.maxSpread.toNat < slice.length / spreading.nominal.toNat) →
    ∀ block, block ∈ spreading.blocks slice → block.length ≤ spreading.nominal.toNat
  answered : ∀ beacon, (window.afterBeacons aids beacon).beaconRange aids =
    .ok (window.afterBeacons aids (beacon + 1), window.rangeAt aids beacon)
  announced : ∀ beacon, ∃ block,
    (spreading.blocks slice)[beacon % (spreading.blocks slice).length]? = some block ∧
      (window.rangeAt aids beacon).Spans block
  startsOver : slice.head? =
    some (window.rangeAt aids (spreading.blocks slice).length).first
  repeats : ∀ beacon, window.rangeAt aids (beacon + (spreading.blocks slice).length) =
    window.rangeAt aids beacon

/-- From outside of the slice the sweep goes from boundary to boundary. -/
theorem SpreadsOver.blockAt_boundary (spreads : window.SpreadsOver aids spreading slice)
    (outside : spreading.RestsOutside slice) (beacon : Nat) :
    spreading.BlockAt slice
      (spreading.boundary slice.length (beacon % spreading.cycleLength slice.length))
      (window.rangeAt aids beacon) := by
  obtain ⟨_, block⟩ := spreads.rangeAt beacon
  rw [outside.position spreads.ascending_slice,
    spreading.positionAfter_front spreads.length_pos beacon] at block
  exact block

/-- A spread window that rests outside of its slice divides it evenly, cycle by cycle. -/
theorem slice_divided_evenly (spreads : window.SpreadsOver aids spreading slice)
    (outside : spreading.RestsOutside slice) :
    window.DividesEvenly aids spreading slice := by
  have length := spreading.length_blocks slice
  have positive := spreading.cycleLength_pos slice.length
  have spans (beacon : Nat) : (window.rangeAt aids beacon).Spans
      (spreading.blockOf slice (beacon % spreading.cycleLength slice.length)) :=
    (spreads.blockAt_boundary outside beacon).spans (Nat.mod_lt beacon positive)
  refine
    { resolved := spreads.slice_eq
      ascending := spreads.ascending_slice
      cycle := length.trans (Spreading.cycleLength_eq spreads.enabled spreads.length_pos)
      whole := spreading.flatten_blocks slice
      sizes := ?sizes
      nominal := ?nominal
      answered := fun beacon => (spreads.rangeAt beacon).1
      announced := ?announced
      startsOver := ?startsOver
      repeats := ?repeats }
  case sizes =>
    intro index block listed
    have inCycle : index < spreading.cycleLength slice.length :=
      length ▸ (List.getElem?_eq_some_iff.mp listed).1
    rw [Spreading.getElem?_blocks inCycle] at listed
    cases listed
    rw [length]
    exact Spreading.length_blockOf inCycle
  case nominal =>
    intro unlimited block member
    obtain ⟨index, listed, rfl⟩ := List.mem_map.mp member
    exact Spreading.length_blockOf_le spreads.enabled spreads.length_pos unlimited
      (List.mem_range.mp listed)
  case announced =>
    intro beacon
    rw [length]
    exact ⟨_, Spreading.getElem?_blocks (Nat.mod_lt beacon positive), spans beacon⟩
  case startsOver =>
    have block := spreads.blockAt_boundary outside (spreading.cycleLength slice.length)
    rw [Nat.mod_self, Spreading.boundary_zero] at block
    rw [length, List.head?_eq_getElem?]
    exact block.first
  case repeats =>
    intro beacon
    have later := spans (beacon + spreading.cycleLength slice.length)
    rw [Nat.add_mod_right] at later
    rw [length]
    exact later.eq (spans beacon)

def sparseStations : AidList :=
  ⟨[2, 5, 9, 11, 40, 41, 60]⟩

/-- A window over five stations of a sparse list, spread over three beacons at most, that has
announced the last of them. -/
def sparseWindow : WindowConfig :=
  { WindowConfig.generic 1 5 50 ⟨4, 1000, false⟩ with
    indices := ⟨1, 5⟩
    spreading := some ⟨3, 1, 41⟩ }

theorem slice_divided_evenly_among_sparse :
    sparseWindow.SpreadsOver sparseStations ⟨3, 1, 41⟩ [5, 9, 11, 40, 41] ∧
      (⟨3, 1, 41⟩ : Spreading).RestsOutside [5, 9, 11, 40, 41] ∧
      (⟨3, 1, 41⟩ : Spreading).blocks [5, 9, 11, 40, 41] = [[5, 9], [11, 40], [41]] ∧
      sparseWindow.DividesEvenly sparseStations ⟨3, 1, 41⟩ [5, 9, 11, 40, 41] := by
  have spreads : sparseWindow.SpreadsOver sparseStations ⟨3, 1, 41⟩ [5, 9, 11, 40, 41] :=
    { ascending := by
        unfold AidList.Ascending sparseStations
        decide
      configured := rfl
      enabled := rfl
      indices := ⟨1, 5, rfl, by decide, by decide, rfl⟩
      few := by decide }
  have outside : (⟨3, 1, 41⟩ : Spreading).RestsOutside [5, 9, 11, 40, 41] := by
    intro first last _ passed
    cases passed
    exact Or.inr (by decide)
  exact ⟨spreads, outside, by decide, slice_divided_evenly spreads outside⟩

end WindowConfig

end RestrictedAccess
