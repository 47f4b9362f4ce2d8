/-
A spread window while stations come and go. Before each beacon the list of stations may be another
one, in which the range of the window is resolved again; all that is carried from one beacon to the
next is the last station that was announced. The blocks and the indices change with the list, so the
argument is about stations and not about positions: every range goes on with the next station that
is listed by then, and a sweep ends when none is left.
-/

import RestrictedAccess.Proofs.Window.Sweep

namespace RestrictedAccess

open Station

/-! ### One range -/

/-- A range of stations that goes on behind a station, or begins at the front when no station of the
slice is left behind it. -/
structure AidRange.GoesOn (range : AidRange) (slice : List Aid) (behind : Aid) : Prop where
  first : range.first ∈ slice
  last : range.last ∈ slice
  forward : range.first ≤ range.last
  next : ∀ aid, aid ∈ slice → behind < aid → behind < range.first ∧ range.first ≤ aid
  front : (∀ aid, aid ∈ slice → aid ≤ behind) → slice[0]? = some range.first

namespace Spreading

variable {spreading : Spreading} {slice : List Aid} {range : AidRange}

theorem position_le {index : Nat} {aid : Aid} (placed : slice[index]? = some aid)
    (behind : spreading.lastAid < aid) : spreading.position slice ≤ index := by
  obtain ⟨listed, same⟩ := List.getElem?_eq_some_iff.mp placed
  unfold position
  cases found : slice.findIdx? (fun aid => decide (spreading.lastAid < aid)) with
  | none => exact Nat.zero_le index
  | some position =>
      obtain ⟨_, _, before⟩ := List.findIdx?_eq_some_iff_getElem.mp found
      apply Nat.le_of_not_lt
      intro sooner
      apply before index sooner
      rw [same]
      exact decide_eq_true behind

theorem behind_of_position {index : Nat} {aid first : Aid} (placed : slice[index]? = some aid)
    (behind : spreading.lastAid < aid)
    (atPosition : slice[spreading.position slice]? = some first) : spreading.lastAid < first := by
  unfold position at atPosition
  cases found : slice.findIdx? (fun aid => decide (spreading.lastAid < aid)) with
  | none =>
      have passed := List.findIdx?_eq_none_iff.mp found aid (List.mem_of_getElem? placed)
      exact absurd behind (of_decide_eq_false passed)
  | some position =>
      obtain ⟨listed, ahead, _⟩ := List.findIdx?_eq_some_iff_getElem.mp found
      rw [found, Option.getD_some, List.getElem?_eq_getElem listed] at atPosition
      cases atPosition
      exact of_decide_eq_true ahead

theorem BlockAt.goesOn (block : spreading.BlockAt slice (spreading.position slice) range)
    (ascending : slice.Pairwise (fun earlier later => earlier < later)) :
    range.GoesOn slice spreading.lastAid := by
  obtain ⟨listed, _⟩ := List.getElem?_eq_some_iff.mp block.first
  have size := spreading.blockSize_pos (Nat.zero_lt_of_lt listed) (spreading.position slice)
  have reaches : spreading.position slice ≤
      spreading.blockEnd slice.length (spreading.position slice) := by
    unfold blockEnd
    omega
  refine
    { first := List.mem_of_getElem? block.first
      last := List.mem_of_getElem? block.last
      forward := AidList.le_of_ascending ascending reaches block.first block.last
      next := ?_
      front := ?_ }
  · intro aid member behind
    obtain ⟨index, placed⟩ := List.mem_iff_getElem?.mp member
    exact ⟨behind_of_position placed behind block.first,
      AidList.le_of_ascending ascending (position_le placed behind) block.first placed⟩
  · intro passed
    have atFront := block.first
    rw [position_of_passed passed] at atFront
    exact atFront

end Spreading

theorem Station.AidList.head_between {list : AidList} (ascending : list.Ascending)
    {start stop first : Aid} (member : start ∈ list.aids) (ordered : start ≤ stop)
    (atFront : (list.between start stop)[0]? = some first) : first = start := by
  have inRange := mem_between.mpr ⟨member, UInt16.le_refl start, ordered⟩
  obtain ⟨index, placed⟩ := List.mem_iff_getElem?.mp inRange
  have below := le_of_ascending (ascending.between start stop) (Nat.zero_le index) atFront placed
  have above := (mem_between.mp (List.mem_of_getElem? atFront)).2.1
  exact UInt16.le_antisymm below above

namespace WindowConfig

variable {window : WindowConfig} {spreading : Spreading} {lists : Nat → AidList}

/-! ### Announcements in changing lists -/

def turn (lists : Nat → AidList) (window : WindowConfig) : Nat → WindowConfig
  | 0 => window.resolveIndices (lists 0)
  | beacon + 1 =>
      ((window.turn lists beacon).advanced (lists beacon)).resolveIndices (lists (beacon + 1))

def rangeIn (lists : Nat → AidList) (window : WindowConfig) (beacon : Nat) : AidRange :=
  ((window.turn lists beacon).announcing (lists beacon)).2

def listedAt (lists : Nat → AidList) (window : WindowConfig) (beacon : Nat) : List Aid :=
  (lists beacon).between window.startAid window.endAid

/-- A spread window with a range that starts at a station, whatever list it is resolved in. The
lists of finitely many beacons are the first ones of such a sequence. -/
structure Anchored (window : WindowConfig) (spreading : Spreading) (lists : Nat → AidList) :
    Prop where
  configured : window.spreading = some spreading
  enabled : spreading.isEnabled = true
  ordered : window.startAid ≤ window.endAid
  ascending : ∀ beacon, (lists beacon).Ascending
  starts : ∀ beacon, window.startAid ∈ (lists beacon).aids
  few : ∀ beacon, (lists beacon).size < 65536

structure InTurn (window : WindowConfig) (spreading : Spreading) (lists : Nat → AidList)
    (beacon : Nat) (behind : Aid) : Prop where
  configured : (window.turn lists beacon).spreading = some { spreading with lastAid := behind }
  startAid : (window.turn lists beacon).startAid = window.startAid
  endAid : (window.turn lists beacon).endAid = window.endAid
  indices : (window.turn lists beacon).indices =
    (lists beacon).resolve window.startAid window.endAid

theorem resolveIndices_of_spread (spread : window.usesSpreading = true) (aids : AidList) :
    window.resolveIndices aids =
      { window with indices := aids.resolve window.startAid window.endAid } :=
  if_pos spread

theorem Anchored.inTurn_zero (anchored : window.Anchored spreading lists) :
    window.InTurn spreading lists 0 spreading.lastAid := by
  have spread : window.usesSpreading = true := by
    unfold usesSpreading
    rw [anchored.configured]
    exact anchored.enabled
  have resolved : window.turn lists 0 = _ := resolveIndices_of_spread spread (lists 0)
  refine { configured := ?_, startAid := ?_, endAid := ?_, indices := ?_ } <;> rw [resolved]
  exact anchored.configured

/-- A beacon is answered with a range that goes on behind the last announced station, and leaves
the window with the last station of that range. -/
theorem Anchored.step (anchored : window.Anchored spreading lists) {beacon : Nat} {behind : Aid}
    (inTurn : window.InTurn spreading lists beacon behind) :
    (window.turn lists beacon).beaconRange (lists beacon) =
        .ok ((window.turn lists beacon).advanced (lists beacon), window.rangeIn lists beacon) ∧
      (window.rangeIn lists beacon).GoesOn (window.listedAt lists beacon) behind ∧
      window.InTurn spreading lists (beacon + 1) (window.rangeIn lists beacon).last := by
  have sliced : window.listedAt lists beacon = (lists beacon).between
      (window.turn lists beacon).startAid (window.turn lists beacon).endAid := by
    rw [inTurn.startAid, inTurn.endAid]
    rfl
  obtain ⟨range, block, ranged⟩ := beaconRange_of_resolved (anchored.ascending beacon)
    (inTurn.startAid.symm ▸ anchored.starts beacon)
    (inTurn.startAid.symm ▸ inTurn.endAid.symm ▸ anchored.ordered) (anchored.few beacon)
    (inTurn.startAid.symm ▸ inTurn.endAid.symm ▸ inTurn.indices) inTurn.configured
    anchored.enabled sliced
  have announced := announcing_of_beaconRange ranged
  have advanced : (window.turn lists beacon).advanced (lists beacon) = _ :=
    congrArg Prod.fst announced
  have same : window.rangeIn lists beacon = range := congrArg Prod.snd announced
  have next : window.turn lists (beacon + 1) = _ := congrArg
    (fun window => WindowConfig.resolveIndices window (lists (beacon + 1))) advanced
  rw [resolveIndices_of_spread (by exact anchored.enabled)] at next
  refine ⟨?_, ?_, ?_⟩
  · rw [advanced, same]
    exact ranged
  · rw [same]
    exact block.goesOn ((anchored.ascending beacon).between window.startAid window.endAid)
  · rw [same]
    refine { configured := ?_, startAid := ?_, endAid := ?_, indices := ?_ } <;> rw [next]
    · exact inTurn.startAid
    · exact inTurn.endAid
    · simp only [inTurn.startAid, inTurn.endAid]

theorem Anchored.exists_inTurn (anchored : window.Anchored spreading lists) (beacon : Nat) :
    ∃ behind, window.InTurn spreading lists beacon behind := by
  induction beacon with
  | zero => exact ⟨spreading.lastAid, anchored.inTurn_zero⟩
  | succ beacon ih =>
      obtain ⟨behind, inTurn⟩ := ih
      exact ⟨_, (anchored.step inTurn).2.2⟩

theorem Anchored.answered (anchored : window.Anchored spreading lists) (beacon : Nat) :
    (window.turn lists beacon).beaconRange (lists beacon) =
      .ok ((window.turn lists beacon).advanced (lists beacon), window.rangeIn lists beacon) := by
  obtain ⟨behind, inTurn⟩ := anchored.exists_inTurn beacon
  exact (anchored.step inTurn).1

theorem Anchored.goesOn_succ (anchored : window.Anchored spreading lists) (beacon : Nat) :
    (window.rangeIn lists (beacon + 1)).GoesOn (window.listedAt lists (beacon + 1))
      (window.rangeIn lists beacon).last := by
  obtain ⟨behind, inTurn⟩ := anchored.exists_inTurn beacon
  exact (anchored.step (anchored.step inTurn).2.2).2.1

theorem Anchored.goesOn (anchored : window.Anchored spreading lists) (beacon : Nat) :
    ∃ behind, (window.rangeIn lists beacon).GoesOn (window.listedAt lists beacon) behind := by
  obtain ⟨behind, inTurn⟩ := anchored.exists_inTurn beacon
  exact ⟨behind, (anchored.step inTurn).2.1⟩

theorem startAid_le_of_listedAt {beacon : Nat} {aid : Aid}
    (member : aid ∈ window.listedAt lists beacon) : window.startAid ≤ aid :=
  (AidList.mem_between.mp member).2.1

/-! ### Sweeps -/

/-- A range begins at the front exactly when no listed station is left behind the one before. -/
theorem Anchored.first_eq_startAid_iff (anchored : window.Anchored spreading lists)
    (beacon : Nat) :
    (window.rangeIn lists (beacon + 1)).first = window.startAid ↔
      ∀ aid, aid ∈ window.listedAt lists (beacon + 1) →
        aid ≤ (window.rangeIn lists beacon).last := by
  have goesOn := anchored.goesOn_succ beacon
  constructor
  · intro front aid member
    apply UInt16.not_lt.mp
    intro left
    -- The range before ends in the range of the window, so it does not end in front of its start.
    obtain ⟨behind, before⟩ := anchored.goesOn beacon
    have ahead := (goesOn.next aid member left).1
    rw [front] at ahead
    exact UInt16.not_le.mpr ahead (startAid_le_of_listedAt before.last)
  · intro passed
    exact AidList.head_between (anchored.ascending (beacon + 1)) (anchored.starts (beacon + 1))
      anchored.ordered (goesOn.front passed)

/-- The beacons from one that begins at the front of the range up to another one, with none between
them that begins there. -/
structure Sweeps (window : WindowConfig) (lists : Nat → AidList) (start stop : Nat) : Prop where
  nonempty : start < stop
  front : (window.rangeIn lists start).first = window.startAid
  within : ∀ beacon, start < beacon → beacon < stop →
    (window.rangeIn lists beacon).first ≠ window.startAid

variable {start stop : Nat}

/-- Inside a sweep the next range begins at the next station that is listed by then. -/
theorem Anchored.next_of_sweeps (anchored : window.Anchored spreading lists)
    (sweeps : window.Sweeps lists start stop) {beacon : Nat} (inside : start ≤ beacon)
    (more : beacon + 1 < stop) :
    (window.rangeIn lists beacon).last < (window.rangeIn lists (beacon + 1)).first ∧
      ∀ aid, aid ∈ window.listedAt lists (beacon + 1) →
        (window.rangeIn lists beacon).last < aid →
          (window.rangeIn lists (beacon + 1)).first ≤ aid := by
  have goesOn := anchored.goesOn_succ beacon
  refine ⟨?_, fun aid member left => (goesOn.next aid member left).2⟩
  apply Classical.byContradiction
  intro stays
  apply sweeps.within (beacon + 1) (by omega) more
  apply (anchored.first_eq_startAid_iff beacon).mpr
  intro aid member
  apply UInt16.not_lt.mp
  intro left
  exact stays (goesOn.next aid member left).1

theorem Anchored.ascending_of_sweeps (anchored : window.Anchored spreading lists)
    (sweeps : window.Sweeps lists start stop) {earlier later : Nat} (inside : start ≤ earlier)
    (sooner : earlier < later) (more : later < stop) :
    (window.rangeIn lists earlier).last < (window.rangeIn lists later).first := by
  induction later with
  | zero => exact absurd sooner (Nat.not_lt_zero earlier)
  | succ later ih =>
      have next := (anchored.next_of_sweeps sweeps (by omega : start ≤ later) more).1
      rcases Nat.lt_or_eq_of_le (Nat.le_of_lt_succ sooner) with before | same
      · obtain ⟨behind, goesOn⟩ := anchored.goesOn later
        have passed := UInt16.lt_of_lt_of_le (ih before (by omega)) goesOn.forward
        exact UInt16.lt_trans passed next
      · rw [same]
        exact next

/-- A station that is listed all along is in a range as soon as the sweep has come up to it. -/
theorem Anchored.exists_range_of_reached (anchored : window.Anchored spreading lists)
    (sweeps : window.Sweeps lists start stop) {aid : Aid} {beacons : Nat}
    (inside : start + beacons < stop)
    (listed : ∀ beacon, start ≤ beacon → beacon < stop → aid ∈ window.listedAt lists beacon)
    (reached : aid ≤ (window.rangeIn lists (start + beacons)).last) :
    ∃ beacon, start ≤ beacon ∧ beacon < stop ∧
      (window.rangeIn lists beacon).first ≤ aid ∧ aid ≤ (window.rangeIn lists beacon).last := by
  induction beacons with
  | zero =>
      refine ⟨start, Nat.le_refl start, inside, ?_, reached⟩
      rw [sweeps.front]
      exact startAid_le_of_listedAt (listed start (Nat.le_refl start) inside)
  | succ beacons ih =>
      by_cases earlier : aid ≤ (window.rangeIn lists (start + beacons)).last
      · exact ih (by omega) earlier
      · have member := listed (start + beacons + 1) (by omega) inside
        have next := anchored.next_of_sweeps sweeps (Nat.le_add_right start beacons) inside
        exact ⟨start + beacons + 1, by omega, inside,
          next.2 aid member (UInt16.not_le.mp earlier), reached⟩

structure PassesNobodyOver (window : WindowConfig) (lists : Nat → AidList) : Prop where
  answered : ∀ beacon, (window.turn lists beacon).beaconRange (lists beacon) =
    .ok ((window.turn lists beacon).advanced (lists beacon), window.rangeIn lists beacon)
  listed : ∀ beacon, (window.rangeIn lists beacon).first ∈ window.listedAt lists beacon ∧
    (window.rangeIn lists beacon).last ∈ window.listedAt lists beacon ∧
    (window.rangeIn lists beacon).first ≤ (window.rangeIn lists beacon).last
  next : ∀ start stop, window.Sweeps lists start stop →
    ∀ beacon, start ≤ beacon → beacon + 1 < stop →
      (window.rangeIn lists beacon).last < (window.rangeIn lists (beacon + 1)).first ∧
        ∀ aid, aid ∈ window.listedAt lists (beacon + 1) →
          (window.rangeIn lists beacon).last < aid →
            (window.rangeIn lists (beacon + 1)).first ≤ aid
  ascending : ∀ start stop, window.Sweeps lists start stop →
    ∀ earlier later, start ≤ earlier → earlier < later → later < stop →
      (window.rangeIn lists earlier).last < (window.rangeIn lists later).first
  covered : ∀ start stop, window.Sweeps lists start stop →
    (window.rangeIn lists stop).first = window.startAid →
      ∀ aid, (∀ beacon, start ≤ beacon → beacon ≤ stop →
          aid ∈ window.listedAt lists beacon) →
        ∃! beacon, start ≤ beacon ∧ beacon < stop ∧
          (window.rangeIn lists beacon).first ≤ aid ∧ aid ≤ (window.rangeIn lists beacon).last

/-- Whatever stations come and go, a sweep passes nobody over who stays. -/
theorem nobody_passed_over (anchored : window.Anchored spreading lists) :
    window.PassesNobodyOver lists := by
  refine
    { answered := anchored.answered
      listed := ?listed
      next := fun _ _ sweeps _ => anchored.next_of_sweeps sweeps
      ascending := fun _ _ sweeps _ _ => anchored.ascending_of_sweeps sweeps
      covered := ?covered }
  case listed =>
    intro beacon
    obtain ⟨behind, goesOn⟩ := anchored.goesOn beacon
    exact ⟨goesOn.first, goesOn.last, goesOn.forward⟩
  case covered =>
    intro start stop sweeps front aid listed
    have nonempty := sweeps.nonempty
    obtain ⟨beacons, rfl⟩ : ∃ beacons, stop = start + beacons + 1 :=
      ⟨stop - start - 1, by omega⟩
    have reached := (anchored.first_eq_startAid_iff (start + beacons)).mp front aid
      (listed _ (by omega) (Nat.le_refl _))
    obtain ⟨beacon, inside, more, within⟩ := anchored.exists_range_of_reached sweeps
      (Nat.lt_succ_self _) (fun beacon inside more => listed beacon inside (Nat.le_of_lt more))
      reached
    refine ⟨beacon, ⟨inside, more, within⟩, ?_⟩
    rintro other ⟨otherInside, otherMore, otherWithin⟩
    rcases Nat.lt_trichotomy other beacon with before | same | after
    · have apart := anchored.ascending_of_sweeps sweeps otherInside before more
      exact absurd (UInt16.le_trans within.1 otherWithin.2) (UInt16.not_le.mpr apart)
    · exact same
    · have apart := anchored.ascending_of_sweeps sweeps inside after otherMore
      exact absurd (UInt16.le_trans otherWithin.1 within.2) (UInt16.not_le.mpr apart)

/-- Two lists by turns. The stations 10, 15 and 20 stay, the others come and go. -/
def alternatingStations (beacon : Nat) : AidList :=
  if beacon % 2 = 0 then ⟨[10, 12, 15, 20, 28, 40]⟩ else ⟨[5, 10, 11, 15, 20, 22]⟩

def unsettledWindow : WindowConfig :=
  { WindowConfig.generic 1 10 30 ⟨4, 1000, false⟩ with
    spreading := some ⟨0, 2, 15⟩ }

theorem nobody_passed_over_while_alternating :
    unsettledWindow.Anchored ⟨0, 2, 15⟩ alternatingStations ∧
      unsettledWindow.Sweeps alternatingStations 1 5 ∧
      (unsettledWindow.rangeIn alternatingStations 5).first = 10 ∧
      unsettledWindow.PassesNobodyOver alternatingStations := by
  have anchored : unsettledWindow.Anchored ⟨0, 2, 15⟩ alternatingStations := by
    refine
      { configured := rfl
        enabled := rfl
        ordered := by decide
        ascending := ?_
        starts := ?_
        few := ?_ } <;>
      intro beacon <;> unfold alternatingStations
    · unfold AidList.Ascending
      split <;> decide
    · split <;> decide
    · split <;> decide
  have between : ∀ beacon, beacon < 5 → 1 < beacon →
      (unsettledWindow.rangeIn alternatingStations beacon).first ≠ 10 := by decide
  exact ⟨anchored,
    { nonempty := by decide
      front := by decide
      within := fun beacon inside more => between beacon more inside },
    by decide, nobody_passed_over anchored⟩

end WindowConfig

end RestrictedAccess
