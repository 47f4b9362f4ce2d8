/-
Two announcements of a spread window in a row, over one list of stations. The second one goes on
where the first one stopped, so it is the same one again exactly when the first one was all of the
slice; and when it is not, receivers read another range.
-/

import RestrictedAccess.Proofs.Element.RoundTrip
import RestrictedAccess.Proofs.Window.Sweep

namespace RestrictedAccess

open Station

/-! ### A part of a list -/

namespace Station.AidList

def segment (list : AidList) (first last : Nat) : List Aid :=
  (list.aids.drop first).take (last + 1 - first)

section Segment

variable {list : AidList} {first last : Nat}

theorem mem_of_mem_segment {aid : Aid} (member : aid ∈ list.segment first last) :
    aid ∈ list.aids :=
  List.mem_of_mem_drop (List.mem_of_mem_take member)

theorem Ascending.segment (ascending : list.Ascending) (first last : Nat) :
    (list.segment first last).Pairwise (fun earlier later => earlier < later) :=
  ascending.sublist ((List.take_sublist _ _).trans (List.drop_sublist _ _))

theorem head_segment (forward : first ≤ last) :
    (list.segment first last)[0]? = list.aids[first]? := by
  unfold AidList.segment
  rw [List.getElem?_take, if_pos (by omega), List.getElem?_drop, Nat.add_zero]

theorem last_segment (forward : first ≤ last) (inList : last < list.size) :
    (list.segment first last)[(list.segment first last).length - 1]? = list.aids[last]? := by
  have index : (list.segment first last).length - 1 = last - first := by
    unfold AidList.size at inList
    unfold AidList.segment
    rw [List.length_take, List.length_drop]
    omega
  rw [index]
  unfold AidList.segment
  rw [List.getElem?_take, if_pos (by omega), List.getElem?_drop]
  congr 1
  omega

end Segment

end Station.AidList

/-! ### The block behind a block -/

section Repetition

variable {spreading : Spreading} {slice : List Aid} {range next : AidRange}

/-- The next block is the same one again if it is all of the slice, and only then. -/
theorem Spreading.BlockAt.again_iff
    (block : spreading.BlockAt slice (spreading.position slice) range)
    (behind : ({ spreading with lastAid := range.last } : Spreading).BlockAt slice
      (({ spreading with lastAid := range.last } : Spreading).position slice) next)
    (ascending : slice.Pairwise (fun earlier later => earlier < later)) :
    next = range ↔ slice[0]? = some range.first ∧ slice[slice.length - 1]? = some range.last := by
  have distinct := Registry.nodup_of_ascending ascending
  have moved := block.position_eq ascending
  obtain ⟨listed, _⟩ := List.getElem?_eq_some_iff.mp block.first
  have same {first second : Nat} {aid : Aid} (inside : first < slice.length)
      (one : slice[first]? = some aid) (other : slice[second]? = some aid) : first = second :=
    (List.getElem?_inj inside distinct).mp (one.trans other.symm)
  have size := spreading.blockSize_pos (Nat.zero_lt_of_lt listed) (spreading.position slice)
  have reaches : spreading.position slice ≤
      spreading.blockEnd slice.length (spreading.position slice) := by
    unfold Spreading.blockEnd
    omega
  constructor
  · intro again
    -- The position did not move, so the block began at the front and reached the end.
    have still := same listed block.first (again ▸ behind.first)
    rw [moved] at still
    unfold nextPosition at still
    split at still
    · omega
    · rename_i atEnd
      have last : spreading.blockEnd slice.length (spreading.position slice) =
          slice.length - 1 := by
        unfold Spreading.blockEnd at atEnd reaches ⊢
        omega
      exact ⟨still ▸ block.first, last ▸ block.last⟩
  · rintro ⟨first, last⟩
    have front := same listed block.first first
    have atEnd : spreading.blockEnd slice.length (spreading.position slice) =
        slice.length - 1 :=
      same (List.getElem?_eq_some_iff.mp block.last).1 block.last last
    have back : spreading.nextPosition slice.length (spreading.position slice) = 0 := by
      unfold nextPosition
      rw [if_neg (by omega)]
    rw [moved, back] at behind
    have sameFirst := behind.first.symm.trans first
    have sameLast : slice[spreading.blockEnd slice.length 0]? = some next.last := behind.last
    rw [← front, atEnd, last] at sameLast
    cases next
    cases range
    cases sameFirst
    cases sameLast
    rfl

end Repetition

namespace WindowConfig

section Repetition

variable {window : WindowConfig} {aids : AidList}

def spreadOver? (window : WindowConfig) (aids : AidList) : Option (Nat × Nat) :=
  if window.usesSpreading then window.spreadSlice? aids else none

/-- A spread window whose next announcement leaves out a part of its slice. -/
def AnnouncesInPart (window : WindowConfig) (aids : AidList) : Prop :=
  ∃ first last, window.spreadOver? aids = some (first, last) ∧
    ¬ (aids.aids[first]? = some (window.announcing aids).2.first ∧
      aids.aids[last]? = some (window.announcing aids).2.last)

theorem announcing_of_unsliced (unsliced : window.spreadOver? aids = none) :
    window.announcing aids =
      ({ window with
          spreading := window.spreading.map (fun spreading =>
            { spreading with lastAid := window.endAid }) },
        ⟨window.startAid, window.endAid⟩) := by
  unfold announcing beaconRange
  cases configured : window.spreading with
  | none =>
      have kept : { window with spreading := none } = window :=
        congrArg (fun spreading => { window with spreading }) configured.symm
      simp only [Option.map_none, kept]
  | some spreading =>
      have chosen : (if spreading.isEnabled then window.spreadSlice? aids else none) = none := by
        unfold spreadOver? usesSpreading at unsliced
        rw [configured] at unsliced
        exact unsliced
      simp only [chosen, Option.map_some]

/-- What a spread window announces of its slice, and what it remembers of it. -/
theorem Sound.announcing_of_sliced (sound : window.Sound) (few : aids.size < 65536)
    {first last : Nat} (sliced : window.spreadOver? aids = some (first, last)) :
    ∃ spreading range, window.spreading = some spreading ∧
      spreading.BlockAt (aids.segment first last)
        (spreading.position (aids.segment first last)) range ∧
      window.announcing aids =
        ({ window with spreading := some { spreading with lastAid := range.last } }, range) := by
  unfold spreadOver? usesSpreading at sliced
  cases configured : window.spreading with
  | none =>
      rw [configured] at sliced
      cases sliced
  | some spreading =>
      rw [configured, Option.any_some] at sliced
      split at sliced
      · rename_i enabled
        obtain ⟨forward, inList⟩ := spreadSlice?_bounds sound.ordered sliced
        obtain ⟨range, block, ranged⟩ :=
          beaconRange_of_slice sliced forward inList (by omega) configured enabled rfl
        exact ⟨spreading, range, rfl, block, announcing_of_beaconRange ranged⟩
      · cases sliced

theorem spreadOver?_advanced (window : WindowConfig) (aids : AidList) :
    (window.advanced aids).spreadOver? aids = window.spreadOver? aids := by
  have resting := window.resting_advanced aids
  unfold spreadOver? spreadSlice?
  rw [usesSpreading_of_resting resting, indices_of_resting resting]

structure AnnouncedTwice (window : WindowConfig) (aids : AidList) (first last : Nat) : Prop where
  again : ((window.advanced aids).announcing aids).2 = (window.announcing aids).2 →
    (window.advanced aids).announcing aids = window.announcing aids
  again_iff : ((window.advanced aids).announcing aids).2 = (window.announcing aids).2 ↔
    aids.aids[first]? = some (window.announcing aids).2.first ∧
      aids.aids[last]? = some (window.announcing aids).2.last
  listed : (window.announcing aids).2.first ∈ aids.aids ∧
    (window.announcing aids).2.last ∈ aids.aids
  listedNext : ((window.advanced aids).announcing aids).2.first ∈ aids.aids ∧
    ((window.advanced aids).announcing aids).2.last ∈ aids.aids

theorem Sound.announcedTwice (sound : window.Sound) (ascending : aids.Ascending)
    (few : aids.size < 65536) {first last : Nat}
    (sliced : window.spreadOver? aids = some (first, last)) :
    AnnouncedTwice window aids first last := by
  have usable : window.spreadSlice? aids = some (first, last) := by
    unfold spreadOver? at sliced
    split at sliced
    · exact sliced
    · cases sliced
  obtain ⟨forward, inList⟩ := spreadSlice?_bounds sound.ordered usable
  obtain ⟨spreading, range, configured, block, announced⟩ := sound.announcing_of_sliced few sliced
  have advanced : window.advanced aids =
      { window with spreading := some { spreading with lastAid := range.last } } :=
    congrArg Prod.fst announced
  obtain ⟨moved, next, configuredNext, behind, announcedNext⟩ :=
    (sound.of_resting (window.resting_advanced aids)).announcing_of_sliced few
      ((window.spreadOver?_advanced aids).trans sliced)
  rw [advanced] at configuredNext
  cases configuredNext
  have within {position : Nat} {aid : Aid}
      (listed : (aids.segment first last)[position]? = some aid) : aid ∈ aids.aids :=
    AidList.mem_of_mem_segment (List.mem_of_getElem? listed)
  have repeats := block.again_iff behind (ascending.segment first last)
  rw [AidList.head_segment forward, AidList.last_segment forward inList] at repeats
  rw [advanced] at announcedNext
  refine { again := ?_, again_iff := ?_, listed := ?_, listedNext := ?_ }
  · rw [advanced, announcedNext, announced]
    intro same
    cases same
    rfl
  · rw [advanced, announcedNext, announced]
    exact repeats
  · rw [announced]
    exact ⟨within block.first, within block.last⟩
  · rw [advanced, announcedNext]
    exact ⟨within behind.first, within behind.last⟩

/-- A window that announced its whole slice, or has none, does the same again. -/
theorem Sound.announcing_again (sound : window.Sound) (ascending : aids.Ascending)
    (few : aids.size < 65536) (whole : ¬ window.AnnouncesInPart aids) :
    (window.advanced aids).announcing aids = window.announcing aids := by
  cases sliced : window.spreadOver? aids with
  | none =>
      have announced := announcing_of_unsliced sliced
      have advanced : window.advanced aids = _ := congrArg Prod.fst announced
      rw [announcing_of_unsliced ((window.spreadOver?_advanced aids).trans sliced), announced,
        advanced]
      simp only [Option.map_map, Function.comp_def]
  | some slice =>
      have twice := sound.announcedTwice ascending few sliced
      refine twice.again (twice.again_iff.mpr ?_)
      exact Classical.byContradiction (fun apart => whole ⟨slice.1, slice.2, sliced, apart⟩)

/-- A window that announced a part of its slice announces another one next, and receivers can tell
the difference. -/
theorem Sound.announcing_next (sound : window.Sound) (ascending : aids.Ascending)
    (few : aids.size < 65536) (small : ∀ aid, aid ∈ aids.aids → aid.toNat ≤ maxAid)
    (inPart : window.AnnouncesInPart aids) :
    ((window.advanced aids).announcing aids).2.onAir ≠ (window.announcing aids).2.onAir := by
  obtain ⟨first, last, sliced, apart⟩ := inPart
  have twice := sound.announcedTwice ascending few sliced
  have kept (aid : Aid) (listed : aid ∈ aids.aids) :
      UInt16.ofNat (aid.toNat % announcedAids) = aid := by
    have bound : aid.toNat < announcedAids := Nat.lt_of_le_of_lt (small aid listed) (by decide)
    rw [Nat.mod_eq_of_lt bound, UInt16.ofNat_toNat]
  intro same
  apply apart
  apply twice.again_iff.mp
  unfold AidRange.onAir at same
  rw [kept _ twice.listed.1, kept _ twice.listed.2, kept _ twice.listedNext.1,
    kept _ twice.listedNext.2] at same
  exact same

end Repetition

end WindowConfig

end RestrictedAccess
