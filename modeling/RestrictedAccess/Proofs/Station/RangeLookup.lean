/-
Looking up the ends of a range in an ascending list. A search rounds an end that is not listed down
to the closest station in front of it. For the end of the range that is the last station within it,
but a start that is rounded down lies outside: such a range has no indices, and neither has an
inverted one.
-/

import Mathlib.Data.List.Perm.Subperm
import RestrictedAccess.Proofs.Registry.BinarySearch
import RestrictedAccess.Proofs.Station.Slices

namespace RestrictedAccess.Station

namespace AidList

/-! ### Lookup by a search -/

/-- The index of an identifier. A miss is rounded down to the index before the position at which the
identifier belongs. -/
def indexBy? (search : Search) (list : AidList) (aid : Aid) : Option Nat :=
  match search.locate list.aids aid with
  | .ok index => some index
  | .error 0 => none
  | .error (below + 1) => some below

def resolveBy (search : Search) (list : AidList) (start stop : Aid) : IndexPair :=
  match list.indexBy? search start with
  | none => .unresolved
  | some first =>
      if (list.aids[first]?).any (fun listed => listed < start) then .unresolved
      else
        match list.indexBy? search stop with
        | none => .unresolved
        | some last => if first ≤ last then ⟨first, last⟩ else .unresolved

/-- The stations up to a bound are as many as stand in front of the first one above it. -/
theorem length_takeWhile_le {aids : List Aid} {aid : Aid} {count : Nat}
    (within : count ≤ aids.length)
    (front : ∀ index (inside : index < aids.length), index < count → aids[index] ≤ aid)
    (behind : ∀ index (inside : index < aids.length), count ≤ index → aid < aids[index]) :
    (aids.takeWhile (fun listed => listed ≤ aid)).length = count := by
  induction aids generalizing count with
  | nil => exact (Nat.le_zero.mp within).symm
  | cons head tail ih =>
      cases count with
      | zero =>
          have above : aid < head := behind 0 (Nat.succ_pos _) (Nat.le_refl 0)
          rw [List.takeWhile_cons_of_neg (by simpa using above)]
          rfl
      | succ count =>
          have small : head ≤ aid := front 0 (Nat.succ_pos _) (Nat.succ_pos _)
          have rest := ih (Nat.le_of_succ_le_succ within)
            (fun index inside before =>
              front (index + 1) (Nat.succ_lt_succ inside) (Nat.succ_lt_succ before))
            (fun index inside after =>
              behind (index + 1) (Nat.succ_lt_succ inside) (Nat.succ_le_succ after))
          rw [List.takeWhile_cons_of_pos (by simpa using small), List.length_cons, rest]

section Lookup

variable {list : AidList} (ascending : list.Ascending)
include ascending

theorem Ascending.indexBy?_eq (search : Search) (aid : Aid) :
    list.indexBy? search aid = list.indexAtOrBelow? aid := by
  unfold indexBy? indexAtOrBelow?
  cases located : search.locate list.aids aid with
  | ok index =>
      obtain ⟨inside, same⟩ := List.getElem?_eq_some_iff.mp (search.found ascending located)
      have length : (list.aids.takeWhile (fun listed => listed ≤ aid)).length = index + 1 := by
        apply length_takeWhile_le inside
        · intro other _ before
          rw [← same]
          exact getElem_le_of_ascending ascending (Nat.le_of_lt_succ before) inside
        · intro other otherInside behind
          rw [← same]
          exact (lt_iff_of_ascending ascending inside otherInside).mpr behind
      rw [length]
  | error position =>
      have belongs := search.missing ascending located
      have length : (list.aids.takeWhile (fun listed => listed ≤ aid)).length = position :=
        length_takeWhile_le belongs.within
          (fun index inside before => UInt16.le_of_lt (belongs.above index inside before))
          belongs.below
      rw [length]
      cases position <;> rfl

/-- The station found for a start is never larger, so it is the start or it is too small. -/
theorem Ascending.resolveBy_eq (search : Search) (start stop : Aid) :
    list.resolveBy search start stop = list.resolve start stop := by
  unfold resolveBy resolve
  rw [ascending.indexBy?_eq, ascending.indexBy?_eq]
  cases found : list.indexAtOrBelow? start with
  | none => rfl
  | some first =>
      obtain ⟨inside, upTo⟩ := upTo_of_indexAtOrBelow? found
      have placed : list.aids[first]? = some list.aids[first] := List.getElem?_eq_getElem inside
      have small := upTo first _ (Nat.le_refl first) placed
      cases list.indexAtOrBelow? stop with
      | none => exact ite_self _
      | some last =>
          by_cases same : list.aids[first] = start
          · simp [placed, same]
          · have below := UInt16.lt_of_le_of_ne small same
            simp [placed, same, below]

/-! ### The stations of a range -/

theorem Ascending.size_le : list.size ≤ 65536 := by
  have distinct : (list.aids.map UInt16.toNat).Nodup := by
    refine List.pairwise_map.mpr (ascending.imp ?_)
    intro earlier later below
    exact Nat.ne_of_lt (UInt16.lt_iff_toNat_lt.mp below)
  have addressed : list.aids.map UInt16.toNat ⊆ List.range 65536 := by
    intro number member
    obtain ⟨aid, _, rfl⟩ := List.mem_map.mp member
    exact List.mem_range.mpr aid.toNat_lt
  have fewer := (distinct.subperm addressed).length_le
  rw [List.length_map, List.length_range] at fewer
  exact fewer

end Lookup

structure Spans (list : AidList) (start stop : Aid) (first last : Nat) : Prop where
  ordered : first ≤ last
  within : last < list.size
  starts : list.aids[first]? = some start
  encloses : ∀ index aid, list.aids[index]? = some aid →
    ((first ≤ index ∧ index ≤ last) ↔ (start ≤ aid ∧ aid ≤ stop))

section Range

variable {list : AidList} {start stop : Aid} (ascending : list.Ascending)
include ascending

theorem Ascending.spans {first last : Nat} (resolved : list.resolve start stop = ⟨first, last⟩)
    (ordered : first ≤ last) (within : last < list.size) : list.Spans start stop first last := by
  have starts := (of_resolve_eq resolved).1
  have slice := ascending.slice_of_resolve_eq resolved
  refine { ordered := ordered, within := within, starts := starts, encloses := ?_ }
  intro index aid placed
  constructor
  · rintro ⟨reached, before⟩
    have inSlice : ((list.aids.drop first).take (last + 1 - first))[index - first]? = some aid := by
      rw [List.getElem?_take_of_lt (by omega), List.getElem?_drop, Nat.add_sub_cancel' reached]
      exact placed
    rw [slice] at inSlice
    exact (mem_between.mp (List.mem_of_getElem? inSlice)).2
  · intro inRange
    have member := mem_between.mpr ⟨List.mem_of_getElem? placed, inRange⟩
    rw [← slice] at member
    obtain ⟨offset, inSlice⟩ := List.mem_iff_getElem?.mp member
    obtain ⟨short, _⟩ := List.getElem?_eq_some_iff.mp inSlice
    rw [List.length_take, List.length_drop] at short
    rw [List.getElem?_take_of_lt (by omega), List.getElem?_drop] at inSlice
    have distinct : list.aids.Nodup := ascending.imp (fun below => UInt16.ne_of_lt below)
    obtain ⟨inside, _⟩ := List.getElem?_eq_some_iff.mp placed
    have same : index = first + offset :=
      (List.getElem?_inj inside distinct).mp (placed.trans inSlice.symm)
    omega

end Range

theorem resolve_cases (list : AidList) (start stop : Aid) :
    list.resolve start stop = .unresolved ∨
      ∃ first last : Nat, list.resolve start stop = ⟨first, last⟩ := by
  unfold resolve
  split
  · rename_i first last _ _
    split
    · exact Or.inr ⟨first, last, rfl⟩
    · exact Or.inl rfl
  · exact Or.inl rfl

/-- By any search, a range is resolved to the indices of its stations if it starts at a station and
is not inverted, and otherwise it has no indices. -/
theorem range_resolved_exactly (search : Search) {list : AidList} (ascending : list.Ascending)
    (start stop : Aid) :
    list.size ≤ 65536 ∧
      list.resolveBy search start stop = list.resolve start stop ∧
      (start ∈ list.aids ∧ start ≤ stop → ∃ first last : Nat,
        list.resolve start stop = ⟨first, last⟩ ∧ list.Spans start stop first last) ∧
      (¬ (start ∈ list.aids ∧ start ≤ stop) → list.resolve start stop = ⟨-1, -1⟩) := by
  refine ⟨ascending.size_le, ascending.resolveBy_eq search start stop, ?_, ?_⟩
  · rintro ⟨member, ordered⟩
    obtain ⟨first, last, resolved, forward, within, _⟩ := ascending.resolve_eq member ordered
    exact ⟨first, last, resolved, ascending.spans resolved forward within⟩
  · intro outside
    rcases list.resolve_cases start stop with unresolved | ⟨first, last, resolved⟩
    · exact unresolved
    · obtain ⟨starts, ordered⟩ := of_resolve_eq resolved
      exact absurd ⟨List.mem_of_getElem? starts, ordered⟩ outside

def scatteredStations : AidList :=
  ⟨[2, 63, 64, 2007]⟩

/-- The range ends between two stations, and a start between two stations is no start. -/
theorem range_resolved_among_scattered :
    scatteredStations.Ascending ∧
      scatteredStations.resolveBy halving 63 1000 = ⟨1, 2⟩ ∧
      scatteredStations.Spans 63 1000 1 2 ∧
      scatteredStations.resolve 5 1000 = ⟨-1, -1⟩ := by
  have ascending : scatteredStations.Ascending := by
    unfold Ascending scatteredStations
    decide
  have middle : scatteredStations.resolve 63 1000 = ⟨1, 2⟩ := by decide
  obtain ⟨_, bySearch, inside, _⟩ := range_resolved_exactly halving ascending 63 1000
  obtain ⟨_, _, _, outside⟩ := range_resolved_exactly halving ascending 5 1000
  obtain ⟨first, last, resolved, spans⟩ := inside ⟨by decide, by decide⟩
  obtain ⟨firstSame, lastSame⟩ := IndexPair.mk.inj (resolved.symm.trans middle)
  refine ⟨ascending, bySearch.trans middle, ?_, outside (by decide)⟩
  rw [← Int.ofNat.inj firstSame, ← Int.ofNat.inj lastSame]
  exact spans

end AidList

end RestrictedAccess.Station
