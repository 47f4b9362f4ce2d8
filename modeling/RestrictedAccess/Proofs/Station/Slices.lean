/-
Ranges of identifiers in a list of stations. The stations of an ascending list that lie in a range
stand side by side, and resolving a range that starts at a station gives the indices of the first
and of the last of them.
-/

import RestrictedAccess.Proofs.Station.Members

namespace RestrictedAccess.Station

namespace AidList

def Ascending (list : AidList) : Prop :=
  list.aids.Pairwise (fun earlier later => earlier < later)

def between (list : AidList) (start stop : Aid) : List Aid :=
  list.aids.filter (fun aid => decide (start ≤ aid ∧ aid ≤ stop))

theorem mem_between {list : AidList} {start stop aid : Aid} :
    aid ∈ list.between start stop ↔ aid ∈ list.aids ∧ start ≤ aid ∧ aid ≤ stop := by
  unfold between
  rw [List.mem_filter, decide_eq_true_iff]

theorem Ascending.between {list : AidList} (ascending : list.Ascending) (start stop : Aid) :
    (list.between start stop).Pairwise (fun earlier later => earlier < later) :=
  List.Pairwise.filter _ ascending

theorem lt_iff_of_ascending {aids : List Aid}
    (ascending : aids.Pairwise (fun earlier later => earlier < later)) {left right : Nat}
    (leftListed : left < aids.length) (rightListed : right < aids.length) :
    aids[left] < aids[right] ↔ left < right := by
  have sorted := List.pairwise_iff_getElem.mp ascending
  constructor
  · intro below
    apply Nat.lt_of_not_le
    intro before
    rcases Nat.lt_or_eq_of_le before with sooner | same
    · have above := sorted right left rightListed leftListed sooner
      exact UInt16.lt_irrefl _ (UInt16.lt_trans below above)
    · subst same
      exact UInt16.lt_irrefl _ below
  · intro sooner
    exact sorted left right leftListed rightListed sooner

theorem le_of_ascending {aids : List Aid}
    (ascending : aids.Pairwise (fun earlier later => earlier < later)) {earlier later : Nat}
    {first last : Aid} (ordered : earlier ≤ later) (atEarlier : aids[earlier]? = some first)
    (atLater : aids[later]? = some last) : first ≤ last := by
  obtain ⟨earlierListed, rfl⟩ := List.getElem?_eq_some_iff.mp atEarlier
  obtain ⟨laterListed, rfl⟩ := List.getElem?_eq_some_iff.mp atLater
  apply UInt16.not_lt.mp
  rw [lt_iff_of_ascending ascending laterListed earlierListed]
  exact Nat.not_lt.mpr ordered

/-! ### Set positions as identifiers -/

section Positions

variable {words : List UInt64} {bound : Nat} (addressed : bound ≤ 65536)
include addressed

theorem toNat_of_mem_setPositions {position : Nat} (member : position ∈ setPositions words bound) :
    (UInt16.ofNat position).toNat = position := by
  have listed := List.mem_range.mp (List.mem_filter.mp member).1
  exact UInt16.toNat_ofNat_of_lt' (Nat.lt_of_lt_of_le listed addressed)

theorem mem_map_setPositions {aid : Aid} :
    aid ∈ (setPositions words bound).map UInt16.ofNat ↔
      aid.toNat < bound ∧ bitAt words aid.toNat = true := by
  rw [List.mem_map]
  constructor
  · rintro ⟨position, member, rfl⟩
    rw [toNat_of_mem_setPositions addressed member]
    exact (List.mem_filter.mp member).imp List.mem_range.mp id
  · rintro ⟨inside, set⟩
    exact ⟨aid.toNat, List.mem_filter.mpr ⟨List.mem_range.mpr inside, set⟩, UInt16.ofNat_toNat⟩

theorem ascending_setPositions (words : List UInt64) :
    Ascending ⟨(setPositions words bound).map UInt16.ofNat⟩ := by
  refine List.pairwise_map.mpr ((List.pairwise_lt_range.filter _).imp_of_mem ?_)
  intro earlier later earlierMember laterMember below
  rw [UInt16.lt_iff_toNat_lt, toNat_of_mem_setPositions addressed earlierMember,
    toNat_of_mem_setPositions addressed laterMember]
  exact below

end Positions

/-! ### Ranges -/

theorem takeWhile_le {aids : List Aid}
    (ascending : aids.Pairwise (fun earlier later => earlier < later)) (bound : Aid) :
    aids.takeWhile (fun aid => aid ≤ bound) = aids.filter (fun aid => aid ≤ bound) := by
  induction aids with
  | nil => rfl
  | cons head tail ih =>
      rcases List.pairwise_cons.mp ascending with ⟨aboveHead, tailAscending⟩
      by_cases within : head ≤ bound
      · rw [List.takeWhile_cons_of_pos (by simpa using within),
          List.filter_cons_of_pos (by simpa using within), ih tailAscending]
      · rw [List.takeWhile_cons_of_neg (by simpa using within)]
        refine (List.filter_eq_nil_iff.mpr ?_).symm
        intro aid member
        rw [decide_eq_true_iff]
        intro small
        rcases List.mem_cons.mp member with same | inTail
        · exact within (same ▸ small)
        · exact within (UInt16.le_of_lt (UInt16.lt_of_lt_of_le (aboveHead aid inTail) small))

section Resolve

variable {list : AidList} {start stop : Aid} {below above : List Aid}

/-- Up to a bound at or behind a station, the list goes on to the last station within the bound. -/
private theorem indexAtOrBelow?_split (ascending : list.Ascending)
    (split : list.aids = below ++ start :: above) (ordered : start ≤ stop) :
    list.indexAtOrBelow? stop =
      some (below.length + (above.filter (fun aid => aid ≤ stop)).length) := by
  unfold Ascending at ascending
  rw [split] at ascending
  have belowStart (aid : Aid) (member : aid ∈ below) : aid < start :=
    (List.pairwise_append.mp ascending).2.2 aid member start List.mem_cons_self
  have tailAscending := (List.pairwise_append.mp ascending).2.1
  have whole : (list.aids.takeWhile (fun aid => aid ≤ stop)).length =
      below.length + (above.filter (fun aid => aid ≤ stop)).length + 1 := by
    rw [split, takeWhile_le ascending, List.filter_append,
      List.filter_cons_of_pos (by simpa using ordered), List.length_append, List.length_cons,
      List.filter_eq_self.mpr, Nat.add_assoc]
    intro aid member
    exact decide_eq_true (UInt16.le_of_lt (UInt16.lt_of_lt_of_le (belowStart aid member) ordered))
  unfold indexAtOrBelow?
  rw [whole]

private theorem between_split (ascending : list.Ascending)
    (split : list.aids = below ++ start :: above) (ordered : start ≤ stop) :
    list.between start stop = start :: above.filter (fun aid => aid ≤ stop) := by
  unfold Ascending at ascending
  rw [split] at ascending
  rcases List.pairwise_append.mp ascending with ⟨_, tailAscending, apart⟩
  rcases List.pairwise_cons.mp tailAscending with ⟨aboveStart, _⟩
  unfold between
  rw [split, List.filter_append, List.filter_eq_nil_iff.mpr, List.nil_append,
    List.filter_cons_of_pos (by simp [ordered])]
  · congr 1
    apply List.filter_congr
    intro aid member
    have after : start ≤ aid := UInt16.le_of_lt (aboveStart aid member)
    simp only [after, true_and]
  · intro aid member
    rw [decide_eq_true_iff]
    rintro ⟨after, _⟩
    exact UInt16.not_le.mpr (apart aid member start List.mem_cons_self) after

/-- A range that starts at a station is resolved to the indices of its stations. -/
theorem Ascending.resolve_eq (ascending : list.Ascending) (member : start ∈ list.aids)
    (ordered : start ≤ stop) :
    ∃ first last : Nat, list.resolve start stop = ⟨first, last⟩ ∧ first ≤ last ∧
      last < list.size ∧
      (list.aids.drop first).take (last + 1 - first) = list.between start stop := by
  obtain ⟨below, above, split⟩ := List.append_of_mem member
  have aboveAscending : above.Pairwise (fun earlier later => earlier < later) := by
    unfold Ascending at ascending
    rw [split] at ascending
    exact (List.pairwise_cons.mp (List.pairwise_append.mp ascending).2.1).2
  have none : above.filter (fun aid => aid ≤ start) = [] := by
    unfold Ascending at ascending
    rw [split] at ascending
    have aboveStart := (List.pairwise_cons.mp (List.pairwise_append.mp ascending).2.1).1
    refine List.filter_eq_nil_iff.mpr ?_
    intro aid inAbove
    rw [decide_eq_true_iff]
    exact UInt16.not_le.mpr (aboveStart aid inAbove)
  have first := indexAtOrBelow?_split ascending split (UInt16.le_refl start)
  have last := indexAtOrBelow?_split ascending split ordered
  rw [none, List.length_nil, Nat.add_zero] at first
  have atFirst : list.aids[below.length]? = some start := by
    rw [split, List.getElem?_append_right (Nat.le_refl _), Nat.sub_self]
    rfl
  refine ⟨below.length, below.length + (above.filter (fun aid => aid ≤ stop)).length, ?_,
    Nat.le_add_right _ _, ?_, ?_⟩
  · unfold resolve
    rw [first, last]
    simp only [atFirst, Nat.le_add_right, and_self, if_true]
  · have fewer := List.length_filter_le (fun aid => decide (aid ≤ stop)) above
    unfold size
    rw [split, List.length_append, List.length_cons]
    omega
  · have count : below.length + (above.filter (fun aid => aid ≤ stop)).length + 1 - below.length =
        (above.filter (fun aid => aid ≤ stop)).length + 1 := by omega
    rw [count, between_split ascending split ordered, split, List.drop_left, List.take_succ_cons,
      ← takeWhile_le aboveAscending]
    exact congrArg (List.cons start) (List.prefix_iff_eq_take.mp (List.takeWhile_prefix _)).symm

theorem upTo_of_indexAtOrBelow? {aid : Aid} {last : Nat}
    (found : list.indexAtOrBelow? aid = some last) :
    last < list.size ∧
      ∀ index listed, index ≤ last → list.aids[index]? = some listed → listed ≤ aid := by
  have length : (list.aids.takeWhile (fun listed => listed ≤ aid)).length = last + 1 := by
    unfold indexAtOrBelow? at found
    split at found
    · cases found
    · rename_i length
      cases found
      exact length
  obtain ⟨rest, whole⟩ := List.takeWhile_prefix (l := list.aids) (fun listed => listed ≤ aid)
  constructor
  · unfold size
    rw [← whole, List.length_append]
    omega
  · intro index listed upTo reading
    rw [← whole, List.getElem?_append_left (by omega)] at reading
    have all := List.all_eq_true.mp (List.all_takeWhile (l := list.aids)
      (p := fun listed => listed ≤ aid)) listed (List.mem_of_getElem? reading)
    exact of_decide_eq_true all

/-- Only a range that starts at a station and is not inverted is resolved. -/
theorem of_resolve_eq {first last : Nat} (resolved : list.resolve start stop = ⟨first, last⟩) :
    list.aids[first]? = some start ∧ start ≤ stop := by
  unfold resolve at resolved
  split at resolved
  · rename_i front back _ found
    split at resolved
    · rename_i matching
      obtain ⟨same, _⟩ := IndexPair.mk.inj resolved
      rw [← Int.ofNat.inj same]
      exact ⟨matching.1, (upTo_of_indexAtOrBelow? found).2 front start matching.2 matching.1⟩
    · cases resolved
  · cases resolved

/-- The indices of a resolved range are those of its stations. -/
theorem Ascending.slice_of_resolve_eq (ascending : list.Ascending) {first last : Nat}
    (resolved : list.resolve start stop = ⟨first, last⟩) :
    (list.aids.drop first).take (last + 1 - first) = list.between start stop := by
  obtain ⟨listed, ordered⟩ := of_resolve_eq resolved
  have member := List.mem_of_getElem? listed
  obtain ⟨front, back, same, _, _, slice⟩ := ascending.resolve_eq member ordered
  obtain ⟨frontSame, backSame⟩ := IndexPair.mk.inj (same.symm.trans resolved)
  rw [← Int.ofNat.inj frontSame, ← Int.ofNat.inj backSame]
  exact slice

end Resolve

end AidList

namespace Bitmap

/-! ### The list of the members of a set -/

theorem mem_members_iff_position (bitmap : Bitmap) (aid : Aid) :
    aid ∈ bitmap.members.aids ↔ bitmap.contains aid = true ∧ aid.toNat ≤ maxAid := by
  have addressed : maxAid + 1 ≤ 65536 := by decide
  unfold members contains
  rw [AidList.mem_map_setPositions addressed, Nat.lt_succ_iff, and_comm]

theorem Sound.mem_members {bitmap : Bitmap} (sound : bitmap.Sound) (aid : Aid) :
    aid ∈ bitmap.members.aids ↔ bitmap.contains aid = true := by
  rw [mem_members_iff_position, and_iff_left_iff_imp]
  intro set
  exact (sound.inRange aid.toNat set).2

theorem members_empty : Bitmap.empty.members = .empty := by
  have none := List.eq_nil_of_length_eq_zero sound_empty.counted.symm
  unfold members AidList.empty
  rw [none]
  rfl

theorem ascending_members (bitmap : Bitmap) : bitmap.members.Ascending :=
  AidList.ascending_setPositions (by decide) bitmap.words

end Bitmap

end RestrictedAccess.Station
