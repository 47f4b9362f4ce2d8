/-
The membership bitmap as a finite set. Whatever is inserted, erased and cleared, in any order and
also with identifiers that no station can hold, the bitmap answers as a set would to which the same
was done: which stations it holds, how many, which of them is the largest, and their list.
-/

import Mathlib.Data.Finset.Card
import RestrictedAccess.Proofs.Station.Slices

namespace RestrictedAccess.Station

/-- A change of a set of stations. It may name an identifier that no station can hold. -/
inductive MembershipChange
  | insert (aid : Aid)
  | erase (aid : Aid)
  | clear

namespace MembershipChange

/-- The change of a finite set. Identifiers outside the range of stations change nothing. -/
def onSet (stations : Finset Aid) : MembershipChange → Finset Aid
  | .insert aid => if 1 ≤ aid ∧ aid ≤ 2007 then Insert.insert aid stations else stations
  | .erase aid => if 1 ≤ aid ∧ aid ≤ 2007 then stations.erase aid else stations
  | .clear => ∅

end MembershipChange

def stationsAfter (changes : List MembershipChange) : Finset Aid :=
  changes.foldl MembershipChange.onSet ∅

namespace Bitmap

def settled (bitmap : Bitmap) : Except Fault (Bitmap × Bool) → Bitmap
  | .ok (next, _) => next
  | .error _ => bitmap

def after (bitmap : Bitmap) : MembershipChange → Bitmap
  | .insert aid => bitmap.settled (bitmap.insert aid)
  | .erase aid => bitmap.settled (bitmap.erase aid)
  | .clear => bitmap.clear

theorem after_insert (bitmap : Bitmap) (aid : Aid) :
    bitmap.after (.insert aid) = bitmap.settled (bitmap.insert aid) :=
  rfl

theorem after_erase (bitmap : Bitmap) (aid : Aid) :
    bitmap.after (.erase aid) = bitmap.settled (bitmap.erase aid) :=
  rfl

def afterAll (bitmap : Bitmap) (changes : List MembershipChange) : Bitmap :=
  changes.foldl after bitmap

/-! ### The largest station -/

section Largest

variable {bitmap : Bitmap} {aid : Aid}

theorem Sound.of_max?_eq_some (sound : bitmap.Sound) (largest : bitmap.max? = some aid) :
    bitmap.contains aid = true ∧ ∀ other, bitmap.contains other = true → other ≤ aid := by
  obtain ⟨highest, found, rfl⟩ := Option.map_eq_some_iff.mp largest
  obtain ⟨set, clear⟩ := bitAt_of_highestPosition? found
  have word := sound.toNat_of_highestPosition? found
  constructor
  · unfold contains
    rw [word]
    exact set
  · intro other present
    rw [UInt16.le_iff_toNat_le, word]
    apply Nat.le_of_not_lt
    intro above
    exact Bool.false_ne_true ((clear other.toNat above).symm.trans present)

theorem not_contains_of_max?_eq_none (nothing : bitmap.max? = none) (other : Aid) :
    bitmap.contains other = false :=
  bitAt_of_highestPosition?_none (Option.map_eq_none_iff.mp nothing) other.toNat

theorem Sound.max?_eq_some_iff (sound : bitmap.Sound) :
    bitmap.max? = some aid ↔
      bitmap.contains aid = true ∧ ∀ other, bitmap.contains other = true → other ≤ aid := by
  constructor
  · exact sound.of_max?_eq_some
  · rintro ⟨present, largest⟩
    cases top : bitmap.max? with
    | none =>
        have absent := not_contains_of_max?_eq_none top aid
        rw [present] at absent
        cases absent
    | some other =>
        obtain ⟨otherPresent, otherLargest⟩ := sound.of_max?_eq_some top
        rw [UInt16.le_antisymm (largest other otherPresent) (otherLargest aid present)]

end Largest

/-! ### One change -/

theorem isValidAid_iff {aid : Aid} : isValidAid aid = true ↔ 1 ≤ aid ∧ aid ≤ 2007 := by
  rw [isValidAid, Bool.and_eq_true, decide_eq_true_eq, decide_eq_true_eq,
    UInt16.le_iff_toNat_le, UInt16.le_iff_toNat_le]
  exact Iff.rfl

theorem Sound.clear_eq {bitmap : Bitmap} (sound : bitmap.Sound) : bitmap.clear = .empty := by
  unfold clear empty
  rw [List.map_const', sound.words]

structure Tracks (bitmap : Bitmap) (stations : Finset Aid) : Prop where
  sound : bitmap.Sound
  member : ∀ aid, aid ∈ stations ↔ bitmap.contains aid = true

theorem tracks_empty : Bitmap.empty.Tracks ∅ := by
  refine { sound := sound_empty, member := ?_ }
  intro aid
  rw [← sound_empty.mem_members, members_empty]
  exact iff_of_false (Finset.notMem_empty aid) List.not_mem_nil

section Change

variable {bitmap : Bitmap} {stations : Finset Aid} {aid : Aid}

/-- A change by an identifier that no station can hold is refused and changes nothing. -/
theorem refused_of_invalid (bitmap : Bitmap) (invalid : ¬ isValidAid aid = true) :
    (bitmap.insert aid = .error (.aidOutOfRange aid) ∧ bitmap.after (.insert aid) = bitmap) ∧
      (bitmap.erase aid = .error (.aidOutOfRange aid) ∧ bitmap.after (.erase aid) = bitmap) := by
  have insertRefused : bitmap.insert aid = .error (.aidOutOfRange aid) := if_neg invalid
  have eraseRefused : bitmap.erase aid = .error (.aidOutOfRange aid) := if_neg invalid
  rw [after_insert, after_erase, insertRefused, eraseRefused]
  exact ⟨⟨rfl, rfl⟩, rfl, rfl⟩

theorem Tracks.insert_eq (tracks : bitmap.Tracks stations) (valid : isValidAid aid = true) :
    bitmap.insert aid = .ok (bitmap.after (.insert aid), decide (aid ∉ stations)) ∧
      (bitmap.after (.insert aid)).Tracks (Insert.insert aid stations) := by
  obtain ⟨next, inserted, contains⟩ := tracks.sound.insert_eq valid
  have same : bitmap.after (.insert aid) = next := by
    rw [after_insert, inserted]
    rfl
  have report : (!bitmap.contains aid) = decide (aid ∉ stations) := by
    rw [Bool.eq_iff_iff, Bool.not_eq_true', decide_eq_true_iff, tracks.member, Bool.not_eq_true]
  rw [same]
  refine ⟨inserted.trans (by rw [report]), ?_⟩
  refine { sound := tracks.sound.insert inserted, member := ?_ }
  intro other
  rw [contains, Bool.or_eq_true, decide_eq_true_iff, Finset.mem_insert, tracks.member]

theorem Tracks.erase_eq (tracks : bitmap.Tracks stations) (valid : isValidAid aid = true) :
    bitmap.erase aid = .ok (bitmap.after (.erase aid), decide (aid ∈ stations)) ∧
      (bitmap.after (.erase aid)).Tracks (stations.erase aid) := by
  obtain ⟨next, erased, contains⟩ := tracks.sound.erase_eq valid
  have same : bitmap.after (.erase aid) = next := by
    rw [after_erase, erased]
    rfl
  have report : bitmap.contains aid = decide (aid ∈ stations) := by
    rw [Bool.eq_iff_iff, decide_eq_true_iff, tracks.member]
  rw [same]
  refine ⟨erased.trans (by rw [report]), ?_⟩
  refine { sound := tracks.sound.erase erased, member := ?_ }
  intro other
  rw [contains, Bool.and_eq_true, Bool.not_eq_true', decide_eq_false_iff_not, Finset.mem_erase,
    tracks.member]

theorem Tracks.after (tracks : bitmap.Tracks stations) (change : MembershipChange) :
    (bitmap.after change).Tracks (change.onSet stations) := by
  unfold MembershipChange.onSet
  cases change with
  | insert aid =>
      simp only [← isValidAid_iff]
      by_cases valid : isValidAid aid = true
      · rw [if_pos valid]
        exact (tracks.insert_eq valid).2
      · rw [if_neg valid, (bitmap.refused_of_invalid valid).1.2]
        exact tracks
  | erase aid =>
      simp only [← isValidAid_iff]
      by_cases valid : isValidAid aid = true
      · rw [if_pos valid]
        exact (tracks.erase_eq valid).2
      · rw [if_neg valid, (bitmap.refused_of_invalid valid).2.2]
        exact tracks
  | clear =>
      change bitmap.clear.Tracks ∅
      rw [tracks.sound.clear_eq]
      exact tracks_empty

end Change

/-! ### All changes -/

theorem tracks_afterAll (changes : List MembershipChange) :
    (Bitmap.empty.afterAll changes).Tracks (stationsAfter changes) := by
  have kept (bitmap : Bitmap) (stations : Finset Aid) (tracks : bitmap.Tracks stations) :
      (bitmap.afterAll changes).Tracks (changes.foldl MembershipChange.onSet stations) := by
    unfold afterAll
    induction changes generalizing bitmap stations with
    | nil => exact tracks
    | cons change rest ih => exact ih _ _ (tracks.after change)
  exact kept .empty ∅ tracks_empty

structure Represents (bitmap : Bitmap) (stations : Finset Aid) : Prop where
  inRange : ∀ aid, aid ∈ stations → 1 ≤ aid ∧ aid ≤ 2007
  contains : ∀ aid, bitmap.contains aid = decide (aid ∈ stations)
  count : bitmap.count = stations.card
  largest : ∀ aid, bitmap.max? = some aid ↔
    aid ∈ stations ∧ ∀ other, other ∈ stations → other ≤ aid
  nothing : bitmap.max? = none ↔ stations = ∅
  listed : ∃ list, AidList.ofBitmap bitmap = .ok list ∧ list.Ascending ∧
    ∀ aid, aid ∈ list.aids ↔ aid ∈ stations

structure Reports (bitmap : Bitmap) (stations : Finset Aid) : Prop where
  insert : ∀ aid, 1 ≤ aid ∧ aid ≤ 2007 →
    bitmap.insert aid = .ok (bitmap.after (.insert aid),
      decide ((MembershipChange.insert aid).onSet stations ≠ stations))
  erase : ∀ aid, 1 ≤ aid ∧ aid ≤ 2007 →
    bitmap.erase aid = .ok (bitmap.after (.erase aid),
      decide ((MembershipChange.erase aid).onSet stations ≠ stations))
  refused : ∀ aid, ¬ (1 ≤ aid ∧ aid ≤ 2007) →
    bitmap.insert aid = .error (.aidOutOfRange aid) ∧
      bitmap.erase aid = .error (.aidOutOfRange aid) ∧
      (Fault.aidOutOfRange aid).category = .invalidArgument ∧
      bitmap.after (.insert aid) = bitmap ∧ bitmap.after (.erase aid) = bitmap

section Views

variable {bitmap : Bitmap} {stations : Finset Aid} (tracks : bitmap.Tracks stations)
include tracks

theorem Tracks.card_eq : bitmap.count = stations.card := by
  have distinct : bitmap.members.aids.Nodup :=
    bitmap.ascending_members.imp (fun earlier => UInt16.ne_of_lt earlier)
  have same : stations = bitmap.members.aids.toFinset := by
    ext aid
    rw [List.mem_toFinset, tracks.sound.mem_members, tracks.member]
  rw [same, List.toFinset_card_of_nodup distinct, tracks.sound.counted]
  unfold members
  rw [List.length_map]

theorem Tracks.represents : bitmap.Represents stations := by
  have sound := tracks.sound
  refine
    { inRange := ?_
      contains := ?_
      count := tracks.card_eq
      largest := ?_
      nothing := ?_
      listed := ?_ }
  · intro aid member
    exact isValidAid_iff.mp (sound.valid_of_contains ((tracks.member aid).mp member))
  · intro aid
    rw [Bool.eq_iff_iff, decide_eq_true_iff, tracks.member]
  · intro aid
    simp only [tracks.member]
    exact sound.max?_eq_some_iff
  · constructor
    · intro nothing
      apply Finset.eq_empty_of_forall_notMem
      intro aid member
      have absent := not_contains_of_max?_eq_none nothing aid
      rw [(tracks.member aid).mp member] at absent
      cases absent
    · rintro rfl
      cases top : bitmap.max? with
      | none => rfl
      | some aid =>
          have member := (tracks.member aid).mpr (sound.of_max?_eq_some top).1
          exact absurd member (Finset.notMem_empty aid)
  · refine ⟨bitmap.members, sound.ofBitmap, bitmap.ascending_members, ?_⟩
    intro aid
    rw [sound.mem_members, tracks.member]

theorem Tracks.reports : bitmap.Reports stations := by
  refine { insert := ?_, erase := ?_, refused := ?_ }
  · intro aid inRange
    have grown : (MembershipChange.insert aid).onSet stations = Insert.insert aid stations :=
      if_pos inRange
    rw [(tracks.insert_eq (isValidAid_iff.mpr inRange)).1, grown]
    simp only [ne_eq, Finset.insert_eq_self]
  · intro aid inRange
    have shrunk : (MembershipChange.erase aid).onSet stations = stations.erase aid :=
      if_pos inRange
    rw [(tracks.erase_eq (isValidAid_iff.mpr inRange)).1, shrunk]
    simp only [ne_eq, Finset.erase_eq_self, not_not]
  · intro aid outside
    have invalid : ¬ isValidAid aid = true := fun valid => outside (isValidAid_iff.mp valid)
    obtain ⟨⟨insertRefused, notInserted⟩, eraseRefused, notErased⟩ :=
      bitmap.refused_of_invalid invalid
    exact ⟨insertRefused, eraseRefused, rfl, notInserted, notErased⟩

end Views

/-- After any changes, whether accepted or refused, the bitmap holds the stations of the set to
which the same was done, and it reports of a further change whether that set changes. -/
theorem stations_form_set (changes : List MembershipChange) :
    (Bitmap.empty.afterAll changes).Represents (stationsAfter changes) ∧
      (Bitmap.empty.afterAll changes).Reports (stationsAfter changes) :=
  have tracks := tracks_afterAll changes
  ⟨tracks.represents, tracks.reports⟩

end Bitmap

end RestrictedAccess.Station
