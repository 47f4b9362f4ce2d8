/-
The membership bitmap as a set of stations. Its invariant says that the count is the number of set
positions and that every set position is an identifier a station can hold; insertion and removal
keep it, and under it the station list is made without a fault and enumerates the set.
-/

import RestrictedAccess.Station.AidList

namespace RestrictedAccess.Station

/-! ### Positions -/

theorem length_flipBit (words : List UInt64) (position : Nat) :
    (flipBit words position).length = words.length :=
  List.length_modify _ words _

private theorem toNat_flipped (word : UInt64) {bit : Nat} (inside : bit < wordSize) :
    (UInt64.ofNat (word.toNat ^^^ Nat.pow 2 bit)).toNat = word.toNat ^^^ Nat.pow 2 bit := by
  have power : 2 ^ bit < 2 ^ 64 := Nat.pow_lt_pow_right (by decide) inside
  exact UInt64.toNat_ofNat_of_lt' (Nat.xor_lt_two_pow word.toNat_lt power)

private theorem testBit_power (bit other : Nat) :
    (Nat.pow 2 bit).testBit other = decide (bit = other) :=
  Nat.testBit_two_pow

theorem bitAt_flipBit (words : List UInt64) {position : Nat}
    (covered : position / wordSize < words.length) (other : Nat) :
    bitAt (flipBit words position) other =
      if other = position then !bitAt words other else bitAt words other := by
  have inside : position % wordSize < wordSize := Nat.mod_lt _ (by decide)
  unfold bitAt flipBit
  by_cases sameWord : position / wordSize = other / wordSize
  · rw [sameWord] at covered
    rw [sameWord, List.getElem?_modify_eq, List.getElem?_eq_getElem covered]
    simp only [Option.map_eq_map, Option.map_some, toNat_flipped _ inside, Nat.testBit_xor,
      testBit_power]
    by_cases same : other = position
    · subst same
      simp
    · have different : position % wordSize ≠ other % wordSize := by
        intro sameBit
        have left := Nat.div_add_mod position wordSize
        have right := Nat.div_add_mod other wordSize
        rw [sameWord, sameBit] at left
        exact same (right.symm.trans left)
      simp [different, same]
  · rw [List.getElem?_modify_ne _ _ sameWord]
    have different : other ≠ position := fun same => sameWord (same ▸ rfl)
    rw [if_neg different]

private theorem length_filter_toggle {kept added : Nat → Bool} {position : Nat}
    (absent : kept position = false) (present : added position = true)
    (elsewhere : ∀ other, other ≠ position → added other = kept other) {positions : List Nat}
    (distinct : positions.Nodup) (member : position ∈ positions) :
    (positions.filter added).length = (positions.filter kept).length + 1 := by
  induction positions with
  | nil => cases member
  | cons head tail ih =>
      rcases List.nodup_cons.mp distinct with ⟨headTail, tailDistinct⟩
      by_cases same : head = position
      · subst same
        have unchanged : tail.filter added = tail.filter kept :=
          List.filter_congr (fun other inTail =>
            elsewhere other (fun equal => headTail (equal ▸ inTail)))
        rw [List.filter_cons_of_pos present, unchanged, List.length_cons,
          List.filter_cons_of_neg (by rw [absent]; exact Bool.false_ne_true)]
      · have inTail := (List.mem_cons.mp member).resolve_left (Ne.symm same)
        have tailCount := ih tailDistinct inTail
        rw [List.filter_cons, List.filter_cons, elsewhere head same]
        split
        · rw [List.length_cons, List.length_cons, tailCount]
        · exact tailCount

private theorem bitAt_cons_lt (word : UInt64) (rest : List UInt64) {position : Nat}
    (small : position < wordSize) :
    bitAt (word :: rest) position = word.toNat.testBit position := by
  unfold bitAt
  rw [Nat.div_eq_of_lt small, Nat.mod_eq_of_lt small]
  rfl

private theorem bitAt_cons_add (word : UInt64) (rest : List UInt64) (position : Nat) :
    bitAt (word :: rest) (position + wordSize) = bitAt rest position := by
  have index : (position + wordSize) / wordSize = position / wordSize + 1 :=
    Nat.add_div_right position (by decide)
  unfold bitAt
  rw [index, List.getElem?_cons_succ, Nat.add_mod_right]

/-- A position lies in the first word or is one of the rest, moved up by a word. -/
private theorem position_cases (position : Nat) :
    position < wordSize ∨ ∃ below, position = below + wordSize := by
  by_cases small : position < wordSize
  · exact Or.inl small
  · exact Or.inr ⟨position - wordSize, (Nat.sub_add_cancel (Nat.le_of_not_lt small)).symm⟩

/-! ### Positions in ascending order -/

section Positions

variable {words : List UInt64} {position bound : Nat}

theorem setPositions_succ (words : List UInt64) (position : Nat) :
    setPositions words (position + 1) =
      setPositions words position ++ if bitAt words position then [position] else [] := by
  unfold setPositions
  rw [List.range_succ, List.filter_append]
  cases set : bitAt words position <;> simp [set]

theorem setPositions_succ_of_set (set : bitAt words position = true) :
    setPositions words (position + 1) = setPositions words position ++ [position] := by
  rw [setPositions_succ, if_pos set]

theorem setPositions_succ_of_clear (clear : bitAt words position = false) :
    setPositions words (position + 1) = setPositions words position := by
  rw [setPositions_succ, clear]
  exact List.append_nil _

theorem length_setPositions_mono (words : List UInt64) (ordered : position ≤ bound) :
    (setPositions words position).length ≤ (setPositions words bound).length := by
  induction ordered with
  | refl => exact Nat.le_refl _
  | step _ ih =>
      rw [setPositions_succ, List.length_append]
      exact Nat.le_add_right_of_le ih

theorem setPositions_eq_of_clear (ordered : position ≤ bound)
    (clear : ∀ other, position ≤ other → bitAt words other = false) :
    setPositions words bound = setPositions words position := by
  induction ordered with
  | refl => rfl
  | step reached ih =>
      rw [setPositions_succ_of_clear (clear _ reached), ih]

end Positions

namespace Bitmap

theorem bitAt_of_highestPosition?_none {words : List UInt64}
    (absent : highestPosition? words = none) (position : Nat) : bitAt words position = false := by
  induction words generalizing position with
  | nil => rfl
  | cons word rest ih =>
      unfold highestPosition? at absent
      cases inRest : highestPosition? rest with
      | some below =>
          simp only [inRest] at absent
          cases absent
      | none =>
          simp only [inRest] at absent
          split at absent
          · rename_i zero
            rcases position_cases position with small | ⟨below, rfl⟩
            · rw [bitAt_cons_lt word rest small, zero]
              exact Nat.zero_testBit position
            · rw [bitAt_cons_add]
              exact ih inRest below
          · cases absent

theorem bitAt_of_highestPosition? {words : List UInt64} {highest : Nat}
    (found : highestPosition? words = some highest) :
    bitAt words highest = true ∧ ∀ position, highest < position → bitAt words position = false := by
  induction words generalizing highest with
  | nil => cases found
  | cons word rest ih =>
      unfold highestPosition? at found
      cases inRest : highestPosition? rest with
      | some below =>
          simp only [inRest, Option.some.injEq] at found
          subst found
          rcases ih inRest with ⟨set, clear⟩
          refine ⟨(bitAt_cons_add word rest below).trans set, ?_⟩
          intro position above
          rcases position_cases position with small | ⟨next, rfl⟩
          · omega
          · rw [bitAt_cons_add]
            exact clear next (by omega)
      | none =>
          simp only [inRest] at found
          split at found
          · cases found
          · rename_i nonzeroWord
            cases found
            have nonzero : word.toNat ≠ 0 := fun zero => nonzeroWord (UInt64.toNat_inj.mp zero)
            have small : word.toNat.log2 < wordSize := (Nat.log2_lt nonzero).mpr word.toNat_lt
            refine ⟨(bitAt_cons_lt word rest small).trans (Nat.testBit_log2 nonzero), ?_⟩
            intro position above
            rcases position_cases position with inWord | ⟨next, rfl⟩
            · rw [bitAt_cons_lt word rest inWord]
              exact Nat.testBit_lt_two_pow ((Nat.log2_lt nonzero).mp above)
            · rw [bitAt_cons_add]
              exact bitAt_of_highestPosition?_none inRest next

/-! ### The invariant -/

structure Sound (bitmap : Bitmap) : Prop where
  words : bitmap.words.length = wordCount
  inRange : ∀ position, bitAt bitmap.words position = true → 0 < position ∧ position ≤ maxAid
  counted : bitmap.count = (setPositions bitmap.words (maxAid + 1)).length

theorem sound_empty : Bitmap.empty.Sound := by
  have clear (position : Nat) : bitAt Bitmap.empty.words position = false := by
    unfold bitAt Bitmap.empty
    simp only
    split
    · rename_i word found
      rw [List.eq_of_mem_replicate (List.mem_of_getElem? found)]
      exact Nat.zero_testBit _
    · rfl
  refine { words := List.length_replicate, inRange := ?_, counted := ?_ }
  · intro position set
    rw [clear position] at set
    cases set
  · have none : setPositions Bitmap.empty.words (maxAid + 1) = [] :=
      List.filter_eq_nil_iff.mpr (fun position _ => by rw [clear]; exact Bool.false_ne_true)
    rw [none]
    rfl

section Change

variable {bitmap : Bitmap} {aid : Aid}

private theorem valid_bounds (valid : isValidAid aid = true) :
    0 < aid.toNat ∧ aid.toNat ≤ maxAid := by
  simpa only [isValidAid, Bool.and_eq_true, decide_eq_true_eq] using valid

private theorem Sound.covers (sound : bitmap.Sound) (valid : isValidAid aid = true) :
    aid.toNat / wordSize < bitmap.words.length := by
  have bounds := valid_bounds valid
  have words : bitmap.words.length = 32 := sound.words
  have limit : aid.toNat ≤ 2007 := bounds.2
  have size : wordSize = 64 := rfl
  rw [words, size]
  omega

private theorem mem_range_of_valid (valid : isValidAid aid = true) :
    aid.toNat ∈ List.range (maxAid + 1) :=
  List.mem_range.mpr (Nat.lt_succ_of_le (valid_bounds valid).2)

private theorem Sound.flip (sound : bitmap.Sound) (valid : isValidAid aid = true) {count : Nat}
    (counted : count = (setPositions (flipBit bitmap.words aid.toNat) (maxAid + 1)).length) :
    Sound ⟨flipBit bitmap.words aid.toNat, count⟩ := by
  refine
    { words := (length_flipBit bitmap.words aid.toNat).trans sound.words
      inRange := ?_
      counted := counted }
  intro position set
  rw [bitAt_flipBit bitmap.words (sound.covers valid)] at set
  split at set
  · rename_i same
    exact same ▸ valid_bounds valid
  · exact sound.inRange position set

theorem Sound.insert (sound : bitmap.Sound) {next : Bitmap} {changed : Bool}
    (inserted : bitmap.insert aid = .ok (next, changed)) : next.Sound := by
  unfold Bitmap.insert at inserted
  split at inserted
  · rename_i valid
    split at inserted
    · cases inserted
      exact sound
    · rename_i absent
      cases inserted
      have clear : bitAt bitmap.words aid.toNat = false := by simpa [contains] using absent
      have flipped := bitAt_flipBit bitmap.words (sound.covers valid)
      apply sound.flip valid
      refine (congrArg (fun count => count + 1) sound.counted).trans ?_
      refine (length_filter_toggle clear ?_ ?_ List.nodup_range (mem_range_of_valid valid)).symm
      · rw [flipped, if_pos rfl, clear]
        rfl
      · intro other different
        rw [flipped, if_neg different]
  · cases inserted

theorem Sound.erase (sound : bitmap.Sound) {next : Bitmap} {changed : Bool}
    (erased : bitmap.erase aid = .ok (next, changed)) : next.Sound := by
  unfold Bitmap.erase at erased
  split at erased
  · rename_i valid
    split at erased
    · rename_i present
      cases erased
      have set : bitAt bitmap.words aid.toNat = true := present
      have flipped := bitAt_flipBit bitmap.words (sound.covers valid)
      have toggled : (setPositions bitmap.words (maxAid + 1)).length =
          (setPositions (flipBit bitmap.words aid.toNat) (maxAid + 1)).length + 1 := by
        refine length_filter_toggle ?_ set ?_ List.nodup_range (mem_range_of_valid valid)
        · rw [flipped, if_pos rfl, set]
          rfl
        · intro other different
          rw [flipped, if_neg different]
      apply sound.flip valid
      have counted := sound.counted.trans toggled
      rw [counted, Nat.add_sub_cancel]
    · cases erased
      exact sound
  · cases erased

theorem Sound.valid_of_contains (sound : bitmap.Sound) (present : bitmap.contains aid = true) :
    isValidAid aid = true := by
  have bounds := sound.inRange aid.toNat present
  simpa only [isValidAid, Bool.and_eq_true, decide_eq_true_eq] using bounds

private theorem contains_flipped (sound : bitmap.Sound) (valid : isValidAid aid = true)
    (count : Nat) (other : Aid) :
    Bitmap.contains ⟨flipBit bitmap.words aid.toNat, count⟩ other =
      if other = aid then !bitmap.contains other else bitmap.contains other := by
  unfold contains
  simp only [bitAt_flipBit bitmap.words (sound.covers valid), UInt16.toNat_inj]

theorem Sound.insert_eq (sound : bitmap.Sound) (valid : isValidAid aid = true) :
    ∃ next, bitmap.insert aid = .ok (next, !bitmap.contains aid) ∧
      ∀ other, next.contains other = (decide (other = aid) || bitmap.contains other) := by
  unfold Bitmap.insert
  rw [if_pos valid]
  cases present : bitmap.contains aid with
  | true =>
      refine ⟨bitmap, rfl, ?_⟩
      intro other
      by_cases same : other = aid
      · rw [same, present, Bool.or_true]
      · rw [decide_eq_false same, Bool.false_or]
  | false =>
      refine ⟨_, rfl, ?_⟩
      intro other
      rw [contains_flipped sound valid]
      by_cases same : other = aid
      · rw [if_pos same, same, present, decide_eq_true rfl]
        rfl
      · rw [if_neg same, decide_eq_false same, Bool.false_or]

theorem Sound.erase_eq (sound : bitmap.Sound) (valid : isValidAid aid = true) :
    ∃ next, bitmap.erase aid = .ok (next, bitmap.contains aid) ∧
      ∀ other, next.contains other = (!decide (other = aid) && bitmap.contains other) := by
  unfold Bitmap.erase
  rw [if_pos valid]
  cases present : bitmap.contains aid with
  | true =>
      refine ⟨_, rfl, ?_⟩
      intro other
      rw [contains_flipped sound valid]
      by_cases same : other = aid
      · rw [if_pos same, same, present, decide_eq_true rfl]
        rfl
      · rw [if_neg same, decide_eq_false same, Bool.not_false, Bool.true_and]
  | false =>
      refine ⟨bitmap, rfl, ?_⟩
      intro other
      by_cases same : other = aid
      · rw [same, present, Bool.and_false]
      · rw [decide_eq_false same, Bool.not_false, Bool.true_and]

end Change

/-! ### The station list -/

def members (bitmap : Bitmap) : AidList :=
  ⟨(setPositions bitmap.words (maxAid + 1)).map UInt16.ofNat⟩

theorem Sound.setPositions_eq {bitmap : Bitmap} (sound : bitmap.Sound) {highest : Nat}
    (found : highestPosition? bitmap.words = some highest) :
    setPositions bitmap.words (highest + 1) = setPositions bitmap.words (maxAid + 1) := by
  rcases bitAt_of_highestPosition? found with ⟨set, clear⟩
  have inside := (sound.inRange highest set).2
  exact (setPositions_eq_of_clear (Nat.succ_le_succ inside) clear).symm

theorem Sound.toNat_of_highestPosition? {bitmap : Bitmap} (sound : bitmap.Sound) {highest : Nat}
    (found : highestPosition? bitmap.words = some highest) :
    (UInt16.ofNat highest).toNat = highest := by
  have inside := (sound.inRange highest (bitAt_of_highestPosition? found).1).2
  have limit : maxAid = 2007 := rfl
  exact UInt16.toNat_ofNat_of_lt' (Nat.lt_of_le_of_lt inside (by rw [limit]; decide))

theorem Sound.ofBitmap {bitmap : Bitmap} (sound : bitmap.Sound) :
    AidList.ofBitmap bitmap = .ok bitmap.members := by
  have few : bitmap.count ≤ maxAid + 1 := by
    rw [sound.counted]
    exact Nat.le_trans (List.length_filter_le _ _) (Nat.le_of_eq List.length_range)
  have allocatable : ¬ maxListBytes < 2 * bitmap.count := by
    have limit : maxAid = 2007 := rfl
    unfold maxListBytes
    omega
  have scanned : (if bitmap.count = 0 then []
      else setPositions bitmap.words ((bitmap.max?.getD 0).toNat + 1)) =
        setPositions bitmap.words (maxAid + 1) := by
    split
    · rename_i none
      have empty := sound.counted
      rw [none] at empty
      exact (List.eq_nil_of_length_eq_zero empty.symm).symm
    · rename_i some
      cases found : highestPosition? bitmap.words with
      | none =>
          refine absurd ?_ some
          rw [sound.counted]
          refine List.length_eq_zero_iff.mpr (List.filter_eq_nil_iff.mpr ?_)
          intro position _member
          rw [bitAt_of_highestPosition?_none found]
          exact Bool.false_ne_true
      | some highest =>
          have word := sound.toNat_of_highestPosition? found
          simp only [Bitmap.max?, found, Option.map_some, Option.getD_some, word]
          exact sound.setPositions_eq found
  unfold AidList.ofBitmap AidList.generate
  rw [if_neg allocatable]
  simp only [scanned, ← sound.counted]
  rw [if_neg (Nat.lt_irrefl _), if_neg (fun different => different rfl)]
  rfl

theorem size_members_le (bitmap : Bitmap) : bitmap.members.size ≤ maxAid + 1 := by
  unfold AidList.size members
  rw [List.length_map]
  exact Nat.le_trans (List.length_filter_le _ _) (Nat.le_of_eq List.length_range)

end Bitmap

end RestrictedAccess.Station
