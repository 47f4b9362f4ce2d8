/-
Searches of ascending lists. A search tells the position of an identifier in an ascending list, or
the position at which the identifier belongs, and there is no telling what it says of any other
list. Halving the part of the list that is still in question is such a search.
-/

import RestrictedAccess.Registry

namespace RestrictedAccess

/-- An identifier belongs at a position of a list if it is above all before and below the rest. -/
structure Belongs (id : WindowId) (ids : List WindowId) (position : Nat) : Prop where
  within : position ≤ ids.length
  above : ∀ index (inside : index < ids.length), index < position → ids[index] < id
  below : ∀ index (inside : index < ids.length), position ≤ index → id < ids[index]

/-- The position of an identifier, or as an error the position at which it belongs. -/
structure Search where
  locate : List WindowId → WindowId → Except Nat Nat
  found : ∀ {ids : List WindowId} {id : WindowId} {position : Nat},
    ids.Pairwise (fun earlier later => earlier < later) → locate ids id = .ok position →
      ids[position]? = some id
  missing : ∀ {ids : List WindowId} {id : WindowId} {position : Nat},
    ids.Pairwise (fun earlier later => earlier < later) → locate ids id = .error position →
      Belongs id ids position

section Position

variable {ids : List WindowId} {id : WindowId}

theorem Belongs.not_mem {position : Nat} (belongs : Belongs id ids position) : id ∉ ids := by
  intro member
  obtain ⟨index, inside, same⟩ := List.mem_iff_getElem.mp member
  rcases Nat.lt_or_ge index position with before | behind
  · have above := belongs.above index inside before
    rw [same] at above
    exact UInt16.lt_irrefl id above
  · have below := belongs.below index inside behind
    rw [same] at below
    exact UInt16.lt_irrefl id below

theorem Belongs.insertIdx_eq {position : Nat} (belongs : Belongs id ids position) :
    ids.insertIdx position id = insertAscending id ids := by
  induction ids generalizing position with
  | nil =>
      have atEnd : position = 0 := Nat.le_zero.mp belongs.within
      subst atEnd
      rfl
  | cons head tail ih =>
      cases position with
      | zero =>
          have below : id < head := belongs.below 0 (Nat.succ_pos _) (Nat.le_refl 0)
          rw [List.insertIdx_zero, insertAscending, if_pos below]
      | succ position =>
          have above : head < id := belongs.above 0 (Nat.succ_pos _) (Nat.succ_pos _)
          have further : Belongs id tail position :=
            { within := Nat.le_of_succ_le_succ belongs.within
              above := fun index inside before =>
                belongs.above (index + 1) (Nat.succ_lt_succ inside) (Nat.succ_lt_succ before)
              below := fun index inside behind =>
                belongs.below (index + 1) (Nat.succ_lt_succ inside) (Nat.succ_le_succ behind) }
          have notBelow : ¬ id < head := UInt16.not_lt.mpr (UInt16.le_of_lt above)
          have different : id ≠ head := by
            intro same
            rw [same] at above
            exact UInt16.lt_irrefl head above
          rw [List.insertIdx_succ_cons, ih further, insertAscending, if_neg notBelow,
            if_neg different]

end Position

/-! ### Halving -/

/-- The position of the first identifier that is not below the wanted one. It lies in the part of
the list from `low` up to `high`. -/
def lowerBound (ids : List WindowId) (id : WindowId) (low high : Nat) : Nat :=
  if low < high then
    let middle := low + (high - low) / 2
    if ids.getD middle 0 < id then lowerBound ids id (middle + 1) high
    else lowerBound ids id low middle
  else low
termination_by high - low

def halve (ids : List WindowId) (id : WindowId) : Except Nat Nat :=
  let position := lowerBound ids id 0 ids.length
  if ids[position]? = some id then .ok position else .error position

structure Encloses (ids : List WindowId) (id : WindowId) (low high : Nat) : Prop where
  ordered : low ≤ high
  within : high ≤ ids.length
  small : ∀ index (inside : index < ids.length), index < low → ids[index] < id
  large : ∀ index (inside : index < ids.length), high ≤ index → id ≤ ids[index]

section Halving

variable {ids : List WindowId} {id : WindowId}
  (ascending : ids.Pairwise (fun earlier later => earlier < later))
include ascending

theorem getElem_le_of_ascending {earlier later : Nat} (order : earlier ≤ later)
    (inside : later < ids.length) : ids[earlier] ≤ ids[later] := by
  rcases Nat.lt_or_eq_of_le order with before | same
  · exact UInt16.le_of_lt (List.pairwise_iff_getElem.mp ascending earlier later _ inside before)
  · subst same
    exact UInt16.le_refl _

theorem encloses_lowerBound {low high : Nat} (encloses : Encloses ids id low high) :
    Encloses ids id (lowerBound ids id low high) (lowerBound ids id low high) := by
  fun_induction lowerBound ids id low high with
  | case1 low high apart middle smaller ih =>
      have inside : middle < ids.length := by
        have within := encloses.within
        omega
      rw [List.getD_eq_getElem?_getD, List.getElem?_eq_getElem inside, Option.getD_some] at smaller
      refine ih { encloses with ordered := by omega, small := ?_ }
      intro index reached before
      exact UInt16.lt_of_le_of_lt
        (getElem_le_of_ascending ascending (Nat.le_of_lt_succ before) inside) smaller
  | case2 low high apart middle notSmaller ih =>
      have inside : middle < ids.length := by
        have within := encloses.within
        omega
      rw [List.getD_eq_getElem?_getD, List.getElem?_eq_getElem inside, Option.getD_some,
        UInt16.not_lt] at notSmaller
      refine ih { encloses with ordered := by omega, within := Nat.le_of_lt inside, large := ?_ }
      intro index reached behind
      exact UInt16.le_trans notSmaller (getElem_le_of_ascending ascending behind reached)
  | case3 low high apart =>
      have met : high = low := by
        have ordered := encloses.ordered
        omega
      subst met
      exact encloses

/-- Where the identifier is not found, everything that is not too small is too large. -/
theorem Encloses.belongs {position : Nat} (encloses : Encloses ids id position position)
    (absent : ids[position]? ≠ some id) : Belongs id ids position := by
  refine { within := encloses.within, above := encloses.small, below := ?_ }
  intro index inside behind
  have there : position < ids.length := Nat.lt_of_le_of_lt behind inside
  have different : ids[position] ≠ id := by
    intro same
    exact absent (List.getElem?_eq_some_iff.mpr ⟨there, same⟩)
  have apart : id < ids[position] :=
    UInt16.lt_of_le_of_ne (encloses.large position there (Nat.le_refl _)) (Ne.symm different)
  exact UInt16.lt_of_lt_of_le apart (getElem_le_of_ascending ascending behind inside)

end Halving

def halving : Search :=
  { locate := halve
    found := by
      intro ids id position _ascending located
      unfold halve at located
      simp only at located
      split at located
      · rename_i present
        cases located
        exact present
      · cases located
    missing := by
      intro ids id position ascending located
      have begins : Encloses ids id 0 ids.length :=
        { ordered := Nat.zero_le _
          within := Nat.le_refl _
          small := fun _ _ before => absurd before (Nat.not_lt_zero _)
          large := fun _ inside behind => absurd inside (Nat.not_lt.mpr behind) }
      have enclosed := encloses_lowerBound ascending begins
      unfold halve at located
      simp only at located
      split at located
      · cases located
      · rename_i absent
        cases located
        exact enclosed.belongs ascending absent }

end RestrictedAccess
