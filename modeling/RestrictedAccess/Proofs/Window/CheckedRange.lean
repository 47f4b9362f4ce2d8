/-
The range of a spread window computed the way a machine does it, with sixteen-bit counts and with
every step made visible that has no answer on some operands: subtracting, dividing, adding one
station, slicing the list and reading an entry. On sound windows each of these steps is answered,
and the outcome is the range that is announced.
-/

import RestrictedAccess.Proofs.Window.Block

namespace RestrictedAccess

open Station

/-! ### Sixteen-bit counts -/

namespace Count

def divide? (count divisor : UInt16) : Option UInt16 :=
  if divisor = 0 then none else some (count / divisor)

def remainder? (count divisor : UInt16) : Option UInt16 :=
  if divisor = 0 then none else some (count % divisor)

def add? (left right : UInt16) : Option UInt16 :=
  if left.toNat + right.toNat < 65536 then some (left + right) else none

def divideUp? (count divisor : UInt16) : Option UInt16 := do
  let quotient ← divide? count divisor
  let rest ← remainder? count divisor
  if 0 < rest then add? quotient 1 else some quotient

def atLeastOne (count : UInt16) : UInt16 :=
  if count = 0 then 1 else count

theorem toNat_atLeastOne (count : UInt16) : (atLeastOne count).toNat = max count.toNat 1 := by
  unfold atLeastOne
  split
  · rename_i zero
    subst zero
    rfl
  · rename_i nonzero
    have positive : count.toNat ≠ 0 := fun zero => nonzero (UInt16.toNat_inj.mp zero)
    omega

theorem ne_zero_of_pos {count : UInt16} (positive : 0 < count.toNat) : count ≠ 0 := by
  intro zero
  subst zero
  exact Nat.lt_irrefl 0 positive

theorem divide?_eq {count divisor : UInt16} (positive : 0 < divisor.toNat) :
    divide? count divisor = some (count / divisor) :=
  if_neg (ne_zero_of_pos positive)

theorem remainder?_eq {count divisor : UInt16} (positive : 0 < divisor.toNat) :
    remainder? count divisor = some (count % divisor) :=
  if_neg (ne_zero_of_pos positive)

theorem add?_eq {left right : UInt16} (fits : left.toNat + right.toNat < 65536) :
    ∃ sum, add? left right = some sum ∧ sum.toNat = left.toNat + right.toNat := by
  refine ⟨left + right, if_pos fits, ?_⟩
  rw [UInt16.toNat_add]
  exact Nat.mod_eq_of_lt fits

/-- Rounding up never leaves the sixteen bits: a remainder is only left by a divisor of two or
more, and half a count has room for one more. -/
theorem divideUp?_eq (count : UInt16) {divisor : UInt16} (positive : 0 < divisor.toNat) :
    ∃ quotient, divideUp? count divisor = some quotient ∧
      quotient.toNat = (count.toNat + divisor.toNat - 1) / divisor.toNat := by
  have whole := Nat.div_add_mod count.toNat divisor.toNat
  have small := Nat.mod_lt count.toNat positive
  unfold divideUp?
  rw [divide?_eq positive, remainder?_eq positive]
  by_cases rest : 0 < count % divisor
  · have left : 0 < count.toNat % divisor.toNat := by
      have unequal := UInt16.lt_iff_toNat_lt.mp rest
      rwa [UInt16.toNat_mod] at unequal
    have half : count.toNat / divisor.toNat ≤ count.toNat / 2 :=
      Nat.div_le_div_left (by omega) (by decide)
    have bounded := count.toNat_lt
    have fits : (count / divisor).toNat + (1 : UInt16).toNat < 65536 := by
      rw [UInt16.toNat_div]
      change count.toNat / divisor.toNat + 1 < 65536
      omega
    rcases add?_eq fits with ⟨sum, added, value⟩
    refine ⟨sum, ?_, ?_⟩
    · simp only [bind, Option.bind, if_pos rest, added]
    · rw [value, UInt16.toNat_div]
      change count.toNat / divisor.toNat + 1 = _
      refine (Nat.div_eq_of_lt_le ?_ ?_).symm
      · rw [Nat.succ_mul, Nat.mul_comm]
        omega
      · rw [Nat.succ_mul, Nat.succ_mul, Nat.mul_comm]
        omega
  · have exact_quotient : count.toNat % divisor.toNat = 0 := by
      refine Nat.eq_zero_of_not_pos (fun left => rest ?_)
      rw [UInt16.lt_iff_toNat_lt, UInt16.toNat_mod]
      exact left
    refine ⟨count / divisor, ?_, ?_⟩
    · simp only [bind, Option.bind, if_neg rest]
    · rw [UInt16.toNat_div]
      refine (Nat.div_eq_of_lt_le ?_ ?_).symm
      · rw [Nat.mul_comm]
        omega
      · rw [Nat.succ_mul, Nat.mul_comm]
        omega

end Count

namespace Spreading

def countedCycle? (spreading : Spreading) (stations : UInt16) : Option UInt16 := do
  let nominal := Count.atLeastOne spreading.nominal
  let blocks ← Count.divide? stations nominal
  if 0 < spreading.maxSpread ∧ spreading.maxSpread < blocks then some spreading.maxSpread
  else do
    let beacons ← Count.divideUp? stations nominal
    some (Count.atLeastOne beacons)

/-- The stations in each beacon of a cycle and the number of leading beacons with one more,
counted in sixteen bits. -/
def countedSplit? (spreading : Spreading) (stations : UInt16) : Option (UInt16 × UInt16) := do
  let beacons ← spreading.countedCycle? stations
  let each ← Count.divide? stations beacons
  let extra ← Count.remainder? stations beacons
  some (each, extra)

theorem countedCycle?_eq (spreading : Spreading) (stations : UInt16) :
    ∃ beacons, spreading.countedCycle? stations = some beacons ∧
      beacons.toNat = spreading.cycleLength stations.toNat := by
  have nominal := Count.toNat_atLeastOne spreading.nominal
  have positive : 0 < (Count.atLeastOne spreading.nominal).toNat := by omega
  unfold countedCycle? cycleLength
  simp only [Count.divide?_eq positive, bind, Option.bind, UInt16.lt_iff_toNat_lt,
    UInt16.toNat_div, nominal]
  by_cases limited : 0 < spreading.maxSpread.toNat ∧
      spreading.maxSpread.toNat < stations.toNat / max spreading.nominal.toNat 1
  · exact ⟨spreading.maxSpread, if_pos limited, (if_pos limited).symm⟩
  · rcases Count.divideUp?_eq stations positive with ⟨beacons, rounded, value⟩
    refine ⟨Count.atLeastOne beacons, ?_, ?_⟩
    · rw [if_neg (by exact limited), rounded]
    · rw [if_neg limited, Count.toNat_atLeastOne, value, nominal]

theorem countedSplit?_eq (spreading : Spreading) (stations : UInt16) :
    ∃ each extra, spreading.countedSplit? stations = some (each, extra) ∧
      each.toNat = (spreading.split stations.toNat).1 ∧
      extra.toNat = (spreading.split stations.toNat).2 := by
  rcases spreading.countedCycle?_eq stations with ⟨beacons, counted, value⟩
  have positive : 0 < beacons.toNat := by
    rw [value]
    exact spreading.cycleLength_pos stations.toNat
  refine ⟨stations / beacons, stations % beacons, ?_, ?_, ?_⟩
  · simp only [countedSplit?, counted, bind, Option.bind, Count.divide?_eq positive,
      Count.remainder?_eq positive]
  · rw [UInt16.toNat_div, value]
    rfl
  · rw [UInt16.toNat_mod, value]
    rfl

/-- A cycle with leading beacons of one more station has two beacons at least, so a beacon's share
is at most half of the stations. -/
theorem double_split_le (spreading : Spreading) (stations : Nat)
    (leading : (spreading.split stations).2 ≠ 0) :
    2 * (spreading.split stations).1 ≤ stations := by
  have whole := Nat.div_add_mod stations (spreading.cycleLength stations)
  have small := Nat.mod_lt stations (spreading.cycleLength_pos stations)
  change stations % spreading.cycleLength stations ≠ 0 at leading
  change 2 * (stations / spreading.cycleLength stations) ≤ stations
  have many : 2 ≤ spreading.cycleLength stations := by omega
  have share : 2 * (stations / spreading.cycleLength stations) ≤
      spreading.cycleLength stations * (stations / spreading.cycleLength stations) :=
    Nat.mul_le_mul_right _ many
  omega

end Spreading

/-! ### Blocks and ranges -/

def slice? {α : Type} (list : List α) (first last : Nat) : Option (List α) :=
  if first ≤ last + 1 ∧ last < list.length then some ((list.drop first).take (last + 1 - first))
  else none

namespace WindowConfig

/-- The next block of a slice. The number of stations is cut to sixteen bits. -/
def checkedBlock? (spreading : Spreading) (aids : AidList) (first last : Nat) :
    Option (Nat × Nat) := do
  if last < first then none
  else
    let (each, extra) ← spreading.countedSplit? (UInt16.ofNat (last - first + 1))
    let slice ← slice? aids.aids first last
    let done := (slice.findIdx? (fun aid => spreading.lastAid < aid)).getD 0
    let size ←
      if done < (each.toNat + 1) * extra.toNat then Count.add? each 1 else some each
    if first + done + size.toNat = 0 then none
    else some (first + done, min (first + done + size.toNat - 1) last)

def checkedRange? (window : WindowConfig) (aids : AidList) :
    Option (WindowConfig × AidRange) :=
  match window.spreading with
  | none => some (window, ⟨window.startAid, window.endAid⟩)
  | some spreading =>
      match (if spreading.isEnabled then window.spreadSlice? aids else none) with
      | none =>
          some ({ window with spreading := some { spreading with lastAid := window.endAid } },
            ⟨window.startAid, window.endAid⟩)
      | some (first, last) => do
          let (blockFirst, blockLast) ← checkedBlock? spreading aids first last
          let firstAid ← aids.aids[blockFirst]?
          let lastAid ← aids.aids[blockLast]?
          some ({ window with spreading := some { spreading with lastAid } },
            ⟨firstAid, lastAid⟩)

theorem checkedBlock?_eq (spreading : Spreading) (aids : AidList) {first last : Nat}
    (ordered : first ≤ last) (inList : last < aids.size) (few : aids.size < 65536) :
    checkedBlock? spreading aids first last = nextBlock? spreading aids first last := by
  have fits : last - first + 1 < 65536 := by omega
  have same : last + 1 - first = last - first + 1 := by omega
  have count : (UInt16.ofNat (last - first + 1)).toNat = last - first + 1 :=
    UInt16.toNat_ofNat_of_lt' fits
  obtain ⟨each, extra, counted, eachValue, extraValue⟩ :=
    spreading.countedSplit?_eq (UInt16.ofNat (last - first + 1))
  rw [count] at eachValue extraValue
  have sliced : slice? aids.aids first last =
      some ((aids.aids.drop first).take (last + 1 - first)) :=
    if_pos ⟨by omega, inList⟩
  unfold checkedBlock? nextBlock?
  rw [if_neg (Nat.not_lt.mpr ordered), if_neg (Nat.not_lt.mpr ordered)]
  simp only [counted, sliced, bind, Option.bind, eachValue, extraValue, same,
    Nat.mod_eq_of_lt fits]
  split
  · rename_i leading
    have extraShare : (spreading.split (last - first + 1)).2 ≠ 0 := by
      intro zero
      rw [zero] at leading
      exact Nat.not_lt_zero _ leading
    have half := spreading.double_split_le (last - first + 1) extraShare
    have room : each.toNat + (1 : UInt16).toNat < 65536 := by
      change each.toNat + 1 < 65536
      omega
    rcases Count.add?_eq room with ⟨size, added, sizeValue⟩
    have larger : size.toNat = (spreading.split (last - first + 1)).1 + 1 := by
      rw [sizeValue, eachValue]
      rfl
    simp only [added, larger]
  · rfl

/-- Every step on the way to the announced range has an answer, for indices of any age. -/
theorem Sound.checkedRange?_eq {window : WindowConfig} (sound : window.Sound) {aids : AidList}
    (few : aids.size < 65536) :
    ∃ answer, window.checkedRange? aids = some answer ∧ window.beaconRange aids = .ok answer := by
  obtain ⟨advanced, range, announced⟩ := exists_beaconRange sound.ordered few
  refine ⟨(advanced, range), ?_, announced⟩
  unfold checkedRange?
  unfold WindowConfig.beaconRange at announced
  cases configured : window.spreading with
  | none =>
      rw [configured] at announced
      cases announced
      rfl
  | some spreading =>
      rw [configured] at announced
      simp only at announced ⊢
      cases chosen : (if spreading.isEnabled then window.spreadSlice? aids else none) with
      | none =>
          rw [chosen] at announced
          cases announced
          rfl
      | some slice =>
          rcases slice with ⟨first, last⟩
          rw [chosen] at announced
          have found : window.spreadSlice? aids = some (first, last) := by
            split at chosen
            · exact chosen
            · cases chosen
          rcases spreadSlice?_bounds sound.ordered found with ⟨ordered, inList⟩
          simp only [checkedBlock?_eq spreading aids ordered inList few, bind, Option.bind]
          simp only at announced
          split at announced
          · cases announced
          · rename_i blockFirst blockLast block
            rw [block]
            simp only
            split at announced
            · rename_i firstAid lastAid readFirst readLast
              cases announced
              simp only [readFirst, readLast]
            · cases announced

end WindowConfig

end RestrictedAccess
