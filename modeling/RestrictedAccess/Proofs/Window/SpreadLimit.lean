/-
The limit on the beacons that a window is spread over. All stations of a slice have been announced
when a cycle is over and not before, so the limit is kept when the cycle is no longer than it. The
limit is compared with the whole blocks of nominal size, while a cycle has a block for the rest as
well: a slice of as many whole blocks as the limit allows, with stations left over, takes one beacon
more than the limit.
-/

import RestrictedAccess.Proofs.Window.EvenDivision

namespace RestrictedAccess

open Station

namespace Spreading

variable {spreading : Spreading} {stations : Nat}

theorem cycleLength_le_limit_iff (enabled : spreading.isEnabled = true) (some : 0 < stations)
    (limited : 0 < spreading.maxSpread.toNat) :
    spreading.cycleLength stations ≤ spreading.maxSpread.toNat ↔
      ¬ (stations / spreading.nominal.toNat = spreading.maxSpread.toNat ∧
        stations % spreading.nominal.toNat ≠ 0) := by
  have nominal := nominal_pos enabled
  rw [cycleLength_eq enabled some]
  split
  · rename_i exceeds
    have apart : stations / spreading.nominal.toNat ≠ spreading.maxSpread.toNat :=
      Nat.ne_of_gt exceeds.2
    exact iff_of_true (Nat.le_refl _) (fun rest => apart rest.1)
  · rename_i within
    have few : stations / spreading.nominal.toNat ≤ spreading.maxSpread.toNat :=
      Nat.le_of_not_lt (fun exceeds => within ⟨limited, exceeds⟩)
    have whole := Nat.div_add_mod stations spreading.nominal.toNat
    have left := Nat.mod_lt stations nominal
    have room : (stations + spreading.nominal.toNat - 1) / spreading.nominal.toNat ≤
        spreading.maxSpread.toNat ↔
          stations ≤ spreading.nominal.toNat * spreading.maxSpread.toNat := by
      rw [← Nat.lt_succ_iff, Nat.div_lt_iff_lt_mul nominal, Nat.succ_mul,
        Nat.mul_comm spreading.maxSpread.toNat]
      omega
    rw [room]
    constructor
    · rintro enough ⟨full, rest⟩
      rw [full] at whole
      omega
    · intro noRest
      rcases Nat.lt_or_eq_of_le few with fewer | full
      · have next := Nat.mul_le_mul_left spreading.nominal.toNat fewer
        rw [Nat.mul_succ] at next
        omega
      · have none : stations % spreading.nominal.toNat = 0 :=
          Classical.byContradiction (fun rest => noRest ⟨full, rest⟩)
        rw [full, none] at whole
        omega

theorem cycleLength_le_limit_succ (enabled : spreading.isEnabled = true) (some : 0 < stations)
    (limited : 0 < spreading.maxSpread.toNat) :
    spreading.cycleLength stations ≤ spreading.maxSpread.toNat + 1 := by
  have nominal := nominal_pos enabled
  rw [cycleLength_eq enabled some]
  split
  · exact Nat.le_succ _
  · rename_i within
    have few : stations / spreading.nominal.toNat ≤ spreading.maxSpread.toNat :=
      Nat.le_of_not_lt (fun exceeds => within ⟨limited, exceeds⟩)
    calc (stations + spreading.nominal.toNat - 1) / spreading.nominal.toNat
        ≤ (stations + spreading.nominal.toNat) / spreading.nominal.toNat :=
          Nat.div_le_div_right (Nat.sub_le _ _)
      _ = stations / spreading.nominal.toNat + 1 := Nat.add_div_right stations nominal
      _ ≤ spreading.maxSpread.toNat + 1 := Nat.succ_le_succ few

theorem restsOutside_of_ahead {slice : List Aid}
    (ahead : ∀ first, slice.head? = some first → spreading.lastAid < first) :
    spreading.RestsOutside slice :=
  fun first _ atHead _ => Or.inl (ahead first atHead)

end Spreading

namespace WindowConfig

variable {window : WindowConfig} {aids : AidList} {spreading : Spreading} {slice : List Aid}
  {beacons : Nat}

/-- Every station of the slice is in the range of one of the first announcements. -/
def CoversWithin (window : WindowConfig) (aids : AidList) (slice : List Aid) (beacons : Nat) :
    Prop :=
  ∀ aid, aid ∈ slice → ∃ beacon, beacon < beacons ∧
    (window.rangeAt aids beacon).first ≤ aid ∧ aid ≤ (window.rangeAt aids beacon).last

/-- A station in a block of the even division is announced in the beacon of that block. -/
theorem SpreadsOver.coversWithin_cycle (spreads : window.SpreadsOver aids spreading slice)
    (outside : spreading.RestsOutside slice) :
    window.CoversWithin aids slice (spreading.cycleLength slice.length) := by
  intro aid member
  obtain ⟨station, placed⟩ := List.mem_iff_getElem?.mp member
  obtain ⟨listed, _⟩ := List.getElem?_eq_some_iff.mp placed
  obtain ⟨block, inCycle, reached, next⟩ := spreading.exists_block listed
  have blockAt := spreads.blockAt_boundary outside block
  have last := Spreading.blockEnd_boundary spreads.length_pos inCycle
  rw [Nat.mod_eq_of_lt inCycle] at blockAt
  exact ⟨block, inCycle,
    AidList.le_of_ascending spreads.ascending_slice reached blockAt.first placed,
    AidList.le_of_ascending spreads.ascending_slice (by omega) placed blockAt.last⟩

/-- The last station of the slice is in no range before the last beacon of the cycle. -/
theorem SpreadsOver.cycleLength_le_of_coversWithin
    (spreads : window.SpreadsOver aids spreading slice)
    (outside : spreading.RestsOutside slice) (covers : window.CoversWithin aids slice beacons) :
    spreading.cycleLength slice.length ≤ beacons := by
  apply Nat.le_of_not_lt
  intro early
  have some := spreads.length_pos
  have listed : slice.length - 1 < slice.length := by omega
  obtain ⟨beacon, sooner, _, within⟩ := covers slice[slice.length - 1] (List.getElem_mem listed)
  have inCycle : beacon < spreading.cycleLength slice.length := Nat.lt_trans sooner early
  have blockAt := spreads.blockAt_boundary outside beacon
  rw [Nat.mod_eq_of_lt inCycle] at blockAt
  obtain ⟨inside, reads⟩ := List.getElem?_eq_some_iff.mp blockAt.last
  have more : spreading.boundary slice.length (beacon + 1) < slice.length :=
    Spreading.boundary_lt some (Nat.lt_of_le_of_lt sooner early)
  have last := Spreading.blockEnd_boundary some inCycle
  have behind : slice[spreading.blockEnd slice.length
      (spreading.boundary slice.length beacon)] < slice[slice.length - 1] :=
    (AidList.lt_iff_of_ascending spreads.ascending_slice inside listed).mpr (by omega)
  rw [reads] at behind
  exact UInt16.not_le.mpr behind within

theorem SpreadsOver.coversWithin_iff (spreads : window.SpreadsOver aids spreading slice)
    (outside : spreading.RestsOutside slice) :
    window.CoversWithin aids slice beacons ↔ spreading.cycleLength slice.length ≤ beacons := by
  constructor
  · exact spreads.cycleLength_le_of_coversWithin outside
  · intro enough aid member
    obtain ⟨beacon, inCycle, within⟩ := spreads.coversWithin_cycle outside aid member
    exact ⟨beacon, Nat.lt_of_lt_of_le inCycle enough, within⟩

structure KeepsLimit (window : WindowConfig) (aids : AidList) (spreading : Spreading)
    (slice : List Aid) : Prop where
  /-- The slice of indices that were resolved for the range of the window. -/
  resolved : window.indices = aids.resolve window.startAid window.endAid →
    slice = aids.between window.startAid window.endAid
  answered : ∀ beacon, (window.afterBeacons aids beacon).beaconRange aids =
    .ok (window.afterBeacons aids (beacon + 1), window.rangeAt aids beacon)
  kept_iff : window.CoversWithin aids slice spreading.maxSpread.toNat ↔
    ¬ (slice.length / spreading.nominal.toNat = spreading.maxSpread.toNat ∧
      slice.length % spreading.nominal.toNat ≠ 0)
  oneMore : window.CoversWithin aids slice (spreading.maxSpread.toNat + 1)

/-- From the front of the slice, the limit is kept unless it equals the number of whole nominal
blocks and stations are left over; then one beacon more is taken. -/
theorem spread_limit_kept_iff (spreads : window.SpreadsOver aids spreading slice)
    (limited : 0 < spreading.maxSpread.toNat)
    (ahead : ∀ first, slice.head? = some first → spreading.lastAid < first) :
    window.KeepsLimit aids spreading slice := by
  have outside := Spreading.restsOutside_of_ahead ahead
  exact
    { resolved := spreads.slice_eq
      answered := fun beacon => (spreads.rangeAt beacon).1
      kept_iff := (spreads.coversWithin_iff outside).trans
        (Spreading.cycleLength_le_limit_iff spreads.enabled spreads.length_pos limited)
      oneMore := (spreads.coversWithin_iff outside).mpr
        (Spreading.cycleLength_le_limit_succ spreads.enabled spreads.length_pos limited) }

def fiveStations : AidList :=
  ⟨[4, 6, 9, 12, 13]⟩

/-- A window over five stations, intended to be three in each beacon and limited to one beacon. -/
def overfullWindow : WindowConfig :=
  { WindowConfig.generic 1 4 20 ⟨4, 1000, false⟩ with
    indices := ⟨0, 4⟩
    spreading := some ⟨1, 3, 0⟩ }

theorem overfullWindow_spreadsOver :
    overfullWindow.SpreadsOver fiveStations ⟨1, 3, 0⟩ [4, 6, 9, 12, 13] :=
  { ascending := by
      unfold AidList.Ascending fiveStations
      decide
    configured := rfl
    enabled := rfl
    indices := ⟨0, 4, rfl, by decide, by decide, rfl⟩
    few := by decide }

theorem spread_limit_kept_iff_of_overfull :
    overfullWindow.SpreadsOver fiveStations ⟨1, 3, 0⟩ [4, 6, 9, 12, 13] ∧
      overfullWindow.indices = fiveStations.resolve 4 20 ∧
      overfullWindow.KeepsLimit fiveStations ⟨1, 3, 0⟩ [4, 6, 9, 12, 13] := by
  have ahead : ∀ first, [4, 6, 9, 12, 13].head? = some first → (0 : Aid) < first := by
    intro first atHead
    cases atHead
    decide
  exact ⟨overfullWindow_spreadsOver, by decide,
    spread_limit_kept_iff overfullWindow_spreadsOver (by decide) ahead⟩

/-- One beacon is allowed, and the stations 12 and 13 are left to a second one. -/
theorem spread_limit_exceeded :
    overfullWindow.SpreadsOver fiveStations ⟨1, 3, 0⟩ [4, 6, 9, 12, 13] ∧
      overfullWindow.rangeAt fiveStations 0 = ⟨4, 9⟩ ∧
      overfullWindow.rangeAt fiveStations 1 = ⟨12, 13⟩ ∧
      ¬ overfullWindow.CoversWithin fiveStations [4, 6, 9, 12, 13] 1 := by
  refine ⟨overfullWindow_spreadsOver, by decide, by decide, ?_⟩
  intro covers
  obtain ⟨beacon, early, _, within⟩ := covers 13 (by decide)
  have only : ∀ beacon, beacon < 1 →
      ¬ (13 : Aid) ≤ (overfullWindow.rangeAt fiveStations beacon).last := by decide
  exact only beacon early within

end WindowConfig

end RestrictedAccess
