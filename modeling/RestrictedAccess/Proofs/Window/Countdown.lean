/-
How long a periodic schedule lasts. The lifetime of a schedule is the number of beacons it takes
to end, and each beacon that is counted takes one off it. The last one moves the counters back to
their configured values, so a schedule that starts over ends again after a full lifetime.
-/

import RestrictedAccess.Proofs.Registry.RunningState

namespace RestrictedAccess.PeriodicSchedule

variable {schedule : PeriodicSchedule}

theorem isValid_iff (schedule : PeriodicSchedule) :
    schedule.isValid = true ↔ 0 < schedule.periodicity.toNat ∧ 0 < schedule.validity.toNat ∧
      schedule.startOffset.toNat < schedule.periodicity.toNat := by
  simp only [isValid, Bool.and_eq_true, decide_eq_true_eq, UInt8.lt_iff_toNat_lt, and_assoc]
  exact Iff.rfl

/-- A valid schedule whose counters are ones it can count down. -/
structure InProgress (schedule : PeriodicSchedule) : Prop where
  valid : schedule.isValid = true
  begun : 0 < schedule.validityLeft.toNat
  periods : schedule.validityLeft.toNat ≤ schedule.validity.toNat
  offset : schedule.offsetLeft.toNat < schedule.periodicity.toNat

theorem configured_of_reset {other : PeriodicSchedule} (same : other.reset = schedule.reset) :
    other.periodicity = schedule.periodicity ∧ other.validity = schedule.validity ∧
      other.startOffset = schedule.startOffset ∧ other.refreshes = schedule.refreshes := by
  unfold reset at same
  injection same with periodicity validity startOffset _ _ refreshes
  exact ⟨periodicity, validity, startOffset, refreshes⟩

theorem isValid_of_reset {other : PeriodicSchedule} (same : other.reset = schedule.reset) :
    other.isValid = schedule.isValid := by
  obtain ⟨periodicity, validity, startOffset, _⟩ := configured_of_reset same
  unfold isValid
  rw [periodicity, validity, startOffset]

theorem inProgress_reset (valid : schedule.isValid = true) : schedule.reset.InProgress := by
  obtain ⟨_, validity, offset⟩ := schedule.isValid_iff.mp valid
  exact ⟨valid, validity, Nat.le_refl _, offset⟩

/-! ### Lifetime -/

/-- The beacons until the offset is next at its configured value, up to a whole period. -/
def beaconsToReturn (schedule : PeriodicSchedule) : Nat :=
  (((schedule.offsetLeft.toNat : Int) - schedule.startOffset.toNat - 1) %
    schedule.periodicity.toNat).toNat + 1

def lifetime (schedule : PeriodicSchedule) : Nat :=
  (schedule.validityLeft.toNat - 1) * schedule.periodicity.toNat + schedule.beaconsToReturn

def fullLifetime (schedule : PeriodicSchedule) : Nat :=
  schedule.periodicity.toNat * schedule.validity.toNat

theorem fullLifetime_of_reset {other : PeriodicSchedule} (same : other.reset = schedule.reset) :
    other.fullLifetime = schedule.fullLifetime := by
  obtain ⟨periodicity, validity, _⟩ := configured_of_reset same
  unfold fullLifetime
  rw [periodicity, validity]

theorem InProgress.beaconsToReturn_eq (inProgress : schedule.InProgress) :
    schedule.beaconsToReturn =
      if schedule.startOffset.toNat < schedule.offsetLeft.toNat then
        schedule.offsetLeft.toNat - schedule.startOffset.toNat
      else schedule.offsetLeft.toNat + schedule.periodicity.toNat - schedule.startOffset.toNat := by
  obtain ⟨positive, _, start⟩ := schedule.isValid_iff.mp inProgress.valid
  have offset := inProgress.offset
  unfold beaconsToReturn
  split
  · rename_i ahead
    rw [Int.emod_eq_of_lt (by omega) (by omega)]
    omega
  · rename_i behind
    rw [← Int.add_emod_right, Int.emod_eq_of_lt (by omega) (by omega)]
    omega

theorem InProgress.beaconsToReturn_le (inProgress : schedule.InProgress) :
    schedule.beaconsToReturn ≤ schedule.periodicity.toNat := by
  have offset := inProgress.offset
  rw [inProgress.beaconsToReturn_eq]
  split <;> omega

theorem lifetime_pos (schedule : PeriodicSchedule) : 0 < schedule.lifetime :=
  Nat.lt_of_lt_of_le (Nat.succ_pos _) (Nat.le_add_left _ _)

theorem InProgress.lifetime_eq (inProgress : schedule.InProgress) :
    schedule.lifetime + schedule.periodicity.toNat =
      schedule.validityLeft.toNat * schedule.periodicity.toNat + schedule.beaconsToReturn := by
  obtain ⟨periods, left⟩ := Nat.exists_eq_add_of_lt inProgress.begun
  unfold lifetime
  rw [left, Nat.add_sub_cancel, Nat.zero_add, Nat.succ_mul]
  omega

theorem InProgress.lifetime_le (inProgress : schedule.InProgress) :
    schedule.lifetime ≤ schedule.fullLifetime := by
  have whole := inProgress.lifetime_eq
  have returns := inProgress.beaconsToReturn_le
  have periods := Nat.mul_le_mul_right schedule.periodicity.toNat inProgress.periods
  unfold fullLifetime
  rw [Nat.mul_comm schedule.periodicity.toNat]
  omega

theorem lifetime_reset (valid : schedule.isValid = true) :
    schedule.reset.lifetime = schedule.fullLifetime := by
  have inProgress := inProgress_reset valid
  have whole := inProgress.lifetime_eq
  have returns := inProgress.beaconsToReturn_eq
  have same : schedule.reset.startOffset.toNat = schedule.reset.offsetLeft.toNat := rfl
  have periods : schedule.reset.validityLeft.toNat * schedule.reset.periodicity.toNat =
      schedule.fullLifetime := Nat.mul_comm _ _
  rw [if_neg (by omega)] at returns
  omega

theorem lifetime_of_counters (valid : schedule.isValid = true)
    (periods : schedule.validityLeft = schedule.validity)
    (offset : schedule.offsetLeft = schedule.startOffset) :
    schedule.lifetime = schedule.fullLifetime := by
  have same : schedule.reset = schedule := by
    rcases schedule with ⟨periodicity, validity, startOffset, validityLeft, offsetLeft, refreshes⟩
    cases periods
    cases offset
    rfl
  rw [← lifetime_reset valid, same]

/-! ### One beacon -/

theorem InProgress.toNat_nextOffset (inProgress : schedule.InProgress) :
    schedule.nextOffset.toNat =
      if schedule.offsetLeft.toNat = 0 then schedule.periodicity.toNat - 1
      else schedule.offsetLeft.toNat - 1 := by
  obtain ⟨positive, _, _⟩ := schedule.isValid_iff.mp inProgress.valid
  have below {count : UInt8} (some : 0 < count.toNat) : (count - 1).toNat = count.toNat - 1 :=
    UInt8.toNat_sub_of_le _ _ (UInt8.le_iff_toNat_le.mpr some)
  have zero_iff (count : UInt8) : count = 0 ↔ count.toNat = 0 := by
    rw [← UInt8.toNat_inj]
    rfl
  unfold nextOffset
  by_cases wraps : schedule.offsetLeft.toNat = 0
  · rw [if_pos ((zero_iff _).mpr wraps), if_pos wraps, if_neg, below positive]
    rw [zero_iff]
    omega
  · rw [if_neg (fun zero => wraps ((zero_iff _).mp zero)), if_neg wraps, below (by omega)]

theorem InProgress.nextOffset_lt (inProgress : schedule.InProgress) :
    schedule.nextOffset.toNat < schedule.periodicity.toNat := by
  obtain ⟨positive, _, _⟩ := schedule.isValid_iff.mp inProgress.valid
  have offset := inProgress.offset
  rw [inProgress.toNat_nextOffset]
  split <;> omega

theorem InProgress.nextOffset_emod (inProgress : schedule.InProgress) :
    (schedule.nextOffset.toNat : Int) =
      ((schedule.offsetLeft.toNat : Int) - 1) % schedule.periodicity.toNat := by
  obtain ⟨positive, _, _⟩ := schedule.isValid_iff.mp inProgress.valid
  have offset := inProgress.offset
  rw [inProgress.toNat_nextOffset]
  split
  · rename_i wraps
    rw [← Int.add_emod_right, Int.emod_eq_of_lt (by omega) (by omega)]
    omega
  · rw [Int.emod_eq_of_lt (by omega) (by omega)]
    omega

theorem InProgress.returns_iff (inProgress : schedule.InProgress) :
    schedule.nextOffset = schedule.startOffset ↔ schedule.beaconsToReturn = 1 := by
  obtain ⟨positive, _, start⟩ := schedule.isValid_iff.mp inProgress.valid
  have offset := inProgress.offset
  rw [← UInt8.toNat_inj, inProgress.toNat_nextOffset, inProgress.beaconsToReturn_eq]
  split <;> split <;> omega

theorem InProgress.lifetime_eq_one_iff (inProgress : schedule.InProgress) :
    schedule.lifetime = 1 ↔
      schedule.validityLeft.toNat = 1 ∧ schedule.nextOffset = schedule.startOffset := by
  obtain ⟨positive, _, _⟩ := schedule.isValid_iff.mp inProgress.valid
  have begun := inProgress.begun
  rw [inProgress.returns_iff]
  have returns : 1 ≤ schedule.beaconsToReturn := Nat.succ_pos _
  unfold lifetime
  constructor
  · intro last
    have none : (schedule.validityLeft.toNat - 1) * schedule.periodicity.toNat = 0 := by omega
    rcases Nat.mul_eq_zero.mp none with one | impossible
    · omega
    · omega
  · rintro ⟨one, next⟩
    rw [one, next, Nat.sub_self, Nat.zero_mul]

theorem InProgress.advance_of_last (inProgress : schedule.InProgress)
    (last : schedule.lifetime = 1) :
    schedule.advance = (schedule.reset, if schedule.refreshes then .refreshed else .expired) := by
  obtain ⟨one, returns⟩ := inProgress.lifetime_eq_one_iff.mp last
  have single : schedule.validityLeft = 1 := UInt8.toNat_inj.mp one
  have used : ¬ 0 < (if schedule.validityLeft = 0 then 0 else schedule.validityLeft - 1) := by
    rw [single]
    decide
  unfold advance
  simp only [returns, ne_eq, not_true_eq_false, if_false, if_neg used]

structure CountsDown (earlier later : PeriodicSchedule) : Prop where
  inProgress : later.InProgress
  configured : later.reset = earlier.reset
  offset : later.offsetLeft = earlier.nextOffset
  lifetime : later.lifetime + 1 = earlier.lifetime

private def moved (schedule : PeriodicSchedule) : PeriodicSchedule :=
  { schedule with offsetLeft := schedule.nextOffset }

private theorem InProgress.countsDown_moved (inProgress : schedule.InProgress)
    (apart : schedule.nextOffset ≠ schedule.startOffset) : CountsDown schedule schedule.moved := by
  have next : schedule.moved.InProgress := { inProgress with offset := inProgress.nextOffset_lt }
  refine { inProgress := next, configured := rfl, offset := rfl, lifetime := ?_ }
  obtain ⟨positive, _, start⟩ := schedule.isValid_iff.mp inProgress.valid
  have offset := inProgress.offset
  have ahead := mt inProgress.returns_iff.mpr apart
  have returnsNext : schedule.moved.beaconsToReturn + 1 = schedule.beaconsToReturn := by
    have value : schedule.moved.offsetLeft.toNat = _ := inProgress.toNat_nextOffset
    have fixed : schedule.moved.startOffset = schedule.startOffset := rfl
    have period : schedule.moved.periodicity = schedule.periodicity := rfl
    rw [inProgress.beaconsToReturn_eq] at ahead ⊢
    rw [next.beaconsToReturn_eq, value, fixed, period]
    split at ahead <;> split <;> split <;> omega
  unfold lifetime
  rw [← returnsNext]
  rfl

private def periodDone (schedule : PeriodicSchedule) : PeriodicSchedule :=
  { schedule with
    offsetLeft := schedule.nextOffset
    validityLeft := schedule.validityLeft - 1 }

private theorem InProgress.countsDown_periodDone (inProgress : schedule.InProgress)
    (returns : schedule.nextOffset = schedule.startOffset)
    (more : schedule.validityLeft.toNat ≠ 1) : CountsDown schedule schedule.periodDone := by
  have begun := inProgress.begun
  have left : schedule.periodDone.validityLeft.toNat = schedule.validityLeft.toNat - 1 :=
    UInt8.toNat_sub_of_le _ _ (UInt8.le_iff_toNat_le.mpr begun)
  have next : schedule.periodDone.InProgress :=
    { valid := inProgress.valid
      begun := by omega
      periods := left ▸ Nat.le_trans (Nat.sub_le _ _) inProgress.periods
      offset := inProgress.nextOffset_lt }
  refine { inProgress := next, configured := rfl, offset := rfl, lifetime := ?_ }
  have returnsNext : schedule.periodDone.beaconsToReturn = schedule.periodicity.toNat := by
    have back : schedule.periodDone.offsetLeft = schedule.periodDone.startOffset := returns
    have period : schedule.periodDone.periodicity = schedule.periodicity := rfl
    rw [next.beaconsToReturn_eq, back, if_neg (Nat.lt_irrefl _), period]
    omega
  have whole := inProgress.lifetime_eq
  have wholeNext := next.lifetime_eq
  rw [left, returnsNext] at wholeNext
  have last := inProgress.returns_iff.mp returns
  obtain ⟨periods, split⟩ := Nat.exists_eq_add_of_le begun
  have period : schedule.periodDone.periodicity = schedule.periodicity := rfl
  rw [split, Nat.add_comm 1, Nat.succ_mul] at whole
  rw [split, Nat.add_sub_cancel_left, period] at wholeNext
  omega

theorem InProgress.advance_of_lasting (inProgress : schedule.InProgress)
    (lasts : schedule.lifetime ≠ 1) :
    CountsDown schedule schedule.advance.1 ∧ schedule.advance.2 ≠ .expired ∧
      schedule.advance.2 ≠ .refreshed := by
  by_cases returns : schedule.nextOffset = schedule.startOffset
  · have more : schedule.validityLeft.toNat ≠ 1 :=
      fun one => lasts (inProgress.lifetime_eq_one_iff.mpr ⟨one, returns⟩)
    have countsDown := inProgress.countsDown_periodDone returns more
    have nonzero : schedule.validityLeft ≠ 0 := by
      intro zero
      have begun := inProgress.begun
      rw [zero] at begun
      exact Nat.lt_irrefl 0 begun
    have some : 0 < schedule.validityLeft - 1 :=
      UInt8.lt_iff_toNat_lt.mpr countsDown.inProgress.begun
    have advanced : schedule.advance = (schedule.periodDone, .periodElapsed) := by
      unfold advance periodDone
      simp only [returns, ne_eq, not_true_eq_false, if_false, if_neg nonzero, if_pos some]
    rw [advanced]
    exact ⟨countsDown, nofun, nofun⟩
  · have advanced : schedule.advance = (schedule.moved, .running) := by
      unfold advance moved
      exact if_pos returns
    rw [advanced]
    exact ⟨inProgress.countsDown_moved returns, nofun, nofun⟩

theorem InProgress.advance_event (inProgress : schedule.InProgress) :
    (schedule.advance.2 = .expired ↔ schedule.lifetime = 1 ∧ schedule.refreshes = false) ∧
      (schedule.advance.2 = .refreshed ↔ schedule.lifetime = 1 ∧ schedule.refreshes = true) := by
  by_cases last : schedule.lifetime = 1
  · rw [inProgress.advance_of_last last]
    cases schedule.refreshes with
    | false => simp [last]
    | true => simp [last]
  · obtain ⟨_, notExpired, notRefreshed⟩ := inProgress.advance_of_lasting last
    exact ⟨iff_of_false notExpired (fun ends => last ends.1),
      iff_of_false notRefreshed (fun ends => last ends.1)⟩

theorem InProgress.advance (inProgress : schedule.InProgress) : schedule.advance.1.InProgress := by
  by_cases last : schedule.lifetime = 1
  · rw [inProgress.advance_of_last last]
    exact inProgress_reset inProgress.valid
  · exact (inProgress.advance_of_lasting last).1.inProgress

/-! ### Subtraction without a floor -/

def below? (count : UInt8) : Option UInt8 :=
  if count = 0 then none else some (count - 1)

/-- The countdown with subtractions that have no answer where the counters would stop at zero. -/
def advance? (schedule : PeriodicSchedule) : Option (PeriodicSchedule × CountdownEvent) := do
  let offsetLeft ←
    below? (if schedule.offsetLeft = 0 then schedule.periodicity else schedule.offsetLeft)
  if offsetLeft ≠ schedule.startOffset then some ({ schedule with offsetLeft }, .running)
  else do
    let validityLeft ← below? schedule.validityLeft
    if 0 < validityLeft then some ({ schedule with offsetLeft, validityLeft }, .periodElapsed)
    else some (schedule.reset, if schedule.refreshes then .refreshed else .expired)

private theorem ne_zero_of_pos {count : UInt8} (positive : 0 < count.toNat) : count ≠ 0 := by
  intro zero
  subst zero
  exact Nat.lt_irrefl 0 positive

theorem InProgress.below?_offset (inProgress : schedule.InProgress) :
    below? (if schedule.offsetLeft = 0 then schedule.periodicity else schedule.offsetLeft) =
      some schedule.nextOffset := by
  have periodic := ne_zero_of_pos (schedule.isValid_iff.mp inProgress.valid).1
  unfold below? nextOffset
  by_cases wraps : schedule.offsetLeft = 0
  · rw [if_pos wraps, if_pos wraps, if_neg periodic, if_neg periodic]
  · rw [if_neg wraps, if_neg wraps, if_neg wraps]

/-- A schedule in progress has counters left wherever the countdown subtracts. -/
theorem InProgress.advance?_eq (inProgress : schedule.InProgress) :
    schedule.advance? = some schedule.advance := by
  have begun := ne_zero_of_pos inProgress.begun
  have periods : below? schedule.validityLeft = some (schedule.validityLeft - 1) := if_neg begun
  unfold advance? PeriodicSchedule.advance
  simp only [inProgress.below?_offset, periods, if_neg begun, bind, Option.bind]
  split
  · rfl
  · split <;> rfl

/-! ### Many beacons -/

def afterBeacons (schedule : PeriodicSchedule) : Nat → PeriodicSchedule
  | 0 => schedule
  | beacons + 1 => (schedule.afterBeacons beacons).advance.1

theorem InProgress.afterBeacons (inProgress : schedule.InProgress) (beacons : Nat) :
    (schedule.afterBeacons beacons).InProgress := by
  induction beacons with
  | zero => exact inProgress
  | succ beacons ih => exact ih.advance

theorem reset_afterBeacons (schedule : PeriodicSchedule) (beacons : Nat) :
    (schedule.afterBeacons beacons).reset = schedule.reset := by
  induction beacons with
  | zero => rfl
  | succ beacons ih => exact (reset_advance _).trans ih

structure InCountdown (schedule : PeriodicSchedule) (beacons : Nat) : Prop where
  lifetime : (schedule.afterBeacons beacons).lifetime + beacons = schedule.lifetime
  offset : ((schedule.afterBeacons beacons).offsetLeft.toNat : Int) =
    ((schedule.offsetLeft.toNat : Int) - beacons) % schedule.periodicity.toNat

theorem InProgress.inCountdown (inProgress : schedule.InProgress) {beacons : Nat}
    (lasts : beacons < schedule.lifetime) : InCountdown schedule beacons := by
  induction beacons with
  | zero =>
      have offset := inProgress.offset
      refine { lifetime := rfl, offset := ?_ }
      change (schedule.offsetLeft.toNat : Int) = _
      rw [Int.emod_eq_of_lt (by omega) (by omega)]
      omega
  | succ beacons ih =>
      have before := ih (Nat.lt_of_succ_lt lasts)
      have current := inProgress.afterBeacons beacons
      obtain ⟨period, _⟩ := configured_of_reset (schedule.reset_afterBeacons beacons)
      have step := (current.advance_of_lasting (by have := before.lifetime; omega)).1
      refine { lifetime := ?_, offset := ?_ }
      · have left := step.lifetime
        have total := before.lifetime
        unfold PeriodicSchedule.afterBeacons
        omega
      · unfold PeriodicSchedule.afterBeacons
        rw [step.offset, current.nextOffset_emod, period, before.offset, Int.emod_sub_emod]
        congr 1
        omega

/-- The counters are back at their configured values when the lifetime is over. -/
theorem InProgress.afterBeacons_lifetime (inProgress : schedule.InProgress) :
    schedule.afterBeacons schedule.lifetime = schedule.reset := by
  obtain ⟨beacons, lifetime⟩ := Nat.exists_eq_succ_of_ne_zero (Nat.ne_of_gt schedule.lifetime_pos)
  have before := inProgress.inCountdown (by omega : beacons < schedule.lifetime)
  have last := (inProgress.afterBeacons beacons).advance_of_last
    (by have := before.lifetime; omega)
  rw [lifetime]
  unfold PeriodicSchedule.afterBeacons
  rw [last]
  exact schedule.reset_afterBeacons beacons

theorem InProgress.counters_ne (inProgress : schedule.InProgress) {beacons : Nat}
    (some : 0 < beacons) (lasts : beacons < schedule.lifetime) :
    ¬ ((schedule.afterBeacons beacons).validityLeft = schedule.validity ∧
      (schedule.afterBeacons beacons).offsetLeft = schedule.startOffset) := by
  rintro ⟨periods, offset⟩
  have configured := schedule.reset_afterBeacons beacons
  obtain ⟨_, validity, startOffset, _⟩ := configured_of_reset configured
  have whole := lifetime_of_counters (inProgress.afterBeacons beacons).valid
    (periods.trans validity.symm) (offset.trans startOffset.symm)
  have left := (inProgress.inCountdown lasts).lifetime
  have most := inProgress.lifetime_le
  rw [fullLifetime_of_reset configured] at whole
  omega

/-- A beacon takes one off the lifetime or, where the schedule ends, begins a full one. -/
theorem InProgress.lifetime_afterBeacons (inProgress : schedule.InProgress) (beacons : Nat) :
    ∃ cycles, (schedule.afterBeacons beacons).lifetime + beacons =
      schedule.lifetime + cycles * schedule.fullLifetime := by
  induction beacons with
  | zero => exact ⟨0, by rw [Nat.zero_mul]; rfl⟩
  | succ beacons ih =>
      obtain ⟨cycles, before⟩ := ih
      have current := inProgress.afterBeacons beacons
      unfold PeriodicSchedule.afterBeacons
      by_cases last : (schedule.afterBeacons beacons).lifetime = 1
      · have restarted := fullLifetime_of_reset (schedule.reset_afterBeacons beacons)
        refine ⟨cycles + 1, ?_⟩
        rw [current.advance_of_last last]
        simp only
        rw [lifetime_reset current.valid, restarted, Nat.succ_mul]
        omega
      · have left := (current.advance_of_lasting last).1.lifetime
        exact ⟨cycles, by omega⟩

/-- A schedule that starts over ends at its lifetime and a full lifetime later each time. -/
theorem InProgress.ends_iff (inProgress : schedule.InProgress) (beacons : Nat) :
    (schedule.afterBeacons beacons).lifetime = 1 ↔
      ∃ cycles, beacons + 1 = schedule.lifetime + cycles * schedule.fullLifetime := by
  have most := (inProgress.afterBeacons beacons).lifetime_le
  rw [fullLifetime_of_reset (schedule.reset_afterBeacons beacons)] at most
  obtain ⟨cycles, current⟩ := inProgress.lifetime_afterBeacons beacons
  constructor
  · intro last
    exact ⟨cycles, by omega⟩
  · rintro ⟨others, ends⟩
    have positive := (schedule.afterBeacons beacons).lifetime_pos
    -- The two counts of cycles differ by less than one.
    have same : cycles = others := by
      rcases Nat.lt_trichotomy cycles others with fewer | same | more
      · have step := Nat.mul_le_mul_right schedule.fullLifetime fewer
        rw [Nat.succ_mul] at step
        omega
      · exact same
      · have step := Nat.mul_le_mul_right schedule.fullLifetime more
        rw [Nat.succ_mul] at step
        omega
    subst same
    omega

end RestrictedAccess.PeriodicSchedule
