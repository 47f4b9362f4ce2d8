/-
The running counters of schedules along histories. A valid schedule that is stored, active or not,
always has a period left, at most as many as were configured, and an offset within the period. So
the payload of a pass never tells a receiver anything else, and no beacon is counted for a valid
schedule whose counters are used up.
-/

import RestrictedAccess.Proofs.Scheduler.PeriodicLifetime

namespace RestrictedAccess

structure AnnouncedSchedule.Within (told : AnnouncedSchedule) (schedule : PeriodicSchedule) :
    Prop where
  periodicity : told.periodicity = schedule.periodicity
  begun : 1 ≤ told.validity
  periods : told.validity ≤ schedule.validity
  offset : told.startOffset < schedule.periodicity

theorem PeriodicSchedule.InProgress.within {current configured : PeriodicSchedule}
    (inProgress : current.InProgress) (same : current.reset = configured.reset) :
    AnnouncedSchedule.Within ⟨current.periodicity, current.validityLeft, current.offsetLeft⟩
      configured := by
  obtain ⟨periodicity, validity, _⟩ := PeriodicSchedule.configured_of_reset same
  refine
    { periodicity := periodicity
      begun := UInt8.le_iff_toNat_le.mpr inProgress.begun
      periods := ?_
      offset := ?_ }
  · rw [← validity]
    exact UInt8.le_iff_toNat_le.mpr inProgress.periods
  · rw [← periodicity]
    exact UInt8.lt_iff_toNat_lt.mpr inProgress.offset

namespace Scheduler

variable {scheduler : Scheduler} {id : WindowId} {schedule : PeriodicSchedule}

/-! ### A pass -/

theorem Sound.schedule?_runPass (sound : scheduler.Sound) (enabled : scheduler.enabled = true)
    (id : WindowId) :
    scheduler.runPass.scheduler.registry.schedule? id =
      if scheduler.pending.beaconSent ∧ id ∈ scheduler.registry.periodic then
        (scheduler.registry.schedule? id).map (fun schedule => schedule.advance.1)
      else scheduler.registry.schedule? id := by
  obtain ⟨_, passed⟩ := sound.runPass_enabled enabled
  rw [passed.schedule?_eq sound, schedule?_passWindow?]

theorem Sound.configured_runPass (sound : scheduler.Sound) (enabled : scheduler.enabled = true)
    (scheduled : scheduler.registry.schedule? id = some schedule) :
    ∃ later, scheduler.runPass.scheduler.registry.schedule? id = some later ∧
      later.reset = schedule.reset := by
  rw [sound.schedule?_runPass enabled, scheduled, Option.map_some]
  split
  · exact ⟨schedule.advance.1, rfl, schedule.reset_advance⟩
  · exact ⟨schedule, rfl, rfl⟩

theorem Announces.schedule_eq {earlier later : Scheduler} {assignment : Assignment}
    {window stored : WindowConfig} {range : AidRange}
    (announces : Announces earlier later id assignment window stored range)
    (scheduled : later.registry.schedule? id = some schedule) :
    assignment.periodic =
      some ⟨schedule.periodicity, schedule.validityLeft, schedule.offsetLeft⟩ := by
  unfold Registry.schedule? at scheduled
  rw [announces.left, Option.bind_some] at scheduled
  rw [announces.periodic, scheduled, Option.map_some]

/-! ### All counters of a scheduler -/

structure CountersBounded (scheduler : Scheduler) : Prop where
  stored : ∀ id window schedule, scheduler.registry.find? id = some window →
    window.periodic = some schedule → schedule.isValid = true →
      1 ≤ schedule.validityLeft ∧ schedule.validityLeft ≤ schedule.validity ∧
        schedule.offsetLeft < schedule.periodicity
  /-- A receiver of the next payload reads a bounded triple for every window with a valid
  schedule. -/
  announced : scheduler.enabled = true →
    ∃ set, ParameterSet.decode scheduler.runPass.scheduler.payload = .ok set ∧
      List.Forall₂ (fun id assignment => ∀ schedule,
          scheduler.registry.schedule? id = some schedule → schedule.isValid = true →
            ∃ told, assignment.periodic = some told ∧ told.Within schedule)
        (scheduler.announcementOrder.take scheduler.options.maxAssignments) set.assignments
  countable : ∀ id schedule, scheduler.registry.schedule? id = some schedule →
    schedule.isValid = true → schedule.advance? = some schedule.advance
  /-- The next pass counts its beacon as a countdown does that never stops at zero. -/
  counted : scheduler.enabled = true → scheduler.pending.beaconSent = true →
    ∀ id schedule, id ∈ scheduler.registry.periodic →
      scheduler.registry.schedule? id = some schedule → schedule.isValid = true →
        scheduler.runPass.scheduler.registry.schedule? id = schedule.advance?.map Prod.fst

theorem counters_bounded (reachable : Reachable scheduler) : scheduler.CountersBounded := by
  have sound := reachable.sound
  refine
    { stored := ?_
      announced := ?_
      countable := fun _ _ scheduled valid => (reachable.inProgress scheduled valid).advance?_eq
      counted := ?_ }
  · intro id window schedule found scheduled valid
    have inProgress := reachable.inProgress
      (Option.bind_eq_some_iff.mpr ⟨window, found, scheduled⟩) valid
    have within := inProgress.within rfl
    exact ⟨within.begun, within.periods, within.offset⟩
  · intro enabled
    obtain ⟨_, passed⟩ := sound.runPass_enabled enabled
    obtain ⟨set, decoded, announced⟩ := passed.decoded sound
    refine ⟨set, decoded, announced.imp ?_⟩
    rintro id assignment ⟨window, stored, range, announces⟩ schedule scheduled valid
    obtain ⟨current, left, configured⟩ := sound.configured_runPass enabled scheduled
    have currentValid : current.isValid = true :=
      (PeriodicSchedule.isValid_of_reset configured).trans valid
    -- The state that the pass leaves is reachable too, and that is the one announced.
    have inProgress := (Reachable.performed .pass reachable).inProgress left currentValid
    exact ⟨_, announces.schedule_eq left, inProgress.within configured⟩
  · intro enabled sent id schedule active scheduled valid
    rw [sound.schedule?_runPass enabled, if_pos ⟨sent, active⟩, scheduled,
      (reachable.inProgress scheduled valid).advance?_eq]
    rfl

/-- A schedule that lapses in a pass is enabled again while another one, which starts over, is in
the middle of its period and gets a new start time. -/
def relapsingHistory : List Operation :=
  [.associate 3,
    .command
      { id := 1
        flags := { enable := true, delete := false, update := true }
        fields := [.slots 4000 4 false, .group 3 7, .periodic 1 2 0 false] },
    .command
      { id := 2
        flags := { enable := true, delete := false, update := true }
        fields := [.slots 4000 4 false, .group 3 7, .periodic 3 2 1 true] },
    .pass, .beaconSent, .pass, .beaconSent, .pass,
    .command
      { id := 2
        flags := { enable := true, delete := false, update := true }
        fields := [.startTime 100] },
    .command
      { id := 1
        flags := { enable := true, delete := false, update := false }
        fields := [] },
    .beaconSent, .pass, .beaconSent]

theorem counters_bounded_after_relapsingHistory :
    ∃ fresh, create .accessPoint { SchedulerOptions.standard with enabled := true } = .ok fresh ∧
      Reachable (fresh.afterAll relapsingHistory) ∧
      (fresh.afterAll relapsingHistory).stats.expired = 1 ∧
      (fresh.afterAll relapsingHistory).enabled = true ∧
      (fresh.afterAll relapsingHistory).pending.beaconSent = true ∧
      (fresh.afterAll relapsingHistory).announcementOrder = [2] ∧
      (fresh.afterAll relapsingHistory).registry.schedule? 1 = some ⟨1, 2, 0, 1, 0, false⟩ ∧
      (fresh.afterAll relapsingHistory).registry.schedule? 2 = some ⟨3, 2, 1, 2, 0, true⟩ ∧
      (fresh.afterAll relapsingHistory).CountersBounded := by
  have creation :
      create .accessPoint { SchedulerOptions.standard with enabled := true } = .ok _ := rfl
  have reachable := (Reachable.created creation).afterAll relapsingHistory
  refine ⟨_, creation, reachable, ?_, ?_, ?_, ?_, ?_, ?_, counters_bounded reachable⟩
  · decide +kernel
  · decide +kernel
  · decide +kernel
  · decide +kernel
  · decide +kernel
  · decide +kernel

end Scheduler

end RestrictedAccess
