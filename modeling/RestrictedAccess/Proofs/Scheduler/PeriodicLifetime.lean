/-
The lifetime of an active periodic window. Every round of beaconing counts its beacon for the
window, whatever other windows are active, so the window's schedule runs through its lifetime round
by round. Where it does not start over, the window is deactivated and counted in the round that
ends the lifetime.
-/

import Mathlib.Data.List.Nodup
import RestrictedAccess.Proofs.Scheduler.BeaconRounds
import RestrictedAccess.Proofs.Window.Countdown

namespace RestrictedAccess

open Station

/-! ### Stored schedules are in progress -/

namespace WindowConfig

/-- The schedule of the window, if it is a valid one, has counters it can count down. -/
def CountersInRange (window : WindowConfig) : Prop :=
  ∀ schedule, window.periodic = some schedule → schedule.isValid = true → schedule.InProgress

theorem countersInRange_of_periodic {earlier later : WindowConfig}
    (same : later.periodic = earlier.periodic) (holds : earlier.CountersInRange) :
    later.CountersInRange :=
  fun schedule scheduled => holds schedule (same ▸ scheduled)

theorem countersInRange_applyTo {field : CommandField} {window patched : WindowConfig}
    (holds : window.CountersInRange) (applied : field.applyTo window = .ok patched) :
    patched.CountersInRange := by
  cases field with
  | slots windowDuration count crossesBoundary =>
      simp only [CommandField.applyTo] at applied
      split at applied
      · cases applied
      · cases applied
        exact holds
  | group startAid endAid =>
      cases applied
      exact holds
  | startTime duration =>
      cases applied
      exact holds
  | periodic periodicity validity startOffset refreshes =>
      simp only [CommandField.applyTo] at applied
      split at applied
      · cases applied
        intro schedule impossible
        cases impossible
      · cases applied
        intro schedule same valid
        cases same
        exact PeriodicSchedule.inProgress_reset valid
  | spread maxSpread nominal =>
      cases applied
      exact holds
  | kind code =>
      simp only [CommandField.applyTo] at applied
      split at applied
      · cases applied
      · split at applied
        · cases applied
          exact holds
        · cases applied

theorem countersInRange_patch {fields : List CommandField} {window patched : WindowConfig}
    (holds : window.CountersInRange) (applied : Command.patch fields window = .ok patched) :
    patched.CountersInRange := by
  induction fields generalizing window with
  | nil =>
      cases applied
      exact holds
  | cons field rest ih =>
      simp only [Command.patch] at applied
      split at applied
      · cases applied
      · rename_i next stepped
        exact ih (countersInRange_applyTo holds stepped) applied

/-- Configuring, counting and realigning leave counters that can be counted down. -/
theorem lasting_countersInRange : Lasting (fun _ => CountersInRange) := by
  refine
    { empty := fun _ _ _ => nofun
      protection := fun _ _ => nofun
      patched := ?_
      resolved := ?_
      counted := ?_
      realigned := ?_
      advanced := ?_ }
  · intro command window patched _ holds applied
    have prepared : CountersInRange { window with kind := .generic } := holds
    exact countersInRange_patch prepared applied
  · intro aids _ window
    exact countersInRange_of_periodic (window.periodic_resolveIndices aids)
  · intro _ window holds schedule scheduled valid
    obtain ⟨earlier, present, rfl⟩ := Option.map_eq_some_iff.mp scheduled
    have validEarlier : earlier.isValid = true := by
      rw [← PeriodicSchedule.isValid_of_reset earlier.reset_advance]
      exact valid
    exact (holds earlier present validEarlier).advance
  · intro _ window holds schedule scheduled valid
    obtain ⟨earlier, present, rfl⟩ := Option.map_eq_some_iff.mp scheduled
    obtain ⟨_, _, start⟩ := earlier.isValid_iff.mp valid
    exact { holds earlier present valid with offset := start }
  · intro aids _ window
    exact countersInRange_of_periodic (window.periodic_advanced aids)

end WindowConfig

namespace Scheduler

variable {scheduler : Scheduler} {id : WindowId} {schedule : PeriodicSchedule}

theorem Reachable.inProgress (reachable : Reachable scheduler)
    (scheduled : scheduler.registry.schedule? id = some schedule)
    (valid : schedule.isValid = true) : schedule.InProgress := by
  obtain ⟨window, found, periodic⟩ := Option.bind_eq_some_iff.mp scheduled
  exact reachable.allStored WindowConfig.lasting_countersInRange id window found schedule
    periodic valid

/-! ### One round -/

theorem lapses_iff (scheduled : scheduler.registry.schedule? id = some schedule)
    (inProgress : schedule.InProgress) :
    scheduler.registry.lapses id = true ↔ schedule.lifetime = 1 ∧ schedule.refreshes = false := by
  unfold Registry.lapses
  rw [decide_eq_true_iff, Registry.countdownEvent?_eq, scheduled, Option.map_some,
    Option.some.injEq]
  exact inProgress.advance_event.1

theorem startsOver_iff (scheduled : scheduler.registry.schedule? id = some schedule)
    (inProgress : schedule.InProgress) :
    scheduler.registry.startsOver id = true ↔
      schedule.lifetime = 1 ∧ schedule.refreshes = true := by
  unfold Registry.startsOver
  rw [decide_eq_true_iff, Registry.countdownEvent?_eq, scheduled, Option.map_some,
    Option.some.injEq]
  exact inProgress.advance_event.2

theorem Running.schedule?_of_active (running : scheduler.Running)
    (active : id ∈ scheduler.registry.periodic)
    (scheduled : scheduler.registry.schedule? id = some schedule) :
    scheduler.beaconRound.registry.schedule? id = some schedule.advance.1 := by
  rw [running.schedule?_beaconRound, if_pos active, scheduled]
  rfl

theorem Running.mem_periodic_beaconRound (running : scheduler.Running)
    (scheduled : scheduler.registry.schedule? id = some schedule)
    (inProgress : schedule.InProgress) :
    id ∈ scheduler.beaconRound.registry.periodic ↔
      id ∈ scheduler.registry.periodic ∧
        ¬ (schedule.lifetime = 1 ∧ schedule.refreshes = false) := by
  rw [running.periodic_beaconRound, List.mem_filter, Bool.not_eq_true', ← Bool.not_eq_true,
    lapses_iff scheduled inProgress]

/-! ### A lifetime -/

def lapsedAfter (scheduler : Scheduler) (rounds : Nat) : List WindowId :=
  scheduler.registry.periodic.filter
    (fun id => decide (id ∉ (scheduler.afterRounds rounds).registry.periodic))

section Lifetime

variable (running : scheduler.Running) (active : id ∈ scheduler.registry.periodic)
  (scheduled : scheduler.registry.schedule? id = some schedule)
  (inProgress : schedule.InProgress)

include running active scheduled inProgress

/-- The window stays active, and its schedule goes on, up to the end of the lifetime and past it if
the schedule starts over. -/
theorem Running.active_afterRounds {rounds : Nat}
    (lasts : rounds < schedule.lifetime ∨ schedule.refreshes = true) :
    id ∈ (scheduler.afterRounds rounds).registry.periodic ∧
      (scheduler.afterRounds rounds).registry.schedule? id =
        some (schedule.afterBeacons rounds) := by
  induction rounds with
  | zero => exact ⟨active, scheduled⟩
  | succ rounds ih =>
      obtain ⟨listed, counting⟩ := ih (lasts.imp_left Nat.lt_of_succ_lt)
      have current := running.afterRounds rounds
      have counters := inProgress.afterBeacons rounds
      refine ⟨?_, current.schedule?_of_active listed counting⟩
      refine (current.mem_periodic_beaconRound counting counters).mpr ⟨listed, ?_⟩
      rintro ⟨last, lapses⟩
      obtain ⟨_, _, _, refreshes⟩ :=
        PeriodicSchedule.configured_of_reset (schedule.reset_afterBeacons rounds)
      rcases lasts with more | startsOver
      · have left := (inProgress.inCountdown (Nat.lt_of_succ_lt more)).lifetime
        omega
      · rw [refreshes, startsOver] at lapses
        cases lapses

theorem Running.schedule?_afterLifetime :
    (scheduler.afterRounds schedule.lifetime).registry.schedule? id = some schedule.reset := by
  rw [← inProgress.afterBeacons_lifetime]
  obtain ⟨rounds, lifetime⟩ := Nat.exists_eq_succ_of_ne_zero (Nat.ne_of_gt schedule.lifetime_pos)
  obtain ⟨listed, counting⟩ := running.active_afterRounds active scheduled inProgress
    (Or.inl (by omega : rounds < schedule.lifetime))
  rw [lifetime]
  exact (running.afterRounds rounds).schedule?_of_active listed counting

/-- A schedule that does not start over is off the list when its lifetime is over. -/
theorem Running.lapsed_afterLifetime (lapses : schedule.refreshes = false) {rounds : Nat}
    (past : schedule.lifetime ≤ rounds) :
    id ∉ (scheduler.afterRounds rounds).registry.periodic := by
  obtain ⟨before, lifetime⟩ := Nat.exists_eq_succ_of_ne_zero (Nat.ne_of_gt schedule.lifetime_pos)
  obtain ⟨listed, counting⟩ := running.active_afterRounds active scheduled inProgress
    (Or.inl (by omega : before < schedule.lifetime))
  have left := (inProgress.inCountdown (by omega : before < schedule.lifetime)).lifetime
  obtain ⟨_, _, _, refreshes⟩ :=
    PeriodicSchedule.configured_of_reset (schedule.reset_afterBeacons before)
  have ended : id ∉ (scheduler.afterRounds schedule.lifetime).registry.periodic := by
    rw [lifetime]
    intro remains
    have stays := ((running.afterRounds before).mem_periodic_beaconRound counting
      (inProgress.afterBeacons before)).mp remains
    exact stays.2 ⟨by omega, refreshes.trans lapses⟩
  obtain ⟨more, total⟩ := Nat.exists_eq_add_of_le past
  rw [total, afterRounds_add]
  intro remains
  exact ended (((running.afterRounds schedule.lifetime).periodic_afterRounds_sublist more).subset
    remains)

/-- A schedule that does not start over is active up to the end of its lifetime, and not as a plain
window afterwards. -/
theorem Running.active_afterRounds_iff (lapses : schedule.refreshes = false) (rounds : Nat) :
    id ∈ (scheduler.afterRounds rounds).registry.active ↔ rounds < schedule.lifetime := by
  have notPlain : id ∉ (scheduler.afterRounds rounds).registry.plain := by
    rw [running.plain_afterRounds]
    exact fun plain => running.reachable.sound.registry.not_periodic_of_plain plain active
  constructor
  · intro remains
    apply Nat.lt_of_not_le
    intro past
    rcases List.mem_append.mp remains with plain | listed
    · exact notPlain plain
    · exact running.lapsed_afterLifetime active scheduled inProgress lapses past listed
  · intro lasts
    obtain ⟨listed, _⟩ := running.active_afterRounds active scheduled inProgress (Or.inl lasts)
    exact List.mem_append_right _ listed

theorem Running.count_lapsedAfter (lapses : schedule.refreshes = false) (rounds : Nat) :
    (scheduler.lapsedAfter rounds).count id = if rounds < schedule.lifetime then 0 else 1 := by
  by_cases lasts : rounds < schedule.lifetime
  · obtain ⟨listed, _⟩ := running.active_afterRounds active scheduled inProgress (Or.inl lasts)
    rw [if_pos lasts]
    apply List.count_eq_zero_of_not_mem
    intro gone
    exact of_decide_eq_true (List.mem_filter.mp gone).2 listed
  · have ended := running.lapsed_afterLifetime active scheduled inProgress lapses
      (Nat.le_of_not_lt lasts)
    have distinct := Registry.nodup_of_ascending
      running.reachable.sound.registry.periodicAscending
    rw [if_neg lasts]
    exact List.count_eq_one_of_mem (distinct.filter _)
      (List.mem_filter.mpr ⟨active, decide_eq_true ended⟩)

/-- A schedule that starts over does so in the last round of its lifetime and of every full lifetime
after that. -/
theorem Running.startsOver_afterRounds (startsOver : schedule.refreshes = true) (rounds : Nat) :
    (scheduler.afterRounds rounds).registry.startsOver id = true ↔
      ∃ cycles, rounds + 1 = schedule.lifetime + cycles * schedule.fullLifetime := by
  obtain ⟨_, counting⟩ :=
    running.active_afterRounds active scheduled inProgress (Or.inr startsOver)
  obtain ⟨_, _, _, refreshes⟩ :=
    PeriodicSchedule.configured_of_reset (schedule.reset_afterBeacons rounds)
  rw [startsOver_iff counting (inProgress.afterBeacons rounds), inProgress.ends_iff,
    and_iff_left (refreshes.trans startsOver)]

/-- Each time the counters are back at their configured values after the round. -/
theorem Running.schedule?_of_cycles (startsOver : schedule.refreshes = true) {rounds cycles : Nat}
    (ends : rounds = schedule.lifetime + cycles * schedule.fullLifetime) :
    (scheduler.afterRounds rounds).registry.schedule? id = some schedule.reset := by
  obtain ⟨_, counting⟩ :=
    running.active_afterRounds active scheduled inProgress (Or.inr startsOver)
  have some := Nat.lt_of_lt_of_le schedule.lifetime_pos (by omega : _ ≤ rounds)
  obtain ⟨before, successor⟩ := Nat.exists_eq_succ_of_ne_zero (Nat.ne_of_gt some)
  have last := (inProgress.ends_iff before).mpr ⟨cycles, by omega⟩
  rw [counting, successor]
  unfold PeriodicSchedule.afterBeacons
  rw [(inProgress.afterBeacons before).advance_of_last last]
  exact congrArg Option.some (schedule.reset_afterBeacons before)

end Lifetime

structure RunsItsLifetime (scheduler : Scheduler) (id : WindowId)
    (schedule : PeriodicSchedule) : Prop where
  /-- Before the end of its lifetime the window is active, its offset moves on with each round and
  its counters are not yet back at their configured values. -/
  counting : ∀ rounds, rounds < schedule.lifetime →
    id ∈ (scheduler.afterRounds rounds).registry.periodic ∧
      ∃ current, (scheduler.afterRounds rounds).registry.schedule? id = some current ∧
        current.reset = schedule.reset ∧
        (current.offsetLeft.toNat : Int) =
          ((schedule.offsetLeft.toNat : Int) - rounds) % schedule.periodicity.toNat ∧
        (0 < rounds → ¬ (current.validityLeft = schedule.validity ∧
          current.offsetLeft = schedule.startOffset))
  ended : (scheduler.afterRounds schedule.lifetime).registry.schedule? id = some schedule.reset
  /-- Without starting over, the window is deactivated at the end of its lifetime, for good, and
  counted once. -/
  lapsed : schedule.refreshes = false → ∀ rounds,
    (id ∈ (scheduler.afterRounds rounds).registry.active ↔ rounds < schedule.lifetime) ∧
      (scheduler.lapsedAfter rounds).count id = if rounds < schedule.lifetime then 0 else 1
  /-- Otherwise the window stays active, and starts over at the end of its lifetime and in every
  full lifetime after that. -/
  refreshed : schedule.refreshes = true → ∀ rounds,
    id ∈ (scheduler.afterRounds rounds).registry.periodic ∧
      ((scheduler.afterRounds rounds).registry.startsOver id = true ↔
        ∃ cycles, rounds + 1 = schedule.lifetime + cycles * schedule.fullLifetime) ∧
      ∀ cycles, rounds = schedule.lifetime + cycles * schedule.fullLifetime →
        (scheduler.afterRounds rounds).registry.schedule? id = some schedule.reset
  expired : ∀ rounds, (scheduler.afterRounds rounds).stats.expired =
    scheduler.stats.expired + (scheduler.lapsedAfter rounds).length
  accepted : ∀ rounds, id ∈ (scheduler.afterRounds rounds).registry.periodic →
    (scheduler.afterRounds rounds).beaconSent.answer = true

/-- An active window runs through the lifetime of its schedule round by round. -/
theorem periodic_window_runs_its_lifetime (reachable : Reachable scheduler)
    (enabled : scheduler.enabled = true) (active : id ∈ scheduler.registry.periodic)
    (scheduled : scheduler.registry.schedule? id = some schedule)
    (valid : schedule.isValid = true) : scheduler.RunsItsLifetime id schedule := by
  have running : scheduler.Running := ⟨reachable, enabled⟩
  have inProgress := reachable.inProgress scheduled valid
  refine
    { counting := ?_
      ended := running.schedule?_afterLifetime active scheduled inProgress
      lapsed := ?_
      refreshed := ?_
      expired := running.expired_afterRounds
      accepted := ?_ }
  · intro rounds lasts
    obtain ⟨listed, counting⟩ :=
      running.active_afterRounds active scheduled inProgress (Or.inl lasts)
    exact ⟨listed, _, counting, schedule.reset_afterBeacons rounds,
      (inProgress.inCountdown lasts).offset, fun some => inProgress.counters_ne some lasts⟩
  · intro lapses rounds
    exact ⟨running.active_afterRounds_iff active scheduled inProgress lapses rounds,
      running.count_lapsedAfter active scheduled inProgress lapses rounds⟩
  · intro startsOver rounds
    obtain ⟨listed, _⟩ :=
      running.active_afterRounds active scheduled inProgress (Or.inr startsOver)
    exact ⟨listed, running.startsOver_afterRounds active scheduled inProgress startsOver rounds,
      fun cycles => running.schedule?_of_cycles active scheduled inProgress startsOver⟩
  · intro rounds listed
    have current := running.afterRounds rounds
    rw [current.reachable.beaconSent_answer current.enabled]
    exact Registry.needsEveryBeacon_of_periodic (List.ne_nil_of_mem listed)

/-- Two periodic windows, one of which starts over, beside a spread plain one. After two rounds the
schedules stand in the middle of their periods. -/
def overlappingHistory : List Operation :=
  [.associate 1, .associate 2, .pass,
    .command
      { id := 1
        flags := { enable := true, delete := false, update := true }
        fields := [.slots 4000 4 false, .group 1 2, .periodic 3 2 1 false] },
    .command
      { id := 4
        flags := { enable := true, delete := false, update := true }
        fields := [.slots 4000 4 false, .group 1 2, .periodic 2 3 0 true, .spread 0 1] },
    .command
      { id := 9
        flags := { enable := true, delete := false, update := true }
        fields := [.slots 4000 4 false, .group 1 2, .spread 0 1] },
    .beaconSent, .pass, .beaconSent, .pass]

theorem periodic_window_runs_its_lifetime_overlapping :
    ∃ fresh, create .accessPoint { SchedulerOptions.standard with enabled := true } = .ok fresh ∧
      Reachable (fresh.afterAll overlappingHistory) ∧
      (fresh.afterAll overlappingHistory).enabled = true ∧
      1 ∈ (fresh.afterAll overlappingHistory).registry.periodic ∧
      (fresh.afterAll overlappingHistory).registry.schedule? 1 = some ⟨3, 2, 1, 2, 2, false⟩ ∧
      PeriodicSchedule.isValid ⟨3, 2, 1, 2, 2, false⟩ = true ∧
      (fresh.afterAll overlappingHistory).RunsItsLifetime 1 ⟨3, 2, 1, 2, 2, false⟩ := by
  have creation :
      create .accessPoint { SchedulerOptions.standard with enabled := true } = .ok _ := rfl
  have reachable := (Reachable.created creation).afterAll overlappingHistory
  refine ⟨_, creation, reachable, ?enabled, ?active, ?scheduled, ?valid,
    periodic_window_runs_its_lifetime reachable ?enabled ?active ?scheduled ?valid⟩
  case enabled => decide +kernel
  case active => decide +kernel
  case scheduled => decide +kernel
  case valid => decide

end Scheduler

end RestrictedAccess
