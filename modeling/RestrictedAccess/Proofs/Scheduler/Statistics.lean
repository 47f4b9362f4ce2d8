/-
What the statistics of a scheduler count. No request of a client counts anything. A pass counts
itself, whether the scheduler is enabled or not, and the beacon it consumes if there is one.
-/

import RestrictedAccess.Dispatcher
import RestrictedAccess.Proofs.Scheduler.PassTotality
import RestrictedAccess.Proofs.Scheduler.Updates

namespace RestrictedAccess.Scheduler

open Station

variable {scheduler : Scheduler}

/-! ### Requests -/

structure Uncounted (earlier later : Scheduler) : Prop where
  stats : later.stats = earlier.stats
  beaconSent : later.pending.beaconSent = earlier.pending.beaconSent

theorem Uncounted.trans {first second third : Scheduler} (before : Uncounted first second)
    (after : Uncounted second third) : Uncounted first third :=
  ⟨after.stats.trans before.stats, after.beaconSent.trans before.beaconSent⟩

theorem uncounted_enable (scheduler : Scheduler) : Uncounted scheduler scheduler.enable := by
  rw [enable_eq]
  exact ⟨rfl, rfl⟩

theorem uncounted_disable (scheduler : Scheduler) : Uncounted scheduler scheduler.disable := by
  rw [disable_eq]
  exact ⟨rfl, rfl⟩

theorem uncounted_triggerUpdate (scheduler : Scheduler) (refreshAids : Bool) :
    Uncounted scheduler (scheduler.triggerUpdate refreshAids).1 := by
  rw [triggerUpdate_eq]
  exact ⟨rfl, rfl⟩

theorem uncounted_takeStations (scheduler : Scheduler) (change : Except Fault (Bitmap × Bool)) :
    Uncounted scheduler (scheduler.takeStations change).1 := by
  rcases change with fault | ⟨stations, changed⟩
  · exact ⟨rfl, rfl⟩
  · cases changed with
    | false => exact ⟨rfl, rfl⟩
    | true =>
        rw [takeStations_changed]
        exact ⟨rfl, rfl⟩

theorem uncounted_applyCommand (scheduler : Scheduler) (command : Command) :
    Uncounted scheduler (scheduler.applyCommand command).1 := by
  obtain ⟨registry, applied⟩ := scheduler.applyCommand_eq command
  rw [applied]
  split
  · split
    · exact ⟨scheduler.uncounted_enable.stats, scheduler.uncounted_enable.beaconSent⟩
    · exact ⟨scheduler.uncounted_disable.stats, scheduler.uncounted_disable.beaconSent⟩
  · exact ⟨rfl, rfl⟩

theorem uncounted_processCommand (scheduler : Scheduler) (command : Command) :
    Uncounted scheduler (scheduler.processCommand command).scheduler := by
  obtain ⟨_, _, _, settled⟩ := (scheduler.applyCommand command).1.settleConfiguration_eq
  have realigned : Uncounted (scheduler.applyCommand command).1
      (scheduler.applyCommand command).1.settleConfiguration := by
    rw [settled]
    exact ⟨rfl, rfl⟩
  exact ((scheduler.uncounted_applyCommand command).trans realigned).trans
    (uncounted_triggerUpdate _ false)

theorem uncounted_after (scheduler : Scheduler) {request : Request}
    (other : request ≠ .beaconSent) :
    Uncounted scheduler (scheduler.after request.operation) := by
  cases request with
  | command command => exact scheduler.uncounted_processCommand command
  | associate aid => exact scheduler.uncounted_takeStations _
  | disassociate aid => exact scheduler.uncounted_takeStations _
  | beaconSent => exact absurd rfl other
  | triggerUpdate refreshAids => exact scheduler.uncounted_triggerUpdate refreshAids
  | installProtection aid =>
      obtain ⟨active, _, installed⟩ := scheduler.installProtection_eq aid
      change Uncounted scheduler (scheduler.installProtection aid).1
      rw [installed]
      have enabled := uncounted_enable { scheduler with registry := active }
      exact Uncounted.trans ⟨enabled.stats, enabled.beaconSent⟩ (uncounted_triggerUpdate _ false)
  | removeProtection =>
      have silenced : Uncounted scheduler
          { scheduler with registry := scheduler.registry.deactivate protectionId } :=
        ⟨rfl, rfl⟩
      exact silenced.trans (uncounted_triggerUpdate _ false)

theorem stats_after_request (scheduler : Scheduler) (request : Request) :
    (scheduler.after request.operation).stats = scheduler.stats := by
  by_cases beacon : request = .beaconSent
  · subst beacon
    change scheduler.beaconSent.scheduler.stats = scheduler.stats
    rw [beaconSent_eq]
  · exact (scheduler.uncounted_after beacon).stats

/-! ### Passes -/

structure CountedPass (earlier later : Scheduler) : Prop where
  passes : later.stats.passes = earlier.stats.passes + 1
  /-- A disabled scheduler has no beacon to consume. -/
  beacons : later.stats.beacons =
    earlier.stats.beacons + (earlier.enabled && earlier.pending.beaconSent).toNat

theorem countedPass_generate {includePeriodic : Bool}
    (generated : (scheduler.generate includePeriodic).answer = .ok ()) :
    (scheduler.generate includePeriodic).scheduler.stats.passes = scheduler.stats.passes + 1 ∧
      (scheduler.generate includePeriodic).scheduler.stats.beacons = scheduler.stats.beacons := by
  unfold generate at generated ⊢
  simp only at generated ⊢
  split
  · exact ⟨rfl, rfl⟩
  · rename_i failed
    rw [failed] at generated
    cases generated

theorem stats_prepared (scheduler : Scheduler) :
    scheduler.prepared.stats.passes = scheduler.stats.passes ∧
      scheduler.prepared.stats.beacons =
        scheduler.stats.beacons + scheduler.pending.beaconSent.toNat := by
  unfold prepared
  cases scheduler.pending.beaconSent with
  | false => exact ⟨rfl, rfl⟩
  | true => exact ⟨rfl, rfl⟩

theorem Sound.countedPass (sound : scheduler.Sound) :
    CountedPass scheduler scheduler.runPass.scheduler := by
  cases enabled : scheduler.enabled with
  | false =>
      rw [runPass_disabled enabled]
      refine ⟨rfl, ?_⟩
      rw [enabled]
      rfl
  | true =>
      have staged : scheduler.runPass = scheduler.prepared.generate scheduler.burstAnnounces := by
        unfold Scheduler.runPass
        rw [if_pos enabled, sound.enabledPass_eq]
      have generated := countedPass_generate (staged ▸ sound.runPass_answer)
      rw [← staged] at generated
      obtain ⟨passes, beacons⟩ := scheduler.stats_prepared
      refine ⟨generated.1.trans (congrArg (· + 1) passes), ?_⟩
      rw [generated.2, beacons, enabled, Bool.true_and]

end RestrictedAccess.Scheduler
