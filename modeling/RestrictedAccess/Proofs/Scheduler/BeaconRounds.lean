/-
Rounds of beaconing. In each round a beacon is reported and a pass is run. A round is described by
what it does to the active lists, to each schedule and to the counters, and everything that a round
leaves alone is left alone by any number of rounds.
-/

import RestrictedAccess.Proofs.Scheduler.Announcement
import RestrictedAccess.Proofs.Scheduler.EveryBeacon

namespace RestrictedAccess

open Station

theorem WindowConfig.periodic_resolveIndices (aids : AidList) (window : WindowConfig) :
    (window.resolveIndices aids).periodic = window.periodic := by
  unfold WindowConfig.resolveIndices
  split <;> rfl

theorem WindowConfig.periodic_advanced (aids : AidList) (window : WindowConfig) :
    (window.advanced aids).periodic = window.periodic := by
  unfold advanced announcing beaconRange
  cases window.spreading with
  | none => rfl
  | some spreading =>
      simp only
      split
      · rename_i answer answered
        split at answered
        · cases answered
          rfl
        · split at answered
          · cases answered
          · split at answered
            · cases answered
              rfl
            · cases answered
      · rfl

namespace Registry

def schedule? (registry : Registry) (id : WindowId) : Option PeriodicSchedule :=
  (registry.find? id).bind WindowConfig.periodic

theorem countdownEvent?_eq (registry : Registry) (id : WindowId) :
    registry.countdownEvent? id =
      (registry.schedule? id).map (fun schedule => schedule.advance.2) := by
  unfold countdownEvent? schedule? WindowConfig.countdownEvent?
  cases registry.find? id <;> rfl

end Registry

namespace Scheduler

/-! ### Schedules in a pass -/

theorem schedule?_passWindow? (scheduler : Scheduler) (id : WindowId) :
    (scheduler.passWindow? id).bind WindowConfig.periodic =
      if scheduler.pending.beaconSent ∧ id ∈ scheduler.registry.periodic then
        (scheduler.registry.schedule? id).map (fun schedule => schedule.advance.1)
      else scheduler.registry.schedule? id := by
  unfold passWindow? Registry.schedule?
  cases scheduler.registry.find? id with
  | none => simp only [Option.map_none, Option.bind_none, ite_self]
  | some window =>
      have resolved : (if scheduler.pending.refreshAids ∧ id ∈ scheduler.registry.plain then
          window.resolveIndices scheduler.stations.members else window).periodic =
            window.periodic := by
        split
        · exact window.periodic_resolveIndices _
        · rfl
      simp only [Option.map_some, Option.bind_some]
      split
      · unfold WindowConfig.counted
        simp only [resolved]
      · exact resolved

theorem Passed.schedule?_eq {earlier later : Scheduler} (passed : Passed earlier later)
    (sound : earlier.Sound) (id : WindowId) :
    later.registry.schedule? id = (earlier.passWindow? id).bind WindowConfig.periodic := by
  unfold Registry.schedule?
  rw [passed.find?_eq sound]
  cases earlier.passWindow? id with
  | none => rfl
  | some window =>
      simp only [Option.map_some, Option.bind_some]
      split
      · exact window.periodic_advanced _
      · rfl

/-! ### Rounds -/

def beaconRound (scheduler : Scheduler) : Scheduler :=
  scheduler.afterAll [.beaconSent, .pass]

def afterRounds (scheduler : Scheduler) : Nat → Scheduler
  | 0 => scheduler
  | rounds + 1 => (scheduler.afterRounds rounds).beaconRound

theorem afterRounds_succ (scheduler : Scheduler) (rounds : Nat) :
    scheduler.afterRounds (rounds + 1) = (scheduler.afterRounds rounds).beaconRound :=
  rfl

theorem afterRounds_add (scheduler : Scheduler) (earlier later : Nat) :
    scheduler.afterRounds (earlier + later) =
      (scheduler.afterRounds earlier).afterRounds later := by
  induction later with
  | zero => rfl
  | succ later ih => exact congrArg beaconRound ih

structure Running (scheduler : Scheduler) : Prop where
  reachable : Reachable scheduler
  enabled : scheduler.enabled = true

variable {scheduler : Scheduler}

/-! ### One round -/

structure Notified (earlier later : Scheduler) : Prop where
  undisturbed : Undisturbed earlier later
  enabled : later.enabled = earlier.enabled
  options : later.options = earlier.options
  burst : later.burst = earlier.burst
  stats : later.stats = earlier.stats
  refreshAids : later.pending.refreshAids = earlier.pending.refreshAids

theorem notified_beaconSent (scheduler : Scheduler) :
    Notified scheduler scheduler.beaconSent.scheduler := by
  have undisturbed := undisturbed_beaconSent scheduler
  rw [beaconSent_eq] at undisturbed ⊢
  exact ⟨undisturbed, rfl, rfl, rfl, rfl, rfl⟩

theorem Running.afterBeaconSent (running : scheduler.Running) :
    scheduler.beaconSent.scheduler.Running :=
  { reachable := Reachable.performed .beaconSent running.reachable
    enabled := (notified_beaconSent scheduler).enabled.trans running.enabled }

theorem Running.pending_beaconSent (running : scheduler.Running)
    (needed : scheduler.registry.needsEveryBeacon = true) :
    scheduler.beaconSent.scheduler.pending.beaconSent = true := by
  apply pending_beaconSent_of_accepted
  rw [running.reachable.beaconSent_answer running.enabled]
  exact needed

theorem Running.sent_of_periodic (running : scheduler.Running)
    (active : scheduler.registry.periodic ≠ []) :
    scheduler.beaconSent.scheduler.pending.beaconSent = true :=
  running.pending_beaconSent (Registry.needsEveryBeacon_of_periodic active)

theorem Running.passed (running : scheduler.Running) :
    Passed scheduler.beaconSent.scheduler scheduler.beaconRound :=
  (running.afterBeaconSent.reachable.sound.runPass_enabled running.afterBeaconSent.enabled).2

theorem Running.settled (running : scheduler.Running) :
    Settled scheduler.beaconSent.scheduler scheduler.beaconRound :=
  running.afterBeaconSent.reachable.sound.settled running.afterBeaconSent.enabled

theorem Running.beaconRound (running : scheduler.Running) : scheduler.beaconRound.Running :=
  { reachable := running.reachable.afterAll [.beaconSent, .pass]
    enabled := running.settled.enabled }

theorem Running.plain_beaconRound (running : scheduler.Running) :
    scheduler.beaconRound.registry.plain = scheduler.registry.plain := by
  rw [running.passed.plain running.afterBeaconSent.reachable.sound,
    (notified_beaconSent scheduler).undisturbed.registry]

theorem Running.options_beaconRound (running : scheduler.Running) :
    scheduler.beaconRound.options = scheduler.options :=
  running.settled.options.trans (notified_beaconSent scheduler).options

theorem Running.periodic_beaconRound (running : scheduler.Running) :
    scheduler.beaconRound.registry.periodic =
      scheduler.registry.periodic.filter (fun id => !scheduler.registry.lapses id) := by
  have registry := (notified_beaconSent scheduler).undisturbed.registry
  rw [running.passed.periodic running.afterBeaconSent.reachable.sound]
  unfold survivors
  rw [registry]
  by_cases idle : scheduler.registry.periodic = []
  · rw [idle]
    split <;> rfl
  · rw [running.sent_of_periodic idle]
    rfl

theorem Running.schedule?_beaconRound (running : scheduler.Running) (id : WindowId) :
    scheduler.beaconRound.registry.schedule? id =
      if id ∈ scheduler.registry.periodic then
        (scheduler.registry.schedule? id).map (fun schedule => schedule.advance.1)
      else scheduler.registry.schedule? id := by
  have registry := (notified_beaconSent scheduler).undisturbed.registry
  rw [running.passed.schedule?_eq running.afterBeaconSent.reachable.sound, schedule?_passWindow?,
    registry]
  by_cases active : id ∈ scheduler.registry.periodic
  · have sent := running.sent_of_periodic (List.ne_nil_of_mem active)
    simp only [sent, active, and_self, if_true]
  · simp only [active, and_false, if_false]

theorem Running.decoded_beaconRound (running : scheduler.Running) :
    ∃ set, ParameterSet.decode scheduler.beaconRound.payload = .ok set ∧
      List.Forall₂ (fun id assignment => ∃ window stored range,
          Announces scheduler.beaconSent.scheduler scheduler.beaconRound id assignment
            window stored range)
        (scheduler.beaconSent.scheduler.announcementOrder.take scheduler.options.maxAssignments)
        set.assignments := by
  rw [← (notified_beaconSent scheduler).options]
  exact running.passed.decoded running.afterBeaconSent.reachable.sound

theorem Running.expired_beaconRound (running : scheduler.Running) :
    scheduler.beaconRound.stats.expired = scheduler.stats.expired +
      (scheduler.registry.periodic.filter scheduler.registry.lapses).length := by
  have notified := notified_beaconSent scheduler
  rw [running.settled.expired, notified.stats, notified.undisturbed.registry]
  by_cases idle : scheduler.registry.periodic = []
  · rw [idle]
    split <;> rfl
  · rw [running.sent_of_periodic idle]
    rfl

/-! ### Many rounds -/

theorem Running.afterRounds (running : scheduler.Running) (rounds : Nat) :
    (scheduler.afterRounds rounds).Running := by
  induction rounds with
  | zero => exact running
  | succ rounds ih => exact ih.beaconRound

theorem Running.plain_afterRounds (running : scheduler.Running) (rounds : Nat) :
    (scheduler.afterRounds rounds).registry.plain = scheduler.registry.plain := by
  induction rounds with
  | zero => rfl
  | succ rounds ih => exact (running.afterRounds rounds).plain_beaconRound.trans ih

theorem Running.options_afterRounds (running : scheduler.Running) (rounds : Nat) :
    (scheduler.afterRounds rounds).options = scheduler.options := by
  induction rounds with
  | zero => rfl
  | succ rounds ih => exact (running.afterRounds rounds).options_beaconRound.trans ih

theorem Running.periodic_afterRounds_sublist (running : scheduler.Running) (rounds : Nat) :
    (scheduler.afterRounds rounds).registry.periodic.Sublist scheduler.registry.periodic := by
  induction rounds with
  | zero => exact List.Sublist.refl _
  | succ rounds ih =>
      have current := (running.afterRounds rounds).periodic_beaconRound
      exact (current ▸ List.filter_sublist).trans ih

theorem length_filter_absent {fewer all : List WindowId} (kept : fewer.Sublist all)
    (distinct : all.Nodup) :
    (all.filter (fun id => decide (id ∉ fewer))).length + fewer.length = all.length := by
  induction kept with
  | slnil => rfl
  | @cons fewer all head kept ih =>
      rcases List.nodup_cons.mp distinct with ⟨absent, tailDistinct⟩
      have gone : head ∉ fewer := fun member => absent (kept.subset member)
      have tailCount := ih tailDistinct
      rw [List.filter_cons, if_pos (decide_eq_true gone), List.length_cons, List.length_cons]
      omega
  | @cons_cons fewer all head kept ih =>
      rcases List.nodup_cons.mp distinct with ⟨absent, tailDistinct⟩
      have elsewhere : all.filter (fun id => decide (id ∉ head :: fewer)) =
          all.filter (fun id => decide (id ∉ fewer)) := by
        apply List.filter_congr
        intro id member
        have different : id ≠ head := fun same => absent (same ▸ member)
        simp only [List.mem_cons, different, false_or]
      have tailCount := ih tailDistinct
      rw [List.filter_cons, if_neg (by simp), elsewhere, List.length_cons, List.length_cons]
      omega

theorem Running.expired_afterRounds (running : scheduler.Running) (rounds : Nat) :
    (scheduler.afterRounds rounds).stats.expired = scheduler.stats.expired +
      (scheduler.registry.periodic.filter
        (fun id => decide (id ∉ (scheduler.afterRounds rounds).registry.periodic))).length := by
  have balance : (scheduler.afterRounds rounds).stats.expired +
      (scheduler.afterRounds rounds).registry.periodic.length =
        scheduler.stats.expired + scheduler.registry.periodic.length := by
    induction rounds with
    | zero => rfl
    | succ rounds ih =>
        have current := running.afterRounds rounds
        have parts := List.length_eq_length_filter_add
          (l := (scheduler.afterRounds rounds).registry.periodic)
          (scheduler.afterRounds rounds).registry.lapses
        have expired := current.expired_beaconRound
        have periodic := congrArg List.length current.periodic_beaconRound
        rw [afterRounds_succ]
        omega
  have left := length_filter_absent (running.periodic_afterRounds_sublist rounds)
    (Registry.nodup_of_ascending running.reachable.sound.registry.periodicAscending)
  omega

end Scheduler

end RestrictedAccess
