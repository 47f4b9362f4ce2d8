/-
The effect of a pass on each window. Which schedules survive the pass and which start over is
decided by the schedules it starts from, and every stored window has a known version when its turn
to be announced comes.
-/

import RestrictedAccess.Proofs.Scheduler.Reachability

namespace RestrictedAccess.Scheduler

open Station

variable {scheduler : Scheduler}

/-- The active schedules that the beacon of a pass, if there is one, does not end. -/
def survivors (scheduler : Scheduler) : List WindowId :=
  if scheduler.pending.beaconSent then
    scheduler.registry.periodic.filter (fun id => !scheduler.registry.lapses id)
  else scheduler.registry.periodic

theorem survivors_subset (scheduler : Scheduler) {id : WindowId}
    (member : id ∈ scheduler.survivors) : id ∈ scheduler.registry.periodic := by
  unfold survivors at member
  split at member
  · exact (List.mem_filter.mp member).1
  · exact member

def restartedBurst (scheduler : Scheduler) : UInt16 :=
  if scheduler.pending.refreshAids ||
      (scheduler.pending.beaconSent &&
        scheduler.registry.periodic.any scheduler.registry.startsOver) then
    scheduler.fullBurst
  else scheduler.burst

/-- A stored window as it stands when its turn to be announced comes. A fresh list of stations
moves the slices of plain windows, and a beacon is counted by the schedules. -/
def passWindow? (scheduler : Scheduler) (id : WindowId) : Option WindowConfig :=
  (scheduler.registry.find? id).map (fun window =>
    let resolved :=
      if scheduler.pending.refreshAids ∧ id ∈ scheduler.registry.plain then
        window.resolveIndices scheduler.stations.members
      else window
    if scheduler.pending.beaconSent ∧ id ∈ scheduler.registry.periodic then resolved.counted
    else resolved)

/-! ### The fresh list -/

theorem plain_refreshedRegistry (scheduler : Scheduler) :
    scheduler.refreshedRegistry.plain = scheduler.registry.plain := by
  unfold refreshedRegistry
  split
  · exact Registry.plain_modifyAll _ _ _
  · rfl

theorem periodic_refreshedRegistry (scheduler : Scheduler) :
    scheduler.refreshedRegistry.periodic = scheduler.registry.periodic := by
  unfold refreshedRegistry
  split
  · exact Registry.periodic_modifyAll _ _ _
  · rfl

theorem Sound.find?_refreshedRegistry (sound : scheduler.Sound) (id : WindowId) :
    scheduler.refreshedRegistry.find? id =
      (scheduler.registry.find? id).map (fun window =>
        if scheduler.pending.refreshAids ∧ id ∈ scheduler.registry.plain then
          window.resolveIndices scheduler.stations.members
        else window) := by
  have distinct := Registry.nodup_of_ascending sound.registry.plainAscending
  unfold refreshedRegistry
  by_cases wished : scheduler.pending.refreshAids
  · rw [if_pos wished,
      Registry.find?_modifyAll _ distinct]
    by_cases plain : id ∈ scheduler.registry.plain
    · simp only [wished, plain, and_self, if_true]
    · simp only [plain, and_false, if_false, Option.map_id']
  · simp only [wished, Bool.false_eq_true, false_and, if_false, Option.map_id']

theorem countdownEvent?_resolveIndices (aids : AidList) (window : WindowConfig) :
    (window.resolveIndices aids).countdownEvent? = window.countdownEvent? := by
  unfold WindowConfig.resolveIndices
  split <;> rfl

theorem Sound.countdownEvent?_refreshedRegistry (sound : scheduler.Sound) :
    scheduler.refreshedRegistry.countdownEvent? = scheduler.registry.countdownEvent? := by
  funext id
  unfold Registry.countdownEvent?
  rw [sound.find?_refreshedRegistry]
  cases scheduler.registry.find? id with
  | none => rfl
  | some window =>
      simp only [Option.map_some, Option.bind_some]
      split
      · exact countdownEvent?_resolveIndices _ window
      · rfl

theorem Sound.lapses_refreshedRegistry (sound : scheduler.Sound) :
    scheduler.refreshedRegistry.lapses = scheduler.registry.lapses := by
  unfold Registry.lapses
  rw [sound.countdownEvent?_refreshedRegistry]

theorem Sound.startsOver_refreshedRegistry (sound : scheduler.Sound) :
    scheduler.refreshedRegistry.startsOver = scheduler.registry.startsOver := by
  unfold Registry.startsOver
  rw [sound.countdownEvent?_refreshedRegistry]

/-! ### The beacon -/

theorem Sound.plain_passCount (sound : scheduler.Sound) :
    scheduler.passCount.registry.plain = scheduler.registry.plain := by
  rw [sound.runsTo_passCount.plain, plain_refreshedRegistry]

theorem Sound.periodic_passCount (sound : scheduler.Sound) :
    scheduler.passCount.registry.periodic = scheduler.survivors := by
  unfold passCount survivors
  split
  · rw [sound.refreshed.countedFor.periodic, periodic_refreshedRegistry,
      sound.lapses_refreshedRegistry]
    apply List.filter_congr
    intro id member
    rw [decide_eq_true member, Bool.true_and]
  · exact scheduler.periodic_refreshedRegistry

theorem Sound.burstInForce_eq (sound : scheduler.Sound) :
    scheduler.burstInForce = scheduler.restartedBurst := by
  have restarted : scheduler.passCount.anyRefreshed =
      (scheduler.pending.beaconSent &&
        scheduler.registry.periodic.any scheduler.registry.startsOver) := by
    unfold passCount
    split
    · rename_i sent
      rw [sound.refreshed.countedFor.refreshed, periodic_refreshedRegistry,
        sound.startsOver_refreshedRegistry, Bool.false_or, sent, Bool.true_and]
    · rename_i unsent
      rw [eq_false_of_ne_true unsent]
      rfl
  unfold burstInForce restartedBurst
  rw [restarted]

theorem Sound.find?_passCount (sound : scheduler.Sound) (id : WindowId) :
    scheduler.passCount.registry.find? id = scheduler.passWindow? id := by
  unfold passCount passWindow?
  by_cases sent : scheduler.pending.beaconSent
  · rw [if_pos sent, sound.refreshed.countedFor.found, periodic_refreshedRegistry,
      sound.find?_refreshedRegistry]
    by_cases periodic : id ∈ scheduler.registry.periodic
    · simp only [sent, periodic, and_self, if_true, Option.map_map]
      rfl
    · simp only [periodic, and_false, if_false]
  · rw [if_neg sent, sound.find?_refreshedRegistry]
    simp only [sent, Bool.false_eq_true, false_and, if_false]

/-- Selected windows are advanced, and all others keep the version of the pass. -/
theorem Passed.find?_eq {later : Scheduler} (passed : Passed scheduler later)
    (sound : scheduler.Sound) (id : WindowId) :
    later.registry.find? id =
      (scheduler.passWindow? id).map (fun window =>
        if id ∈ scheduler.selection then window.advanced scheduler.passAids else window) := by
  rw [passed.registry, Registry.find?_modifyAll _ sound.nodup_selection, sound.find?_passCount]
  by_cases selected : id ∈ scheduler.selection
  · simp only [if_pos selected]
  · simp only [if_neg selected, Option.map_id']

theorem Passed.plain {later : Scheduler} (passed : Passed scheduler later)
    (sound : scheduler.Sound) : later.registry.plain = scheduler.registry.plain := by
  rw [(passed.runsTo sound).plain, sound.plain_passCount]

theorem Passed.periodic {later : Scheduler} (passed : Passed scheduler later)
    (sound : scheduler.Sound) : later.registry.periodic = scheduler.survivors := by
  rw [passed.registry, Registry.periodic_modifyAll, sound.periodic_passCount]

theorem Passed.aids {later : Scheduler} (passed : Passed scheduler later) :
    later.aids = scheduler.passAids := by
  unfold Scheduler.aids passAids
  rw [passed.aidList]
  split <;> rfl

end RestrictedAccess.Scheduler
