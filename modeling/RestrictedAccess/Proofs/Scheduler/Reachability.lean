/-
The invariant along histories. Every operation keeps a scheduler sound, so every scheduler that a
history leads to is sound.
-/

import RestrictedAccess.Proofs.Scheduler.Configuration
import RestrictedAccess.Proofs.Scheduler.PassEffect

namespace RestrictedAccess

open Station

def Operation.reports? (aid : Aid) : Operation → Option Bool
  | .associate station => if station = aid then some true else none
  | .disassociate station => if station = aid then some false else none
  | _ => none

namespace Scheduler

variable {scheduler : Scheduler}

theorem undisturbed_disabledPass (scheduler : Scheduler) :
    Undisturbed scheduler scheduler.disabledPass :=
  ⟨rfl, rfl, rfl⟩

theorem Passed.runsTo {later : Scheduler} (passed : Passed scheduler later)
    (sound : scheduler.Sound) : Registry.RunsTo scheduler.passCount.registry later.registry := by
  rw [passed.registry]
  exact Registry.runsTo_modifyAll _ sound.nodup_selection
    (WindowConfig.resting_advanced scheduler.passAids)

theorem Passed.runsTo_of_refreshed {later : Scheduler} (passed : Passed scheduler later)
    (sound : scheduler.Sound) : Registry.RunsTo scheduler.refreshedRegistry later.registry :=
  sound.runsTo_passCount.trans (passed.runsTo sound)

theorem Sound.stations_runPass (sound : scheduler.Sound) :
    scheduler.runPass.scheduler.stations = scheduler.stations := by
  cases enabled : scheduler.enabled with
  | false =>
      rw [runPass_disabled enabled]
      exact (undisturbed_disabledPass scheduler).stations
  | true => exact (sound.runPass_enabled enabled).2.stations

theorem Sound.runPass (sound : scheduler.Sound) : scheduler.runPass.scheduler.Sound := by
  cases enabled : scheduler.enabled with
  | false =>
      have kept := scheduler.undisturbed_disabledPass
      rw [runPass_disabled enabled]
      exact
        { registry := kept.registry ▸ sound.registry
          stations := kept.stations ▸ sound.stations
          few := sound.few }
  | true =>
      obtain ⟨_, passed⟩ := sound.runPass_enabled enabled
      refine
        { registry := (passed.runsTo sound).sound sound.counted
          stations := passed.stations ▸ sound.stations
          few := ?_ }
      unfold aids
      rw [passed.aidList]
      split
      · exact scheduler.stations.size_members_le
      · exact sound.few

theorem stations_takeStations (sound : scheduler.stations.Sound)
    {change : Except Fault (Bitmap × Bool)}
    (changed : ∀ stations effective, change = .ok (stations, effective) → stations.Sound) :
    (scheduler.takeStations change).1.stations.Sound := by
  obtain ⟨_, _, stations⟩ := scheduler.takeStations_spec change
  rcases stations with kept | ⟨stations, effective, result, taken⟩
  · exact kept ▸ sound
  · exact taken ▸ changed stations effective result

theorem Sound.stations_after_of_unreported (sound : scheduler.Sound) {operation : Operation}
    (unreported : ∀ aid, operation.reports? aid = none) :
    (scheduler.after operation).stations = scheduler.stations := by
  cases operation with
  | command command =>
      obtain ⟨_, _, _, _, stations, _⟩ := processCommand_spec sound.registry command
      exact stations
  | associate aid =>
      have reported : some true = none := (if_pos rfl).symm.trans (unreported aid)
      cases reported
  | disassociate aid =>
      have reported : some false = none := (if_pos rfl).symm.trans (unreported aid)
      cases reported
  | beaconSent => exact (undisturbed_beaconSent scheduler).stations
  | triggerUpdate refreshAids => exact (undisturbed_triggerUpdate scheduler refreshAids).stations
  | pass => exact sound.stations_runPass
  | enable => exact (undisturbed_enable scheduler).stations
  | disable => exact (undisturbed_disable scheduler).stations
  | setDtimPeriod period => rfl
  | teardown => rfl
  | installProtection aid =>
      obtain ⟨_, _, _, kept⟩ := installProtection_spec sound.registry aid
      exact kept.stations
  | removeProtection =>
      have kept := undisturbed_triggerUpdate
        { scheduler with registry := scheduler.registry.deactivate protectionId } false
      exact kept.stations

theorem Sound.stations_after (sound : scheduler.Sound) (operation : Operation) :
    (scheduler.after operation).stations.Sound := by
  cases operation with
  | associate aid =>
      exact stations_takeStations sound.stations
        (fun _ _ inserted => sound.stations.insert inserted)
  | disassociate aid =>
      exact stations_takeStations sound.stations
        (fun _ _ erased => sound.stations.erase erased)
  | _ =>
      rw [sound.stations_after_of_unreported]
      · exact sound.stations
      · exact fun _ => rfl

theorem Sound.after (sound : scheduler.Sound) (operation : Operation) :
    (scheduler.after operation).Sound := by
  by_cases pass : operation = .pass
  · subst pass
    exact sound.runPass
  · obtain ⟨later, reconfigured, runs, _, aidList⟩ := after_reconfigured sound.registry pass
    refine
      { registry := runs.sound (reconfigured.sound sound.registry)
        stations := sound.stations_after operation
        few := ?_ }
    unfold aids
    rw [aidList]
    exact sound.few

structure Blank (scheduler : Scheduler) : Prop where
  registry : scheduler.registry = .empty
  stations : scheduler.stations = .empty
  aidList : scheduler.aidList = none
  everyBeacon : scheduler.everyBeacon = false

theorem blank_of_create {kind : InterfaceKind} {options : SchedulerOptions}
    (creation : create kind options = .ok scheduler) : scheduler.Blank := by
  unfold create at creation
  split at creation
  · cases creation
  · split at creation
    · cases creation
    · cases creation
      split
      · exact ⟨rfl, rfl, rfl, rfl⟩
      · exact ⟨rfl, rfl, rfl, rfl⟩

theorem sound_of_create {kind : InterfaceKind} {options : SchedulerOptions}
    (creation : create kind options = .ok scheduler) : scheduler.Sound := by
  have blank := blank_of_create creation
  refine
    { registry := blank.registry ▸ Registry.sound_empty
      stations := blank.stations ▸ Bitmap.sound_empty
      few := ?_ }
  unfold aids
  rw [blank.aidList]
  exact Nat.zero_le _

theorem afterAll_kept_while {invariant : Scheduler → Prop} {allowed : Operation → Prop}
    (kept : ∀ scheduler operation, allowed operation → invariant scheduler →
      invariant (scheduler.after operation))
    (holds : invariant scheduler) {operations : List Operation}
    (all : ∀ operation, operation ∈ operations → allowed operation) :
    invariant (scheduler.afterAll operations) := by
  unfold Scheduler.afterAll
  induction operations generalizing scheduler with
  | nil => exact holds
  | cons operation rest ih =>
      exact ih (kept scheduler operation (all operation List.mem_cons_self) holds)
        (fun later member => all later (List.mem_cons_of_mem operation member))

theorem afterAll_kept {invariant : Scheduler → Prop}
    (kept : ∀ scheduler operation, invariant scheduler → invariant (scheduler.after operation))
    (holds : invariant scheduler) (operations : List Operation) :
    invariant (scheduler.afterAll operations) := by
  have kept (scheduler : Scheduler) (operation : Operation) (_allowed : True) :=
    kept scheduler operation
  exact afterAll_kept_while kept holds (fun _ _ => trivial)

theorem Sound.afterAll (sound : scheduler.Sound) (operations : List Operation) :
    (scheduler.afterAll operations).Sound :=
  afterAll_kept (fun _ operation earlier => earlier.after operation) sound operations

theorem Reachable.afterAll (reachable : Reachable scheduler) (operations : List Operation) :
    Reachable (scheduler.afterAll operations) :=
  afterAll_kept (fun _ operation earlier => .performed operation earlier) reachable operations

theorem Reachable.sound (reachable : Reachable scheduler) : scheduler.Sound := by
  induction reachable with
  | created creation => exact sound_of_create creation
  | performed operation _ ih => exact ih.after operation

end Scheduler

end RestrictedAccess
