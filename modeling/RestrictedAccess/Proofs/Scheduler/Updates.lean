/-
The functions of a scheduler as updates of its parts. Each of them is described by one equation,
and what other modules say about operations starts from these equations.
-/

import RestrictedAccess.Proofs.Registry.Lookup
import RestrictedAccess.Scheduler.Operation

namespace RestrictedAccess

open Station

namespace Registry

variable {registry : Registry}

theorem activate_of_stored {id : WindowId} {window : WindowConfig}
    (found : registry.find? id = some window) :
    ∃ active, registry.activate id = .ok active := by
  unfold activate
  rw [found]
  simp only
  split <;> exact ⟨_, rfl⟩

/-- The registry with the protection window of a station stored, before the window is activated. -/
def withProtection (registry : Registry) (aid : Aid) : Registry :=
  match registry.find? protectionId with
  | none =>
      (registry.put protectionId (.empty protectionId)).put protectionId (protectionWindow aid)
  | some window =>
      if window.slot.duration ≠ protectionDuration ∨ window.startAid ≠ aid then
        registry.put protectionId (protectionWindow aid)
      else registry

theorem stored_withProtection (registry : Registry) (aid : Aid) :
    ∃ window, (registry.withProtection aid).find? protectionId = some window := by
  have written (registry : Registry) :
      (registry.put protectionId (protectionWindow aid)).find? protectionId =
        some (protectionWindow aid) :=
    (find?_put registry _ _ _).trans (if_pos rfl)
  unfold withProtection
  split
  · exact ⟨_, written _⟩
  · rename_i window found
    split
    · exact ⟨_, written _⟩
    · exact ⟨window, found⟩

end Registry

namespace Scheduler

theorem enable_eq (scheduler : Scheduler) :
    scheduler.enable =
      { scheduler with
        enabled := true
        pending := { scheduler.pending with
          enabledChanged := scheduler.pending.enabledChanged || !scheduler.enabled } } := by
  rcases scheduler with ⟨_, _, _, _, _, _, _, enabled, _, _⟩
  cases enabled with
  | false => simp [enable]
  | true => simp [enable]

theorem disable_eq (scheduler : Scheduler) :
    scheduler.disable =
      { scheduler with
        enabled := false
        pending := { scheduler.pending with
          enabledChanged := scheduler.pending.enabledChanged || scheduler.enabled } } := by
  rcases scheduler with ⟨_, _, _, _, _, _, _, enabled, _, _⟩
  cases enabled with
  | false => simp [disable]
  | true => simp [disable]

theorem triggerUpdate_eq (scheduler : Scheduler) (refreshAids : Bool) :
    scheduler.triggerUpdate refreshAids =
      ({ scheduler with
          pending := { scheduler.pending with
            refreshAids := scheduler.pending.refreshAids ||
              (scheduler.enabled && (scheduler.aidList.isNone || refreshAids)) } },
        scheduler.enabled || scheduler.pending.enabledChanged) := by
  rcases scheduler with ⟨_, _, _, aidList, _, _, _, enabled, _, _⟩
  cases enabled with
  | false => simp [triggerUpdate]
  | true =>
      cases wanted : aidList.isNone || refreshAids with
      | false => simp [triggerUpdate, wanted]
      | true => simp [triggerUpdate, wanted]

theorem takeStations_changed (scheduler : Scheduler) (stations : Bitmap) :
    scheduler.takeStations (.ok (stations, true)) =
      ({ scheduler with
          stations := stations
          pending := { scheduler.pending with refreshAids := true } },
        .ok (scheduler.enabled || scheduler.pending.enabledChanged)) := by
  unfold takeStations membershipChanged
  simp only [if_true, triggerUpdate_eq, Bool.true_or]

theorem beaconSent_eq (scheduler : Scheduler) :
    scheduler.beaconSent.scheduler =
      { scheduler with
        pending := { scheduler.pending with
          beaconSent := scheduler.pending.beaconSent ||
            (scheduler.enabled && scheduler.everyBeacon) } } := by
  unfold beaconSent
  cases asked : scheduler.enabled && scheduler.everyBeacon with
  | false => simp
  | true => simp

theorem beaconSent_answer_eq (scheduler : Scheduler) :
    scheduler.beaconSent.answer = (scheduler.enabled && scheduler.everyBeacon) := by
  unfold beaconSent
  cases asked : scheduler.enabled && scheduler.everyBeacon with
  | false => rfl
  | true => rfl

theorem installProtection_eq (scheduler : Scheduler) (aid : Aid) :
    ∃ active, (scheduler.registry.withProtection aid).activate protectionId = .ok active ∧
      scheduler.installProtection aid =
        (({ scheduler with registry := active }.enable.triggerUpdate false).1, .ok true) := by
  obtain ⟨window, stored⟩ := scheduler.registry.stored_withProtection aid
  obtain ⟨active, activation⟩ := Registry.activate_of_stored stored
  refine ⟨active, activation, ?_⟩
  have needed : ({ scheduler with registry := active }.enable.triggerUpdate false).2 = true := by
    rw [triggerUpdate_eq, enable_eq]
    rfl
  unfold Registry.withProtection at activation
  unfold installProtection Registry.findOrCreate
  rw [if_neg (by decide)]
  split at activation
  · rename_i absent
    -- A window that was just made is empty, so it is written.
    have written : (WindowConfig.empty protectionId).slot.duration ≠ protectionDuration ∨
        (WindowConfig.empty protectionId).startAid ≠ aid := Or.inl (by decide)
    simp only [absent, if_pos written, activation, needed]
  · rename_i found
    simp only [found, activation, needed]

/-! ### Commands -/

theorem switchWindow_eq (scheduler : Scheduler) (id : WindowId) (on : Bool) :
    ∃ registry, (scheduler.switchWindow id on).1 = { scheduler with registry } := by
  unfold switchWindow
  split
  · split
    · exact ⟨scheduler.registry, rfl⟩
    · unfold resolveWindow
      split <;> exact ⟨_, rfl⟩
  · exact ⟨_, rfl⟩

theorem applyCommand_eq (scheduler : Scheduler) (command : Command) :
    ∃ registry, (scheduler.applyCommand command).1 =
      { (if command.id = engineId then
          if command.flags.enable then scheduler.enable else scheduler.disable
        else scheduler) with registry } := by
  unfold applyCommand
  by_cases engine : command.id = engineId
  · rw [if_neg (by rw [engine]; decide), if_pos engine, if_pos engine]
    unfold applyToEngine
    simp only
    split <;> exact ⟨_, rfl⟩
  · rw [if_neg engine, if_neg engine]
    split
    · exact ⟨_, rfl⟩
    · split
      · unfold applyUpdate
        simp only
        split
        · exact ⟨_, rfl⟩
        · split
          · exact ⟨_, rfl⟩
          · split
            · obtain ⟨registry, switched⟩ := switchWindow_eq _ command.id command.flags.enable
              exact ⟨registry, switched⟩
            · obtain ⟨registry, switched⟩ := switchWindow_eq _ command.id false
              exact ⟨registry, switched⟩
      · unfold applyWithoutUpdate
        split
        · exact ⟨_, rfl⟩
        · split
          · exact ⟨_, rfl⟩
          · exact scheduler.switchWindow_eq command.id command.flags.enable

theorem settleConfiguration_eq (scheduler : Scheduler) :
    ∃ registry burst everyBeacon, scheduler.settleConfiguration =
      { scheduler with registry, burst, everyBeacon } := by
  unfold settleConfiguration
  split <;> exact ⟨_, _, _, rfl⟩

end Scheduler

end RestrictedAccess
