/-
Conditions on stored windows along histories. Windows come into a registry empty, as the
protection window or by patching another window, and a few changes are made where a window is
stored. A condition that all of these keep at the key that is written holds of every window a
reachable scheduler stores, whether the window is active or not.
-/

import RestrictedAccess.Proofs.Scheduler.CommandFrame
import RestrictedAccess.Proofs.Scheduler.PassWindows

namespace RestrictedAccess

open Station

/-- A condition on keys and windows that no write of the scheduler breaks. -/
structure WindowConfig.Lasting (condition : WindowId → WindowConfig → Prop) : Prop where
  empty : ∀ id, id < firstInternalId → condition id (.empty id)
  protection : ∀ aid, condition protectionId (protectionWindow aid)
  patched : ∀ (command : Command) (window patched : WindowConfig),
    command.id < firstInternalId → condition command.id window →
      command.applyTo window = .ok patched → condition command.id patched
  resolved : ∀ aids id window, condition id window → condition id (window.resolveIndices aids)
  counted : ∀ id window, condition id window → condition id window.counted
  realigned : ∀ id window, condition id window → condition id window.realigned
  advanced : ∀ aids id window, condition id window → condition id (window.advanced aids)

namespace Scheduler

section Operations

variable {condition : WindowId → WindowConfig → Prop} {scheduler : Scheduler}

theorem allStored_switchWindow (lasting : WindowConfig.Lasting condition)
    (all : scheduler.registry.AllStored condition) (id : WindowId) (on : Bool) :
    (scheduler.switchWindow id on).1.registry.AllStored condition := by
  unfold switchWindow
  split
  · split
    · exact all
    · rename_i registry activated
      have stored := all.activate activated
      unfold resolveWindow
      split
      · exact stored
      · rename_i aids _
        exact stored.modify (lasting.resolved aids id)
  · exact all.deactivate id

theorem allStored_applyUpdate (lasting : WindowConfig.Lasting condition)
    (filed : scheduler.registry.Filed) (all : scheduler.registry.AllStored condition)
    {command : Command} (reachable : command.id < firstInternalId) :
    (scheduler.applyUpdate command).1.registry.AllStored condition := by
  have current : condition command.id
      ((scheduler.registry.find? command.id).getD (.empty command.id)) := by
    cases found : scheduler.registry.find? command.id with
    | none => exact lasting.empty command.id reachable
    | some window => exact all command.id window found
  unfold applyUpdate
  simp only
  split
  · exact all
  · rename_i updated applied
    -- The patched window goes to the key of its own identifier, and that is the one asked for.
    have carried : updated.id = command.id :=
      (Command.patched applied).id.trans (filed.id_getD_empty command.id)
    have holds := lasting.patched command _ updated reachable current applied
    split
    · exact all
    · rename_i registry replaced
      have stored := all.replace (carried.symm ▸ holds) replaced
      split
      · exact allStored_switchWindow lasting stored command.id command.flags.enable
      · exact allStored_switchWindow lasting stored command.id false

theorem allStored_applyCommand (lasting : WindowConfig.Lasting condition)
    (filed : scheduler.registry.Filed) (all : scheduler.registry.AllStored condition)
    (command : Command) :
    (scheduler.applyCommand command).1.registry.AllStored condition := by
  by_cases reserved : firstInternalId ≤ command.id
  · rw [registry_applyCommand_of_reserved reserved]
    exact all
  · by_cases engine : command.id = engineId
    · rw [registry_applyCommand_of_engine engine]
      split
      · exact Registry.allStored_empty condition
      · exact all
    · unfold applyCommand
      rw [if_neg reserved, if_neg engine]
      split
      · exact allStored_applyUpdate lasting filed all (UInt16.not_le.mp reserved)
      · unfold applyWithoutUpdate
        split
        · exact all
        · split
          · exact all.delete command.id
          · exact allStored_switchWindow lasting all command.id command.flags.enable

theorem allStored_processCommand (lasting : WindowConfig.Lasting condition)
    (filed : scheduler.registry.Filed) (all : scheduler.registry.AllStored condition)
    (command : Command) :
    (scheduler.processCommand command).scheduler.registry.AllStored condition := by
  have applied := allStored_applyCommand lasting filed all command
  have triggered := undisturbed_triggerUpdate
    (scheduler.applyCommand command).1.settleConfiguration false
  unfold processCommand
  simp only [triggered.registry]
  unfold settleConfiguration
  split
  · exact applied
  · exact applied.modifyAll _ lasting.realigned

theorem allStored_withProtection {registry : Registry} (lasting : WindowConfig.Lasting condition)
    (all : registry.AllStored condition) (aid : Aid) :
    (registry.withProtection aid).AllStored condition := by
  unfold Registry.withProtection
  split
  · -- The window that was just made is empty, and the protection window is filed over it.
    intro id found present
    rw [Registry.find?_put] at present
    split at present
    · rename_i same
      cases present
      exact same ▸ lasting.protection aid
    · rename_i elsewhere
      rw [Registry.find?_put, if_neg elsewhere] at present
      exact all id found present
  · split
    · exact all.put (lasting.protection aid)
    · exact all

theorem allStored_installProtection (lasting : WindowConfig.Lasting condition)
    (all : scheduler.registry.AllStored condition) (aid : Aid) :
    (scheduler.installProtection aid).1.registry.AllStored condition := by
  obtain ⟨active, activation, installed⟩ := scheduler.installProtection_eq aid
  rw [installed, (undisturbed_triggerUpdate _ false).registry, (undisturbed_enable _).registry]
  exact (allStored_withProtection lasting all aid).activate activation

theorem allStored_runPass (lasting : WindowConfig.Lasting condition) (sound : scheduler.Sound)
    (all : scheduler.registry.AllStored condition) :
    scheduler.runPass.scheduler.registry.AllStored condition := by
  cases enabled : scheduler.enabled with
  | false =>
      rw [runPass_disabled enabled]
      exact all
  | true =>
      have refreshed : scheduler.refreshedRegistry.AllStored condition := by
        unfold refreshedRegistry
        split
        · exact all.modifyAll _ (lasting.resolved _)
        · exact all
      have counted : scheduler.passCount.registry.AllStored condition := by
        unfold passCount
        split
        · exact refreshed.countBeacon lasting.counted
        · exact refreshed
      rw [(sound.runPass_enabled enabled).2.registry]
      exact counted.modifyAll _ (lasting.advanced _)

theorem allStored_after (lasting : WindowConfig.Lasting condition) (sound : scheduler.Sound)
    (all : scheduler.registry.AllStored condition) (operation : Operation) :
    (scheduler.after operation).registry.AllStored condition := by
  have same {next : Scheduler} (registry : next.registry = scheduler.registry) :
      next.registry.AllStored condition := registry ▸ all
  cases operation with
  | command command => exact allStored_processCommand lasting sound.registry.filed all command
  | associate aid => exact same (scheduler.takeStations_spec _).1
  | disassociate aid => exact same (scheduler.takeStations_spec _).1
  | beaconSent => exact same (undisturbed_beaconSent scheduler).registry
  | triggerUpdate refreshAids => exact same (undisturbed_triggerUpdate scheduler _).registry
  | pass => exact allStored_runPass lasting sound all
  | enable => exact same (undisturbed_enable scheduler).registry
  | disable => exact same (undisturbed_disable scheduler).registry
  | setDtimPeriod period => exact all
  | teardown => exact Registry.allStored_empty condition
  | installProtection aid => exact allStored_installProtection lasting all aid
  | removeProtection =>
      have kept := undisturbed_triggerUpdate
        { scheduler with registry := scheduler.registry.deactivate protectionId } false
      change (Scheduler.triggerUpdate _ false).1.registry.AllStored condition
      rw [kept.registry]
      exact all.deactivate protectionId

end Operations

/-- What every change of a window keeps holds of all stored windows, at any time. -/
theorem Reachable.allStored {condition : WindowId → WindowConfig → Prop} {scheduler : Scheduler}
    (reachable : Reachable scheduler) (lasting : WindowConfig.Lasting condition) :
    scheduler.registry.AllStored condition := by
  induction reachable with
  | created creation =>
      rw [(blank_of_create creation).registry]
      exact Registry.allStored_empty condition
  | performed operation earlier ih => exact allStored_after lasting earlier.sound ih operation

end Scheduler

end RestrictedAccess
