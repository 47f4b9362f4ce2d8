/-
What a command leaves alone. A command that names a window changes that window at most, up to the
running state of schedules, which are realigned afterwards; a command with a reserved identifier
changes no window; and a command for the scheduler as a whole deletes all windows or none.
-/

import RestrictedAccess.Proofs.Scheduler.Configuration

namespace RestrictedAccess

namespace Scheduler

variable {scheduler : Scheduler}

theorem agreeOff_switchWindow (scheduler : Scheduler) (sound : scheduler.registry.Sound)
    (id : WindowId) (on : Bool) :
    Registry.AgreeOff id scheduler.registry (scheduler.switchWindow id on).1.registry := by
  unfold switchWindow
  split
  · split
    · exact Registry.AgreeOff.refl id scheduler.registry
    · rename_i active activated
      have agree := (sound.of_activate activated).2
      unfold resolveWindow
      split
      · exact agree
      · rename_i aids _
        exact agree.trans
          (Registry.agreeOff_modify active id (fun window => window.resolveIndices aids))
  · exact sound.agreeOff_deactivate id

theorem agreeOff_applyUpdate (sound : scheduler.registry.Sound) {command : Command}
    (named : command.id ≠ engineId) (reachable : command.id < firstInternalId) :
    Registry.AgreeOff command.id scheduler.registry
      (scheduler.applyUpdate command).1.registry := by
  have current := sound.getD_empty command.id
  have carried := sound.filed.id_getD_empty command.id
  unfold applyUpdate
  simp only
  split
  · exact Registry.AgreeOff.refl command.id scheduler.registry
  · rename_i updated applied
    obtain ⟨updatedSound, same⟩ := Command.sound_applyTo current (carried.symm ▸ reachable) applied
    have filed : updated.id = command.id := same.trans carried
    obtain ⟨stored, replaced, storedSound, agree, _⟩ :=
      sound.replace updatedSound (filed ▸ named)
    rw [filed] at agree
    have switched (on : Bool) := agree.trans (agreeOff_switchWindow
      { scheduler with registry := stored } storedSound command.id on)
    rw [replaced]
    simp only
    split
    · exact switched command.flags.enable
    · exact switched false

theorem agreeOff_applyWithoutUpdate (sound : scheduler.registry.Sound) (command : Command) :
    Registry.AgreeOff command.id scheduler.registry
      (scheduler.applyWithoutUpdate command).1.registry := by
  unfold applyWithoutUpdate
  split
  · exact Registry.AgreeOff.refl command.id scheduler.registry
  · split
    · exact sound.agreeOff_delete command.id
    · exact scheduler.agreeOff_switchWindow sound command.id command.flags.enable

theorem registry_applyCommand_of_reserved {command : Command}
    (reserved : firstInternalId ≤ command.id) :
    (scheduler.applyCommand command).1.registry = scheduler.registry := by
  unfold applyCommand
  rw [if_pos reserved]

theorem registry_applyCommand_of_engine {command : Command} (engine : command.id = engineId) :
    (scheduler.applyCommand command).1.registry =
      if command.flags.delete then .empty else scheduler.registry := by
  have switched : (if command.flags.enable then scheduler.enable
      else scheduler.disable).registry = scheduler.registry := by
    split
    · exact (undisturbed_enable scheduler).registry
    · exact (undisturbed_disable scheduler).registry
  unfold applyCommand
  rw [if_neg (by rw [engine]; decide), if_pos engine]
  unfold applyToEngine
  simp only
  split
  · rfl
  · exact switched

theorem agreeOff_applyCommand (sound : scheduler.registry.Sound) {command : Command}
    (named : command.id ≠ engineId) :
    Registry.AgreeOff command.id scheduler.registry
      (scheduler.applyCommand command).1.registry := by
  by_cases reserved : firstInternalId ≤ command.id
  · rw [registry_applyCommand_of_reserved reserved]
    exact Registry.AgreeOff.refl command.id scheduler.registry
  · unfold applyCommand
    rw [if_neg reserved, if_neg named]
    split
    · exact agreeOff_applyUpdate sound named (UInt16.not_le.mp reserved)
    · exact agreeOff_applyWithoutUpdate sound command

/-- Realigning the schedules afterwards touches running state only. -/
theorem runsTo_processCommand (sound : scheduler.registry.Sound) (command : Command) :
    Registry.RunsTo (scheduler.applyCommand command).1.registry
      (scheduler.processCommand command).scheduler.registry := by
  obtain ⟨later, applied, configured⟩ := applyCommand_configured sound command
  have appliedSound : (scheduler.applyCommand command).1.registry.Sound := by
    rw [applied.registry]
    exact configured.sound sound
  have triggered := undisturbed_triggerUpdate
    (scheduler.applyCommand command).1.settleConfiguration false
  unfold processCommand
  simp only [triggered.registry]
  exact (runsTo_settleConfiguration appliedSound).1

end Scheduler

end RestrictedAccess
