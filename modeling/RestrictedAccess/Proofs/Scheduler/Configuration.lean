/-
What commands and the protection of scans do to the registry of a scheduler. Each outcome is one
of five: nothing, everything forgotten, one window silenced, one window activated, or the
protection window changed. Realigning afterwards touches running state only.
-/

import RestrictedAccess.Proofs.Scheduler.Updates
import RestrictedAccess.Proofs.Window.Block

namespace RestrictedAccess

open Station

/-! ### Patched windows -/

structure WindowConfig.Patched (earlier later : WindowConfig) : Prop where
  id : later.id = earlier.id
  generic : earlier.kind = .generic → later.kind = .generic
  indices : later.indices = earlier.indices ∨ later.indices = .unresolved

theorem WindowConfig.Patched.of_same {earlier later : WindowConfig} (id : later.id = earlier.id)
    (kind : later.kind = earlier.kind) (indices : later.indices = earlier.indices) :
    WindowConfig.Patched earlier later :=
  { id := id
    generic := fun same => kind.trans same
    indices := Or.inl indices }

theorem WindowConfig.Patched.trans {first second third : WindowConfig}
    (before : WindowConfig.Patched first second) (after : WindowConfig.Patched second third) :
    WindowConfig.Patched first third := by
  refine
    { id := after.id.trans before.id
      generic := fun same => after.generic (before.generic same)
      indices := ?_ }
  rcases after.indices with kept | cleared
  · rcases before.indices with keptBefore | clearedBefore
    · exact Or.inl (kept.trans keptBefore)
    · exact Or.inr (kept.trans clearedBefore)
  · exact Or.inr cleared

theorem CommandField.patched {field : CommandField} {window patched : WindowConfig}
    (applied : field.applyTo window = .ok patched) : WindowConfig.Patched window patched := by
  cases field with
  | slots windowDuration count crossesBoundary =>
      simp only [CommandField.applyTo] at applied
      split at applied
      · cases applied
      · cases applied
        exact WindowConfig.Patched.of_same rfl rfl rfl
  | group startAid endAid =>
      cases applied
      exact { id := rfl, generic := fun same => same, indices := Or.inr rfl }
  | startTime duration =>
      cases applied
      exact WindowConfig.Patched.of_same rfl rfl rfl
  | periodic periodicity validity startOffset refreshes =>
      simp only [CommandField.applyTo] at applied
      split at applied
      · cases applied
        exact WindowConfig.Patched.of_same rfl rfl rfl
      · cases applied
        exact WindowConfig.Patched.of_same rfl rfl rfl
  | spread maxSpread nominal =>
      cases applied
      exact WindowConfig.Patched.of_same rfl rfl rfl
  | kind code =>
      simp only [CommandField.applyTo] at applied
      split at applied
      · cases applied
      · split at applied
        · rename_i asked _ supported
          cases applied
          exact
            { id := rfl
              generic := fun _ => of_decide_eq_true supported
              indices := Or.inl rfl }
        · cases applied

theorem Command.patched {fields : List CommandField} {window patched : WindowConfig}
    (applied : Command.patch fields window = .ok patched) :
    WindowConfig.Patched window patched := by
  induction fields generalizing window with
  | nil =>
      cases applied
      exact WindowConfig.Patched.of_same rfl rfl rfl
  | cons field rest ih =>
      simp only [Command.patch] at applied
      split at applied
      · cases applied
      · rename_i next stepped
        exact (CommandField.patched stepped).trans (ih applied)

theorem Command.sound_applyTo {command : Command} {window patched : WindowConfig}
    (sound : window.Sound) (reachable : window.id < firstInternalId)
    (applied : command.applyTo window = .ok patched) :
    patched.Sound ∧ patched.id = window.id := by
  have changed := Command.patched applied
  refine ⟨{ generic := changed.generic rfl, ordered := ?_, internal := ?_ }, changed.id⟩
  · intro resolved
    rcases changed.indices with kept | cleared
    · rw [kept] at resolved ⊢
      exact sound.ordered resolved
    · rw [cleared] at resolved
      cases resolved
  · intro reserved
    rw [changed.id] at reserved
    exact absurd reachable (UInt16.not_lt.mpr reserved)

theorem WindowConfig.sound_empty (id : WindowId) : (WindowConfig.empty id).Sound :=
  { generic := rfl
    ordered := by intro impossible; cases impossible
    internal := fun _ => ⟨rfl, rfl⟩ }

theorem Registry.Sound.getD_empty {registry : Registry} (sound : registry.Sound) (id : WindowId) :
    ((registry.find? id).getD (.empty id)).Sound := by
  cases found : registry.find? id with
  | none => exact WindowConfig.sound_empty id
  | some window => exact sound.windows id window found

def WindowConfig.resolvedIn (aidList : Option AidList) (window : WindowConfig) : WindowConfig :=
  match aidList with
  | none => window
  | some aids => window.resolveIndices aids

theorem WindowConfig.id_resolvedIn (aidList : Option AidList) (window : WindowConfig) :
    (window.resolvedIn aidList).id = window.id := by
  cases aidList with
  | none => rfl
  | some aids => exact WindowConfig.id_resolveIndices aids window

/-! ### Switching windows -/

namespace Registry

theorem Activated.after {window : WindowConfig} {first second third : Registry}
    (activated : Activated window second third) (agree : AgreeOff window.id first second) :
    Activated window first third :=
  { activated with agree := agree.trans activated.agree }

theorem Activated.resolve {window : WindowConfig} {earlier later : Registry}
    (activated : Activated window earlier later) (aids : AidList) :
    Activated (window.resolveIndices aids) earlier
      (later.modify window.id (fun stored => stored.resolveIndices aids)) := by
  have id := WindowConfig.id_resolveIndices aids window
  have kind := WindowConfig.isPeriodic_resolveIndices aids window
  refine
    { sound := ?_
      agree := ?_
      found := ?_
      plain := ?_
      periodic := ?_ }
  · exact activated.sound.modifyAll (List.pairwise_singleton _ window.id)
      (WindowConfig.id_resolveIndices aids) (WindowConfig.isPeriodic_resolveIndices aids)
      (fun _ windowSound => windowSound.resolveIndices aids)
  · rw [id]
    exact activated.agree.trans
      (agreeOff_modify later window.id (fun stored => stored.resolveIndices aids))
  · rw [id, find?_modify later window.id (fun stored => stored.resolveIndices aids), if_pos rfl,
      activated.found, Option.map_some]
  · rw [id, kind, plain_modify]
    exact activated.plain
  · rw [id, kind, periodic_modify]
    exact activated.periodic

end Registry

namespace Scheduler

theorem switchWindow_on (scheduler : Scheduler) (sound : scheduler.registry.Sound)
    {id : WindowId} {window : WindowConfig} (found : scheduler.registry.find? id = some window) :
    ∃ later, scheduler.switchWindow id true = ({ scheduler with registry := later }, .ok ()) ∧
      Registry.Activated (window.resolvedIn scheduler.aidList) scheduler.registry later := by
  have carried : window.id = id := sound.filed id window found
  subst carried
  obtain ⟨active, activation, activated⟩ := sound.activate found
  unfold switchWindow resolveWindow WindowConfig.resolvedIn
  rw [if_pos rfl, activation]
  simp only
  cases scheduler.aidList with
  | none => exact ⟨active, rfl, activated⟩
  | some aids => exact ⟨_, rfl, activated.resolve aids⟩

/-! ### Outcomes -/

def Enables (registry : Registry) (command : Command) : Prop :=
  command.id ≠ engineId ∧ command.id < firstInternalId ∧ command.flags.update = false ∧
    command.flags.delete = false ∧ command.flags.enable = true ∧
    ∃ window, registry.find? command.id = some window

/-- What a command for one window makes of the registry, before schedules are realigned. -/
inductive Configured (earlier : Registry) (aidList : Option AidList) (command : Command) :
    Registry → Prop
  | kept (idle : ¬ Enables earlier command) : Configured earlier aidList command earlier
  | cleared (idle : ¬ Enables earlier command) : Configured earlier aidList command .empty
  | silenced {later : Registry} (idle : ¬ Enables earlier command) (sound : later.Sound)
      (agree : Registry.AgreeOff command.id earlier later)
      (inactive : command.id ∉ later.active) : Configured earlier aidList command later
  | activated {later : Registry} {window : WindowConfig} (filed : window.id = command.id)
      (origin : command.flags.update = true ∧ window.isValid = true ∨
        Enables earlier command ∧ earlier.find? command.id = some window)
      (activated : Registry.Activated (window.resolvedIn aidList) earlier later) :
      Configured earlier aidList command later

variable {scheduler : Scheduler}

theorem applyUpdate_configured (sound : scheduler.registry.Sound) {command : Command}
    (named : command.id ≠ engineId) (reachable : command.id < firstInternalId)
    (updates : command.flags.update = true) :
    ∃ later, (scheduler.applyUpdate command).1 = { scheduler with registry := later } ∧
      Configured scheduler.registry scheduler.aidList command later := by
  have idle : ¬ Enables scheduler.registry command := by
    rintro ⟨_, _, without, _⟩
    rw [updates] at without
    cases without
  have current := sound.getD_empty command.id
  have carried := sound.filed.id_getD_empty command.id
  unfold applyUpdate
  simp only
  split
  · exact ⟨scheduler.registry, rfl, .kept idle⟩
  · rename_i updated applied
    obtain ⟨updatedSound, same⟩ := Command.sound_applyTo current (carried.symm ▸ reachable) applied
    have filed : updated.id = command.id := same.trans carried
    obtain ⟨stored, replaced, storedSound, agree, found⟩ :=
      sound.replace updatedSound (filed ▸ named)
    have silent : Configured scheduler.registry scheduler.aidList command
        (stored.deactivate command.id) :=
      .silenced idle (storedSound.deactivate command.id)
        ((filed ▸ agree).trans (storedSound.agreeOff_deactivate command.id))
        (storedSound.not_active_deactivate command.id)
    rw [replaced]
    simp only
    split
    · rename_i valid
      cases switched : command.flags.enable with
      | false => exact ⟨stored.deactivate command.id, rfl, silent⟩
      | true =>
          obtain ⟨later, on, activated⟩ :=
            switchWindow_on { scheduler with registry := stored } storedSound found
          rw [filed] at on
          rw [on]
          refine ⟨later, rfl, .activated filed (Or.inl ⟨updates, valid⟩) (activated.after ?_)⟩
          rw [WindowConfig.id_resolvedIn]
          exact agree
    · exact ⟨stored.deactivate command.id, rfl, silent⟩

theorem applyWithoutUpdate_configured (sound : scheduler.registry.Sound) {command : Command}
    (named : command.id ≠ engineId) (reachable : command.id < firstInternalId)
    (without : command.flags.update = false) :
    ∃ later, (scheduler.applyWithoutUpdate command).1 = { scheduler with registry := later } ∧
      Configured scheduler.registry scheduler.aidList command later := by
  unfold applyWithoutUpdate
  split
  · rename_i absent
    refine ⟨scheduler.registry, rfl, .kept ?_⟩
    rintro ⟨_, _, _, _, _, window, found⟩
    rw [absent] at found
    cases found
  · rename_i window found
    have filed : window.id = command.id := sound.filed command.id window found
    split
    · rename_i deletes
      refine ⟨scheduler.registry.delete command.id, rfl, .silenced ?_ (sound.delete command.id)
        (sound.agreeOff_delete command.id) (sound.not_active_deactivate command.id)⟩
      rintro ⟨_, _, _, keeps, _⟩
      rw [deletes] at keeps
      cases keeps
    · rename_i keeps
      cases switched : command.flags.enable with
      | false =>
          refine ⟨scheduler.registry.deactivate command.id, rfl, .silenced ?_
            (sound.deactivate command.id) (sound.agreeOff_deactivate command.id)
            (sound.not_active_deactivate command.id)⟩
          rintro ⟨_, _, _, _, on, _⟩
          rw [switched] at on
          cases on
      | true =>
          obtain ⟨later, on, activated⟩ := scheduler.switchWindow_on sound found
          rw [on]
          refine ⟨later, rfl, .activated filed (Or.inr ⟨?_, found⟩) activated⟩
          exact ⟨named, reachable, without, eq_false_of_ne_true keeps, switched, window, found⟩

/-! ### Operations apart from passes -/

structure Undisturbed (earlier later : Scheduler) : Prop where
  registry : later.registry = earlier.registry
  stations : later.stations = earlier.stations
  aidList : later.aidList = earlier.aidList

theorem Undisturbed.trans {first second third : Scheduler} (before : Undisturbed first second)
    (after : Undisturbed second third) : Undisturbed first third :=
  { registry := after.registry.trans before.registry
    stations := after.stations.trans before.stations
    aidList := after.aidList.trans before.aidList }

theorem undisturbed_enable (scheduler : Scheduler) : Undisturbed scheduler scheduler.enable := by
  rw [enable_eq]
  exact ⟨rfl, rfl, rfl⟩

theorem undisturbed_disable (scheduler : Scheduler) : Undisturbed scheduler scheduler.disable := by
  rw [disable_eq]
  exact ⟨rfl, rfl, rfl⟩

theorem undisturbed_triggerUpdate (scheduler : Scheduler) (refreshAids : Bool) :
    Undisturbed scheduler (scheduler.triggerUpdate refreshAids).1 := by
  rw [triggerUpdate_eq]
  exact ⟨rfl, rfl, rfl⟩

theorem undisturbed_beaconSent (scheduler : Scheduler) :
    Undisturbed scheduler scheduler.beaconSent.scheduler := by
  rw [beaconSent_eq]
  exact ⟨rfl, rfl, rfl⟩

theorem applyToEngine_configured (scheduler : Scheduler) {command : Command}
    (engine : command.id = engineId) :
    ∃ later, Undisturbed { scheduler with registry := later } (scheduler.applyToEngine command) ∧
      Configured scheduler.registry scheduler.aidList command later := by
  have idle : ¬ Enables scheduler.registry command := fun enables => enables.1 engine
  have switched : Undisturbed scheduler
      (if command.flags.enable then scheduler.enable else scheduler.disable) := by
    split
    · exact scheduler.undisturbed_enable
    · exact scheduler.undisturbed_disable
  unfold applyToEngine
  simp only
  split
  · exact ⟨.empty, ⟨rfl, switched.stations, switched.aidList⟩, .cleared idle⟩
  · exact ⟨scheduler.registry, switched, .kept idle⟩

theorem applyCommand_configured (sound : scheduler.registry.Sound) (command : Command) :
    ∃ later, Undisturbed { scheduler with registry := later } (scheduler.applyCommand command).1 ∧
      Configured scheduler.registry scheduler.aidList command later := by
  unfold applyCommand
  split
  · rename_i reserved
    refine ⟨scheduler.registry, ⟨rfl, rfl, rfl⟩, .kept ?_⟩
    rintro ⟨_, reachable, _⟩
    exact UInt16.not_lt.mpr reserved reachable
  · rename_i unreserved
    have reachable : command.id < firstInternalId := UInt16.not_le.mp unreserved
    split
    · rename_i engine
      exact scheduler.applyToEngine_configured engine
    · rename_i named
      split
      · rename_i updates
        obtain ⟨later, applied, configured⟩ := applyUpdate_configured sound named reachable updates
        exact ⟨later, applied ▸ ⟨rfl, rfl, rfl⟩, configured⟩
      · rename_i without
        obtain ⟨later, applied, configured⟩ :=
          applyWithoutUpdate_configured sound named reachable (eq_false_of_ne_true without)
        exact ⟨later, applied ▸ ⟨rfl, rfl, rfl⟩, configured⟩

theorem Configured.sound {earlier later : Registry} {aidList : Option AidList} {command : Command}
    (configured : Configured earlier aidList command later) (sound : earlier.Sound) :
    later.Sound := by
  cases configured with
  | kept _ => exact sound
  | cleared _ => exact Registry.sound_empty
  | silenced _ later _ _ => exact later
  | activated _ _ activated => exact activated.sound

theorem runsTo_settleConfiguration (sound : scheduler.registry.Sound) :
    Registry.RunsTo scheduler.registry scheduler.settleConfiguration.registry ∧
      scheduler.settleConfiguration.registry.active = scheduler.registry.active ∧
      scheduler.settleConfiguration.stations = scheduler.stations ∧
      scheduler.settleConfiguration.aidList = scheduler.aidList := by
  unfold settleConfiguration
  split
  · exact ⟨Registry.RunsTo.refl scheduler.registry, rfl, rfl, rfl⟩
  · exact ⟨sound.runsTo_realign, scheduler.registry.active_realign, rfl, rfl⟩

/-- What an operation other than a pass makes of the registry, apart from running state. -/
inductive Reconfigured (earlier : Registry) (aidList : Option AidList) :
    Operation → Registry → Prop
  | untouched {operation : Operation}
      (other : ∀ command, operation ≠ .command command) :
      Reconfigured earlier aidList operation earlier
  | forgotten {operation : Operation}
      (other : ∀ command, operation ≠ .command command) :
      Reconfigured earlier aidList operation .empty
  | commanded {command : Command} {later : Registry}
      (configured : Configured earlier aidList command later) :
      Reconfigured earlier aidList (.command command) later
  | protection {operation : Operation} {later : Registry}
      (other : ∀ command, operation ≠ .command command) (sound : later.Sound)
      (agree : Registry.AgreeOff protectionId earlier later) :
      Reconfigured earlier aidList operation later

theorem Reconfigured.sound {earlier later : Registry} {aidList : Option AidList}
    {operation : Operation} (reconfigured : Reconfigured earlier aidList operation later)
    (sound : earlier.Sound) : later.Sound := by
  cases reconfigured with
  | untouched _ => exact sound
  | forgotten _ => exact Registry.sound_empty
  | commanded configured => exact configured.sound sound
  | protection _ later _ => exact later

theorem sound_protectionWindow (aid : Aid) : (protectionWindow aid).Sound :=
  { generic := rfl
    ordered := by intro impossible; cases impossible
    internal := fun _ => ⟨rfl, rfl⟩ }

theorem not_periodic_of_internal {registry : Registry} (sound : registry.Sound) {id : WindowId}
    (reserved : firstInternalId ≤ id) : id ∉ registry.periodic := by
  intro member
  obtain ⟨window, found, periodic⟩ := sound.periodicStored id member
  unfold WindowConfig.isPeriodic at periodic
  rw [(sound.internal_of_found found reserved).1] at periodic
  cases periodic

theorem sound_put_internal {registry : Registry} (sound : registry.Sound) {window : WindowConfig}
    (windowSound : window.Sound) (reserved : firstInternalId ≤ window.id) :
    (registry.put window.id window).Sound := by
  apply sound.put rfl windowSound
  · intro _member
    unfold WindowConfig.isPeriodic
    rw [(windowSound.internal reserved).1]
    rfl
  · intro member
    exact absurd member (not_periodic_of_internal sound reserved)

theorem sound_withProtection {registry : Registry} (sound : registry.Sound) (aid : Aid) :
    (registry.withProtection aid).Sound ∧
      Registry.AgreeOff protectionId registry (registry.withProtection aid) := by
  have reserved : firstInternalId ≤ protectionId := by decide
  have written {current : Registry} (currentSound : current.Sound) :
      (current.put protectionId (protectionWindow aid)).Sound :=
    sound_put_internal currentSound (sound_protectionWindow aid) reserved
  have agree (current : Registry) :
      Registry.AgreeOff protectionId current
        (current.put protectionId (protectionWindow aid)) :=
    Registry.agreeOff_put current protectionId (protectionWindow aid)
  unfold Registry.withProtection
  split
  · have createdSound : (registry.put protectionId (.empty protectionId)).Sound :=
      sound_put_internal sound (WindowConfig.sound_empty protectionId) reserved
    have createdAgree : Registry.AgreeOff protectionId registry
        (registry.put protectionId (.empty protectionId)) :=
      Registry.agreeOff_put registry protectionId (.empty protectionId)
    exact ⟨written createdSound, createdAgree.trans (agree _)⟩
  · split
    · exact ⟨written sound, agree registry⟩
    · exact ⟨sound, Registry.AgreeOff.refl _ _⟩

theorem installProtection_spec (sound : scheduler.registry.Sound) (aid : Aid) :
    ∃ later, later.Sound ∧ Registry.AgreeOff protectionId scheduler.registry later ∧
      Undisturbed { scheduler with registry := later } (scheduler.installProtection aid).1 := by
  obtain ⟨storedSound, storedAgree⟩ := sound_withProtection sound aid
  obtain ⟨active, activation, installed⟩ := scheduler.installProtection_eq aid
  obtain ⟨activeSound, activeAgree⟩ := storedSound.of_activate activation
  refine ⟨active, activeSound, storedAgree.trans activeAgree, ?_⟩
  rw [installed]
  exact (undisturbed_enable { scheduler with registry := active }).trans
    (undisturbed_triggerUpdate _ false)

theorem processCommand_spec (sound : scheduler.registry.Sound) (command : Command) :
    ∃ later, Configured scheduler.registry scheduler.aidList command later ∧
      Registry.RunsTo later (scheduler.processCommand command).scheduler.registry ∧
      (scheduler.processCommand command).scheduler.registry.active = later.active ∧
      (scheduler.processCommand command).scheduler.stations = scheduler.stations ∧
      (scheduler.processCommand command).scheduler.aidList = scheduler.aidList := by
  obtain ⟨later, applied, configured⟩ := applyCommand_configured sound command
  have soundApplied : (scheduler.applyCommand command).1.registry.Sound := by
    rw [applied.registry]
    exact configured.sound sound
  obtain ⟨runs, active, stations, aidList⟩ := runsTo_settleConfiguration soundApplied
  have triggered := undisturbed_triggerUpdate
    (scheduler.applyCommand command).1.settleConfiguration false
  rw [applied.registry] at runs active
  refine ⟨later, configured, ?_, ?_, ?_, ?_⟩
  · unfold processCommand
    simp only [triggered.registry]
    exact runs
  · unfold processCommand
    simp only [triggered.registry]
    exact active
  · exact (triggered.stations.trans stations).trans applied.stations
  · exact (triggered.aidList.trans aidList).trans applied.aidList

theorem takeStations_spec (scheduler : Scheduler)
    (change : Except Fault (Bitmap × Bool)) :
    (scheduler.takeStations change).1.registry = scheduler.registry ∧
      (scheduler.takeStations change).1.aidList = scheduler.aidList ∧
      ((scheduler.takeStations change).1.stations = scheduler.stations ∨
        ∃ stations changed, change = .ok (stations, changed) ∧
          (scheduler.takeStations change).1.stations = stations) := by
  cases change with
  | error fault => exact ⟨rfl, rfl, Or.inl rfl⟩
  | ok pair =>
      rcases pair with ⟨stations, changed⟩
      cases changed with
      | false => exact ⟨rfl, rfl, Or.inl rfl⟩
      | true =>
          rw [takeStations_changed]
          exact ⟨rfl, rfl, Or.inr ⟨stations, true, rfl, rfl⟩⟩

/-- What any operation but a pass does to the windows and to the list of stations. -/
theorem after_reconfigured (sound : scheduler.registry.Sound) {operation : Operation}
    (noPass : operation ≠ .pass) :
    ∃ later, Reconfigured scheduler.registry scheduler.aidList operation later ∧
      Registry.RunsTo later (scheduler.after operation).registry ∧
      (scheduler.after operation).registry.active = later.active ∧
      (scheduler.after operation).aidList = scheduler.aidList := by
  have same {next : Scheduler} {operation : Operation}
      (other : ∀ command, operation ≠ .command command)
      (registry : next.registry = scheduler.registry) (aidList : next.aidList = scheduler.aidList) :
      ∃ later, Reconfigured scheduler.registry scheduler.aidList operation later ∧
        Registry.RunsTo later next.registry ∧ next.registry.active = later.active ∧
        next.aidList = scheduler.aidList :=
    ⟨scheduler.registry, .untouched other, registry ▸ Registry.RunsTo.refl _,
      congrArg Registry.active registry, aidList⟩
  cases operation with
  | command command =>
      obtain ⟨later, configured, runs, active, _, aidList⟩ := processCommand_spec sound command
      exact ⟨later, .commanded configured, runs, active, aidList⟩
  | associate aid =>
      have taken := scheduler.takeStations_spec (scheduler.stations.insert aid)
      exact same nofun taken.1 taken.2.1
  | disassociate aid =>
      have taken := scheduler.takeStations_spec (scheduler.stations.erase aid)
      exact same nofun taken.1 taken.2.1
  | beaconSent =>
      have kept := undisturbed_beaconSent scheduler
      exact same nofun kept.registry kept.aidList
  | triggerUpdate refreshAids =>
      have kept := undisturbed_triggerUpdate scheduler refreshAids
      exact same nofun kept.registry kept.aidList
  | pass => exact absurd rfl noPass
  | enable =>
      have kept := undisturbed_enable scheduler
      exact same nofun kept.registry kept.aidList
  | disable =>
      have kept := undisturbed_disable scheduler
      exact same nofun kept.registry kept.aidList
  | setDtimPeriod period => exact same nofun rfl rfl
  | teardown => exact ⟨.empty, .forgotten nofun, Registry.RunsTo.refl _, rfl, rfl⟩
  | installProtection aid =>
      obtain ⟨later, laterSound, agree, kept⟩ := installProtection_spec sound aid
      have registry : (scheduler.after (.installProtection aid)).registry = later := kept.registry
      refine ⟨later, .protection nofun laterSound agree, ?_, congrArg Registry.active registry,
        kept.aidList⟩
      rw [registry]
      exact Registry.RunsTo.refl later
  | removeProtection =>
      have kept := undisturbed_triggerUpdate
        { scheduler with registry := scheduler.registry.deactivate protectionId } false
      have registry : (scheduler.after .removeProtection).registry =
          scheduler.registry.deactivate protectionId := kept.registry
      refine ⟨scheduler.registry.deactivate protectionId, .protection nofun
        (sound.deactivate protectionId) (sound.agreeOff_deactivate protectionId), ?_,
        congrArg Registry.active registry, kept.aidList⟩
      rw [registry]
      exact Registry.RunsTo.refl _

end Scheduler

end RestrictedAccess
