/-
The windows the engine makes for itself. A command that names a window cannot reach them, and
passes leave them alone because they have no running state. The one way to them is the command
that deletes every window: it takes the protection of a scan away together with the windows that
were configured.
-/

import RestrictedAccess.Proofs.Scheduler.CommandFrame
import RestrictedAccess.Proofs.Scheduler.Histories
import RestrictedAccess.Proofs.Scheduler.StoredWindows

namespace RestrictedAccess

open Station

namespace WindowConfig

section Internal

variable {window : WindowConfig}

theorem Sound.resting_of_internal (sound : window.Sound)
    (reserved : firstInternalId ≤ window.id) : window.resting = window := by
  obtain ⟨unscheduled, unspread⟩ := sound.internal reserved
  rcases window with ⟨id, kind, startAid, endAid, indices, startTime, slot, periodic, spreading⟩
  subst unscheduled
  subst unspread
  rfl

theorem Sound.resolveIndices_of_internal (sound : window.Sound)
    (reserved : firstInternalId ≤ window.id) (aids : AidList) :
    window.resolveIndices aids = window := by
  unfold WindowConfig.resolveIndices usesSpreading
  rw [(sound.internal reserved).2]
  rfl

end Internal

/-- A key in the reach of commands, or one that holds the protection window of some station. -/
def InReachOrProtection (id : WindowId) (window : WindowConfig) : Prop :=
  firstInternalId ≤ id → window = protectionWindow window.startAid

private theorem inReachOrProtection_change (change : WindowConfig → WindowConfig)
    (fixes : ∀ aid, change (protectionWindow aid) = protectionWindow aid) {id : WindowId}
    {window : WindowConfig} (holds : InReachOrProtection id window) :
    InReachOrProtection id (change window) := by
  intro reserved
  rw [holds reserved, fixes]
  rfl

/-- The engine makes no window for itself but the protection window. -/
theorem lasting_inReachOrProtection : Lasting InReachOrProtection := by
  refine
    { empty := ?_
      protection := fun _ _ => rfl
      patched := ?_
      resolved := ?_
      counted := ?_
      realigned := ?_
      advanced := ?_ }
  · intro id reachable reserved
    exact absurd reachable (UInt16.not_lt.mpr reserved)
  · intro command window patched reachable _ _ reserved
    exact absurd reachable (UInt16.not_lt.mpr reserved)
  · intro aids id window
    exact inReachOrProtection_change (fun stored => stored.resolveIndices aids) (fun _ => rfl)
  · intro id window
    exact inReachOrProtection_change counted (fun _ => rfl)
  · intro id window
    exact inReachOrProtection_change realigned (fun _ => rfl)
  · intro aids id window
    exact inReachOrProtection_change (WindowConfig.advanced aids) (fun _ => rfl)

end WindowConfig

namespace Registry

structure SameInternal (earlier later : Registry) : Prop where
  found : ∀ id, firstInternalId ≤ id → later.find? id = earlier.find? id
  membership : ∀ id, firstInternalId ≤ id → later.membership id = earlier.membership id

theorem Sound.membership_of_unstored {registry : Registry} (sound : registry.Sound)
    {id : WindowId} (unstored : registry.find? id = none) :
    registry.membership id = .inactive := by
  apply Classical.byContradiction
  intro active
  obtain ⟨window, found⟩ := sound.stored_of_active ((mem_active_iff registry id).mpr active)
  rw [unstored] at found
  cases found

section Same

variable {earlier later : Registry}

theorem SameInternal.refl (registry : Registry) : SameInternal registry registry :=
  { found := fun _ _ => rfl
    membership := fun _ _ => rfl }

theorem SameInternal.trans {first second third : Registry} (before : SameInternal first second)
    (after : SameInternal second third) : SameInternal first third :=
  { found := fun id reserved => (after.found id reserved).trans (before.found id reserved)
    membership := fun id reserved =>
      (after.membership id reserved).trans (before.membership id reserved) }

theorem SameInternal.of_plain (earlierSound : earlier.Sound) (laterSound : later.Sound)
    (found : ∀ id, firstInternalId ≤ id → later.find? id = earlier.find? id)
    (plain : later.plain = earlier.plain) : SameInternal earlier later := by
  refine { found := found, membership := ?_ }
  intro id reserved
  have before := Scheduler.not_periodic_of_internal earlierSound reserved
  have after := Scheduler.not_periodic_of_internal laterSound reserved
  unfold Registry.membership
  rw [plain, if_neg before, if_neg after]

theorem RunsTo.sameInternal (runs : RunsTo earlier later) (sound : earlier.Sound) :
    SameInternal earlier later := by
  have laterSound := runs.sound sound
  refine SameInternal.of_plain sound laterSound ?_ runs.plain
  intro id reserved
  have atRest {registry : Registry} (registrySound : registry.Sound) :
      (registry.find? id).map WindowConfig.resting = registry.find? id := by
    cases found : registry.find? id with
    | none => rfl
    | some window =>
        have filed : window.id = id := registrySound.filed id window found
        have windowSound := registrySound.windows id window found
        rw [Option.map_some, windowSound.resting_of_internal (filed.symm ▸ reserved)]
  rw [← atRest laterSound, runs.resting id, atRest sound]

theorem AgreeOff.sameInternal {id : WindowId} (agree : AgreeOff id earlier later)
    (reachable : id < firstInternalId) : SameInternal earlier later := by
  have apart {other : WindowId} (reserved : firstInternalId ≤ other) : other ≠ id := by
    intro same
    subst same
    exact UInt16.not_lt.mpr reserved reachable
  exact
    { found := fun other reserved => agree.found other (apart reserved)
      membership := fun other reserved => agree.membership (apart reserved) }

end Same

end Registry

namespace Scheduler

/-! ### Commands -/

structure ForgetsInternal (scheduler : Scheduler) (command : Command) : Prop where
  engine : command.id = engineId
  delete : command.flags.delete = true
  stored : ∃ id window, firstInternalId ≤ id ∧ scheduler.registry.find? id = some window

variable {scheduler : Scheduler}

/-- No window is stored after the command that deletes every window. -/
theorem find?_processCommand_of_delete (sound : scheduler.Sound) {command : Command}
    (engine : command.id = engineId) (delete : command.flags.delete = true) (id : WindowId) :
    (scheduler.processCommand command).scheduler.registry.find? id = none := by
  apply (runsTo_processCommand sound.registry command).find?_eq_none
  rw [registry_applyCommand_of_engine engine, if_pos delete]
  exact Registry.find?_empty id

theorem sameInternal_applyCommand (sound : scheduler.Sound) {command : Command}
    (keeps : ¬ (command.id = engineId ∧ command.flags.delete = true)) :
    scheduler.registry.SameInternal (scheduler.applyCommand command).1.registry := by
  by_cases engine : command.id = engineId
  · have kept : ¬ command.flags.delete = true := fun delete => keeps ⟨engine, delete⟩
    rw [registry_applyCommand_of_engine engine, if_neg kept]
    exact Registry.SameInternal.refl scheduler.registry
  · by_cases reserved : firstInternalId ≤ command.id
    · rw [registry_applyCommand_of_reserved reserved]
      exact Registry.SameInternal.refl scheduler.registry
    · exact (agreeOff_applyCommand sound.registry engine).sameInternal (UInt16.not_le.mp reserved)

theorem sameInternal_processCommand (sound : scheduler.Sound) {command : Command}
    (keeps : ¬ (command.id = engineId ∧ command.flags.delete = true)) :
    scheduler.registry.SameInternal (scheduler.processCommand command).scheduler.registry := by
  obtain ⟨later, applied, configured⟩ := applyCommand_configured sound.registry command
  have appliedSound : (scheduler.applyCommand command).1.registry.Sound := by
    rw [applied.registry]
    exact configured.sound sound.registry
  exact (sameInternal_applyCommand sound keeps).trans
    ((runsTo_processCommand sound.registry command).sameInternal appliedSound)

theorem sameInternal_processCommand_iff (sound : scheduler.Sound) (command : Command) :
    scheduler.registry.SameInternal (scheduler.processCommand command).scheduler.registry ↔
      ¬ scheduler.ForgetsInternal command := by
  constructor
  · intro same forgets
    obtain ⟨id, window, reserved, found⟩ := forgets.stored
    have kept := same.found id reserved
    rw [found, find?_processCommand_of_delete sound forgets.engine forgets.delete] at kept
    cases kept
  · intro keeps
    by_cases deletes : command.id = engineId ∧ command.flags.delete = true
    · -- Everything is deleted, but nothing of the engine's own was stored.
      have gone := find?_processCommand_of_delete sound deletes.1 deletes.2
      have absent (id : WindowId) (reserved : firstInternalId ≤ id) :
          scheduler.registry.find? id = none := by
        cases found : scheduler.registry.find? id with
        | none => rfl
        | some window => exact absurd ⟨deletes.1, deletes.2, id, window, reserved, found⟩ keeps
      have laterSound : (scheduler.processCommand command).scheduler.registry.Sound :=
        (sound.after (.command command)).registry
      refine { found := ?_, membership := ?_ }
      · intro id reserved
        rw [gone, absent id reserved]
      · intro id reserved
        rw [laterSound.membership_of_unstored (gone id),
          sound.registry.membership_of_unstored (absent id reserved)]
    · exact sameInternal_processCommand sound deletes

/-! ### Passes -/

theorem Sound.sameInternal_refreshedRegistry (sound : scheduler.Sound) :
    scheduler.registry.SameInternal scheduler.refreshedRegistry := by
  refine Registry.SameInternal.of_plain sound.registry sound.refreshed ?_
    scheduler.plain_refreshedRegistry
  intro id reserved
  rw [sound.find?_refreshedRegistry]
  cases found : scheduler.registry.find? id with
  | none => rfl
  | some window =>
      have filed : window.id = id := sound.registry.filed id window found
      have windowSound := sound.registry.windows id window found
      rw [Option.map_some, windowSound.resolveIndices_of_internal (filed.symm ▸ reserved),
        ite_self]

theorem sameInternal_runPass (sound : scheduler.Sound) :
    scheduler.registry.SameInternal scheduler.runPass.scheduler.registry := by
  cases enabled : scheduler.enabled with
  | false =>
      rw [runPass_disabled enabled]
      exact Registry.SameInternal.refl scheduler.registry
  | true =>
      obtain ⟨_, passed⟩ := sound.runPass_enabled enabled
      exact sound.sameInternal_refreshedRegistry.trans
        ((passed.runsTo_of_refreshed sound).sameInternal sound.refreshed)

/-! ### The protection of scans -/

structure Protects (aid : Aid) (scheduler : Scheduler) : Prop where
  active : scheduler.isProtected = true
  stored : scheduler.registry.find? protectionId = some (protectionWindow aid)

theorem Protects.of_same {aid : Aid} {later : Scheduler} (protects : scheduler.Protects aid)
    (same : scheduler.registry.SameInternal later.registry) : later.Protects aid := by
  have reserved : firstInternalId ≤ protectionId := by decide
  refine { active := ?_, stored := (same.found protectionId reserved).trans protects.stored }
  have listed := (Registry.membership_eq_plain_iff scheduler.registry protectionId).mpr
    (of_decide_eq_true protects.active)
  rw [← same.membership protectionId reserved] at listed
  exact decide_eq_true ((Registry.membership_eq_plain_iff later.registry protectionId).mp listed)

/-- What ends the protection of a station: taking it away, protecting another one, and whatever
forgets every window. -/
inductive EndsProtection (aid : Aid) : Operation → Prop
  | removed : EndsProtection aid .removeProtection
  | tornDown : EndsProtection aid .teardown
  | moved {other : Aid} (different : other ≠ aid) :
      EndsProtection aid (.installProtection other)
  | deleted {command : Command} (engine : command.id = engineId)
      (delete : command.flags.delete = true) : EndsProtection aid (.command command)

/-- Before it is activated, the protection window is stored for the station, whether it has to be
written or protects the station already. -/
theorem find?_withProtection {registry : Registry}
    (known : registry.AllStored WindowConfig.InReachOrProtection) (aid : Aid) :
    (registry.withProtection aid).find? protectionId = some (protectionWindow aid) := by
  have reserved : firstInternalId ≤ protectionId := by decide
  have written (current : Registry) :
      (current.put protectionId (protectionWindow aid)).find? protectionId =
        some (protectionWindow aid) :=
    (Registry.find?_put current protectionId _ protectionId).trans (if_pos rfl)
  unfold Registry.withProtection
  split
  · exact written _
  · rename_i window found
    split
    · exact written _
    · rename_i kept
      have same : window.startAid = aid :=
        Classical.byContradiction (fun different => kept (Or.inr different))
      have known := known protectionId window found reserved
      rw [same] at known
      exact known ▸ found

theorem protects_installProtection (sound : scheduler.Sound)
    (known : scheduler.registry.AllStored WindowConfig.InReachOrProtection) (aid : Aid) :
    (scheduler.installProtection aid).1.Protects aid := by
  obtain ⟨active, activation, installed⟩ := scheduler.installProtection_eq aid
  have stored := (sound_withProtection sound.registry aid).1
  obtain ⟨later, activatedTo, activated⟩ := stored.activate (find?_withProtection known aid)
  cases activation.symm.trans activatedTo
  have kept := (undisturbed_enable { scheduler with registry := active }).trans
    (undisturbed_triggerUpdate { scheduler with registry := active }.enable false)
  rw [installed]
  refine { active := ?_, stored := ?_ }
  · unfold isProtected
    simp only [kept.registry]
    exact decide_eq_true (activated.plain.mpr rfl)
  · simp only [kept.registry]
    exact activated.found

theorem protects_after_iff {aid : Aid} (sound : scheduler.Sound)
    (known : scheduler.registry.AllStored WindowConfig.InReachOrProtection)
    (protects : scheduler.Protects aid) (operation : Operation) :
    (scheduler.after operation).Protects aid ↔ ¬ EndsProtection aid operation := by
  have kept {next : Scheduler} {operation : Operation}
      (same : scheduler.registry.SameInternal next.registry)
      (lasts : ¬ EndsProtection aid operation) :
      next.Protects aid ↔ ¬ EndsProtection aid operation :=
    iff_of_true (protects.of_same same) lasts
  have untouched {next : Scheduler} {operation : Operation}
      (registry : next.registry = scheduler.registry)
      (lasts : ¬ EndsProtection aid operation) :
      next.Protects aid ↔ ¬ EndsProtection aid operation :=
    kept (registry ▸ Registry.SameInternal.refl scheduler.registry) lasts
  cases operation with
  | command command =>
      by_cases deletes : command.id = engineId ∧ command.flags.delete = true
      · refine iff_of_false ?_ (not_not_intro (.deleted deletes.1 deletes.2))
        intro after
        have gone := find?_processCommand_of_delete sound deletes.1 deletes.2 protectionId
        cases after.stored.symm.trans gone
      · apply kept (sameInternal_processCommand sound deletes)
        intro ends
        cases ends with
        | deleted engine delete => exact deletes ⟨engine, delete⟩
  | associate aid => exact untouched (scheduler.takeStations_spec _).1 nofun
  | disassociate aid => exact untouched (scheduler.takeStations_spec _).1 nofun
  | beaconSent => exact untouched (undisturbed_beaconSent scheduler).registry nofun
  | triggerUpdate refreshAids =>
      exact untouched (undisturbed_triggerUpdate scheduler refreshAids).registry nofun
  | pass => exact kept (sameInternal_runPass sound) nofun
  | enable => exact untouched (undisturbed_enable scheduler).registry nofun
  | disable => exact untouched (undisturbed_disable scheduler).registry nofun
  | setDtimPeriod period => exact untouched rfl nofun
  | teardown =>
      refine iff_of_false ?_ (not_not_intro .tornDown)
      intro after
      cases after.stored
  | installProtection other =>
      have installed : (scheduler.after (.installProtection other)).Protects other :=
        protects_installProtection sound known other
      by_cases same : other = aid
      · subst same
        apply iff_of_true installed
        intro ends
        cases ends with
        | moved different => exact different rfl
      · refine iff_of_false ?_ (not_not_intro (.moved same))
        intro after
        have windows := Option.some.inj (installed.stored.symm.trans after.stored)
        have starts := congrArg WindowConfig.startAid windows
        exact same starts
  | removeProtection =>
      refine iff_of_false ?_ (not_not_intro .removed)
      intro after
      have silenced := undisturbed_triggerUpdate
        { scheduler with registry := scheduler.registry.deactivate protectionId } false
      have listed : protectionId ∈ (scheduler.after .removeProtection).registry.plain :=
        of_decide_eq_true after.active
      change protectionId ∈ (Scheduler.triggerUpdate _ false).1.registry.plain at listed
      rw [silenced.registry] at listed
      exact (Registry.mem_plain_deactivate.mp listed).2 rfl

structure InternalGuarded (scheduler : Scheduler) : Prop where
  commands : ∀ command,
    scheduler.registry.SameInternal (scheduler.processCommand command).scheduler.registry ↔
      ¬ scheduler.ForgetsInternal command
  /-- The protection of a station lasts until something ends it, and commands that name a window
  do not. -/
  protection : ∀ aid history,
    Throughout (Protects aid) (scheduler.after (.installProtection aid)) history ↔
      AtNoStep (fun _ operation => EndsProtection aid operation)
        (scheduler.after (.installProtection aid)) history

/-- The windows of the engine's own are out of the reach of every command but one. -/
theorem internal_windows_guarded (reachable : Reachable scheduler) :
    scheduler.InternalGuarded := by
  refine { commands := sameInternal_processCommand_iff reachable.sound, protection := ?_ }
  intro aid history
  apply throughout_iff_atNoStep_of_kept
  · intro current operation earlier
    exact Reachable.performed operation earlier
  · intro current operation earlier protects
    exact protects_after_iff earlier.sound
      (earlier.allStored WindowConfig.lasting_inReachOrProtection) protects operation
  · exact Reachable.performed (.installProtection aid) reachable
  · exact protects_installProtection reachable.sound
      (reachable.allStored WindowConfig.lasting_inReachOrProtection) aid

/-- A spread window and a periodic one beside the protection of a station, which is installed for
another station first, moved, taken away and installed again. -/
def scanHistory : List Operation :=
  [.associate 3, .associate 7, .pass,
    .command
      { id := 1
        flags := { enable := true, delete := false, update := true }
        fields := [.slots 4000 4 false, .group 3 7, .periodic 4 2 0 false] },
    .command
      { id := 0x7FFF
        flags := { enable := true, delete := false, update := true }
        fields := [.slots 4000 4 false, .group 3 7, .spread 0 1] },
    .installProtection 3, .installProtection 7, .pass, .removeProtection, .beaconSent, .pass,
    .installProtection 7]

theorem internal_windows_guarded_in_scan :
    ∃ fresh, create .accessPoint { SchedulerOptions.standard with enabled := true } = .ok fresh ∧
      Reachable (fresh.afterAll scanHistory) ∧
      (fresh.afterAll scanHistory).registry.active = [0x7FFF, protectionId, 1] ∧
      (fresh.afterAll scanHistory).InternalGuarded := by
  have creation :
      create .accessPoint { SchedulerOptions.standard with enabled := true } = .ok _ := rfl
  have reachable := (Reachable.created creation).afterAll scanHistory
  exact ⟨_, creation, reachable, by decide +kernel, internal_windows_guarded reachable⟩

def deleteAllCommand : Command :=
  { id := engineId
    flags := { enable := true, delete := true, update := false }
    fields := [] }

/-- The command takes the protection of a scan away, although it names no window. -/
theorem protection_deleted_by_command :
    ∃ fresh, create .accessPoint SchedulerOptions.standard = .ok fresh ∧
      (fresh.after (.installProtection 7)).Protects 7 ∧
      (fresh.afterAll [.installProtection 7, .command deleteAllCommand]).isProtected = false ∧
      (fresh.afterAll [.installProtection 7, .command deleteAllCommand]).registry.find?
        protectionId = none ∧
      ¬ (fresh.after (.installProtection 7)).registry.SameInternal
        ((fresh.after (.installProtection 7)).processCommand
          deleteAllCommand).scheduler.registry := by
  have creation : create .accessPoint SchedulerOptions.standard = .ok _ := rfl
  refine ⟨_, creation, ⟨by decide, rfl⟩, by decide, rfl, ?_⟩
  intro same
  have kept := same.found protectionId (by decide)
  cases kept

end Scheduler

end RestrictedAccess
