/-
The effect of a command that names a window, as a function of what the registry knows of that
window. The scheduler refiles this one entry and leaves every other one alone; afterwards the
active schedules are realigned. So what a command does, and how it ends, can be read off the entry
of its window alone.
-/

import RestrictedAccess.Proofs.Scheduler.EveryBeacon

namespace RestrictedAccess

open Station

namespace Registry

/-! ### Entries -/

/-- All that a registry knows of one identifier. -/
structure Entry where
  window : Option WindowConfig
  membership : Membership
  deriving DecidableEq

namespace Entry

def absent : Entry :=
  ⟨none, .inactive⟩

def silent (window : WindowConfig) : Entry :=
  ⟨some window, .inactive⟩

def listed (window : WindowConfig) : Entry :=
  ⟨some window, if window.isPeriodic then .periodic else .plain⟩

def realigned (entry : Entry) : Entry :=
  if entry.membership = .periodic then
    { entry with window := entry.window.map WindowConfig.realigned }
  else entry

@[simp] theorem membership_realigned (entry : Entry) :
    entry.realigned.membership = entry.membership := by
  unfold realigned
  split <;> rfl

end Entry

def entry (registry : Registry) (id : WindowId) : Entry :=
  ⟨registry.find? id, registry.membership id⟩

section Entries

variable {earlier later : Registry}

theorem AgreeOff.entry {id other : WindowId} (agree : AgreeOff id earlier later)
    (different : other ≠ id) : later.entry other = earlier.entry other := by
  unfold Registry.entry
  rw [agree.found other different, agree.membership different]

theorem entry_of_inactive {registry : Registry} {id : WindowId} (inactive : id ∉ registry.active) :
    registry.entry id = ⟨registry.find? id, .inactive⟩ := by
  rw [mem_active_iff, not_not] at inactive
  unfold entry
  rw [inactive]

theorem Activated.entry {window : WindowConfig} (activated : Activated window earlier later) :
    later.entry window.id = .listed window := by
  unfold Registry.entry Entry.listed
  rw [activated.found]
  cases scheduled : window.isPeriodic with
  | false =>
      rw [(membership_eq_plain_iff later window.id).mpr (activated.plain.mpr scheduled)]
      rfl
  | true =>
      rw [(activated.sound.membership_eq_periodic_iff window.id).mpr
        (activated.periodic.mpr scheduled)]
      rfl

/-- Realigning the active schedules realigns every entry by itself. -/
theorem Sound.entry_realign {registry : Registry} (sound : registry.Sound) (id : WindowId) :
    registry.realign.entry id = (registry.entry id).realigned := by
  have plain : registry.realign.plain = registry.plain := plain_modifyAll registry _ _
  have periodic : registry.realign.periodic = registry.periodic := periodic_modifyAll registry _ _
  have found : registry.realign.find? id =
      if id ∈ registry.periodic then (registry.find? id).map WindowConfig.realigned
      else registry.find? id :=
    find?_modifyAll registry (nodup_of_ascending sound.periodicAscending) WindowConfig.realigned id
  have membership : registry.realign.membership id = registry.membership id := by
    unfold Registry.membership
    rw [plain, periodic]
  unfold entry Entry.realigned
  simp only [found, membership, sound.membership_eq_periodic_iff id]
  split <;> rfl

/-- A sound registry that differs from an earlier one in a single entry. -/
structure Refiled (id : WindowId) (entry : Entry) (earlier later : Registry) : Prop where
  sound : later.Sound
  agree : AgreeOff id earlier later
  entry : later.entry id = entry

theorem Refiled.after {id : WindowId} {entry : Entry} {first second third : Registry}
    (refiled : Refiled id entry second third) (agree : AgreeOff id first second) :
    Refiled id entry first third :=
  { refiled with agree := agree.trans refiled.agree }

theorem Sound.refiled_self {registry : Registry} (sound : registry.Sound) (id : WindowId) :
    Refiled id (registry.entry id) registry registry :=
  { sound := sound
    agree := AgreeOff.refl id registry
    entry := rfl }

theorem Sound.refiled_deactivate {registry : Registry} (sound : registry.Sound) {id : WindowId}
    {window : WindowConfig} (found : registry.find? id = some window) :
    Refiled id (.silent window) registry (registry.deactivate id) := by
  refine
    { sound := sound.deactivate id
      agree := sound.agreeOff_deactivate id
      entry := ?_ }
  rw [entry_of_inactive (sound.not_active_deactivate id), find?_deactivate, found]
  rfl

theorem Sound.refiled_delete {registry : Registry} (sound : registry.Sound) (id : WindowId) :
    Refiled id .absent registry (registry.delete id) := by
  have inactive : id ∉ (registry.delete id).active := sound.not_active_deactivate id
  refine
    { sound := sound.delete id
      agree := sound.agreeOff_delete id
      entry := ?_ }
  rw [entry_of_inactive inactive, find?_delete, if_pos rfl]
  rfl

theorem Refiled.entry_eq {id : WindowId} {entry : Entry} (refiled : Refiled id entry earlier later)
    (other : WindowId) :
    later.entry other = if other = id then entry else earlier.entry other := by
  by_cases same : other = id
  · rw [if_pos same, same, refiled.entry]
  · rw [if_neg same, refiled.agree.entry same]

end Entries

end Registry

namespace Command

/-! ### The effect on one entry -/

variable (command : Command) (aidList : Option AidList) (entry : Registry.Entry)

def current : WindowConfig :=
  entry.window.getD (.empty command.id)

def effectOfUpdate : Registry.Entry × Except Fault Unit :=
  match command.applyTo (command.current entry) with
  | .error fault => (entry, .error fault)
  | .ok updated =>
      if updated.isValid then
        (if command.flags.enable then .listed (updated.resolvedIn aidList) else .silent updated,
          .ok ())
      else
        (.silent updated,
          if command.flags.enable then .error (.windowIncomplete command.id) else .ok ())

def effectWithoutUpdate : Registry.Entry × Except Fault Unit :=
  match entry.window with
  | none => (entry, if command.flags.enable then .error (.windowNotFound command.id) else .ok ())
  | some window =>
      (if command.flags.delete then .absent
        else if command.flags.enable then .listed (window.resolvedIn aidList)
        else .silent window,
        .ok ())

def effect : Registry.Entry × Except Fault Unit :=
  if firstInternalId ≤ command.id then (entry, .error (.idReserved command.id))
  else if command.flags.update then command.effectOfUpdate aidList entry
  else command.effectWithoutUpdate aidList entry

end Command

namespace Scheduler

variable {scheduler : Scheduler}

theorem refiled_switchWindow (scheduler : Scheduler) (sound : scheduler.registry.Sound)
    {id : WindowId} {window : WindowConfig} (found : scheduler.registry.find? id = some window)
    (on : Bool) :
    ∃ later, scheduler.switchWindow id on = ({ scheduler with registry := later }, .ok ()) ∧
      Registry.Refiled id
        (if on then .listed (window.resolvedIn scheduler.aidList) else .silent window)
        scheduler.registry later := by
  have carried : window.id = id := sound.filed id window found
  subst carried
  cases on with
  | false =>
      exact ⟨scheduler.registry.deactivate window.id, rfl, sound.refiled_deactivate found⟩
  | true =>
      obtain ⟨later, switched, activated⟩ := scheduler.switchWindow_on sound found
      have filed := WindowConfig.id_resolvedIn scheduler.aidList window
      exact ⟨later, switched,
        { sound := activated.sound
          agree := filed ▸ activated.agree
          entry := filed ▸ activated.entry }⟩

theorem refiled_applyUpdate (sound : scheduler.registry.Sound) {command : Command}
    (named : command.id ≠ engineId) (reachable : command.id < firstInternalId) :
    ∃ later, scheduler.applyUpdate command =
        ({ scheduler with registry := later },
          (command.effectOfUpdate scheduler.aidList (scheduler.registry.entry command.id)).2) ∧
      Registry.Refiled command.id
        (command.effectOfUpdate scheduler.aidList (scheduler.registry.entry command.id)).1
        scheduler.registry later := by
  have current := sound.getD_empty command.id
  have carried := sound.filed.id_getD_empty command.id
  have same : (scheduler.registry.find? command.id).getD (.empty command.id) =
      command.current (scheduler.registry.entry command.id) := rfl
  unfold applyUpdate Command.effectOfUpdate
  simp only [same]
  cases applied : command.applyTo (command.current (scheduler.registry.entry command.id)) with
  | error fault => exact ⟨scheduler.registry, rfl, sound.refiled_self command.id⟩
  | ok updated =>
      obtain ⟨updatedSound, kept⟩ :=
        Command.sound_applyTo current (carried.symm ▸ reachable) applied
      have filed : updated.id = command.id := kept.trans carried
      obtain ⟨stored, replaced, storedSound, agree, found⟩ :=
        sound.replace updatedSound (filed ▸ named)
      have switched (on : Bool) :=
        refiled_switchWindow { scheduler with registry := stored } storedSound found on
      rw [filed] at agree switched
      simp only [replaced]
      split
      · obtain ⟨later, result, refiled⟩ := switched command.flags.enable
        exact ⟨later, result, refiled.after agree⟩
      · obtain ⟨later, result, refiled⟩ := switched false
        exact ⟨later, by rw [result], refiled.after agree⟩

theorem refiled_applyWithoutUpdate (sound : scheduler.registry.Sound) (command : Command) :
    ∃ later, scheduler.applyWithoutUpdate command =
        ({ scheduler with registry := later },
          (command.effectWithoutUpdate scheduler.aidList
            (scheduler.registry.entry command.id)).2) ∧
      Registry.Refiled command.id
        (command.effectWithoutUpdate scheduler.aidList (scheduler.registry.entry command.id)).1
        scheduler.registry later := by
  unfold applyWithoutUpdate Command.effectWithoutUpdate
  have same : (scheduler.registry.entry command.id).window =
      scheduler.registry.find? command.id := rfl
  rw [same]
  cases found : scheduler.registry.find? command.id with
  | none => exact ⟨scheduler.registry, rfl, sound.refiled_self command.id⟩
  | some window =>
      simp only
      split
      · exact ⟨scheduler.registry.delete command.id, rfl, sound.refiled_delete command.id⟩
      · exact scheduler.refiled_switchWindow sound found command.flags.enable

/-- A command that names a window refiles the entry of that window. -/
theorem refiled_applyCommand (sound : scheduler.registry.Sound) {command : Command}
    (named : command.id ≠ engineId) :
    ∃ later, scheduler.applyCommand command =
        ({ scheduler with registry := later },
          (command.effect scheduler.aidList (scheduler.registry.entry command.id)).2) ∧
      Registry.Refiled command.id
        (command.effect scheduler.aidList (scheduler.registry.entry command.id)).1
        scheduler.registry later := by
  unfold applyCommand Command.effect
  split
  · exact ⟨scheduler.registry, rfl, sound.refiled_self command.id⟩
  · rename_i unreserved
    split
    · exact refiled_applyUpdate sound named (UInt16.not_le.mp unreserved)
    · exact refiled_applyWithoutUpdate sound command

/-! ### Commands as a whole -/

structure Commanded (command : Command) (earlier later : Scheduler) : Prop where
  sound : later.registry.Sound
  entry : ∀ id, later.registry.entry id =
    (if id = command.id then
        (command.effect earlier.aidList (earlier.registry.entry command.id)).1
      else earlier.registry.entry id).realigned
  options : later.options = earlier.options
  stations : later.stations = earlier.stations
  aidList : later.aidList = earlier.aidList
  payload : later.payload = earlier.payload
  enabled : later.enabled = earlier.enabled
  stats : later.stats = earlier.stats
  pending : later.pending =
    { earlier.pending with
      refreshAids := earlier.pending.refreshAids || (earlier.enabled && earlier.aidList.isNone) }
  burst : later.burst = if later.registry.periodic = [] then earlier.burst else earlier.fullBurst
  everyBeacon : later.everyBeacon = later.registry.needsEveryBeacon

/-- Without active schedules there is nothing to realign. -/
theorem settleConfiguration_realigned (scheduler : Scheduler) :
    ∃ everyBeacon, scheduler.settleConfiguration =
      { scheduler with
        registry := scheduler.registry.realign
        burst :=
          if scheduler.registry.realign.periodic = [] then scheduler.burst
          else scheduler.fullBurst
        everyBeacon } := by
  have periodic : scheduler.registry.realign.periodic = scheduler.registry.periodic :=
    Registry.periodic_modifyAll _ _ _
  rw [periodic]
  unfold settleConfiguration
  by_cases idle : scheduler.registry.periodic = []
  · have unchanged : scheduler.registry.realign = scheduler.registry := by
      unfold Registry.realign
      rw [idle]
      rfl
    rw [if_pos (List.isEmpty_iff.mpr idle), if_pos idle, unchanged]
    exact ⟨_, rfl⟩
  · rw [if_neg (fun empty => idle (List.isEmpty_iff.mp empty)), if_neg idle]
    exact ⟨_, rfl⟩

/-- A command that names a window is answered by its effect on the window's entry. -/
theorem commanded_processCommand (sound : scheduler.registry.Sound) {command : Command}
    (named : command.id ≠ engineId) :
    (scheduler.processCommand command).answer =
        (command.effect scheduler.aidList (scheduler.registry.entry command.id)).2 ∧
      Commanded command scheduler (scheduler.processCommand command).scheduler := by
  obtain ⟨registry, applied, refiled⟩ := refiled_applyCommand sound named
  obtain ⟨everyBeacon, settled⟩ :=
    settleConfiguration_realigned { scheduler with registry := registry }
  have exact := scheduler.everyBeaconExact_processCommand command
  unfold EveryBeaconExact at exact
  unfold processCommand at exact ⊢
  simp only [applied, settled, triggerUpdate_eq] at exact ⊢
  refine ⟨trivial, ?_⟩
  exact
    { sound := refiled.sound.runsTo_realign.sound refiled.sound
      entry := by
        intro id
        rw [refiled.sound.entry_realign, refiled.entry_eq]
      options := rfl
      stations := rfl
      aidList := rfl
      payload := rfl
      enabled := rfl
      stats := rfl
      pending := by simp only [Bool.or_false]
      burst := rfl
      everyBeacon := exact }

end Scheduler

end RestrictedAccess
