/-
Completeness of the active windows. Updates check a window before they activate it, and no other
operation makes a window incomplete. The one way around the check is to enable a window that was
stored incomplete without updating it, so active windows stay complete exactly as long as no
command does that.
-/

import RestrictedAccess.Proofs.Scheduler.Histories
import RestrictedAccess.Proofs.Scheduler.PassWindows

namespace RestrictedAccess

open Station

theorem WindowConfig.isValid_resolveIndices (aids : AidList) (window : WindowConfig) :
    (window.resolveIndices aids).isValid = window.isValid := by
  unfold WindowConfig.resolveIndices
  split <;> rfl

theorem WindowConfig.isValid_resolvedIn (aidList : Option AidList) (window : WindowConfig) :
    (window.resolvedIn aidList).isValid = window.isValid := by
  cases aidList with
  | none => rfl
  | some aids => exact window.isValid_resolveIndices aids

namespace Registry

def ActiveValid (registry : Registry) : Prop :=
  ∀ id, id ∈ registry.active → id < firstInternalId →
    ∃ window, registry.find? id = some window ∧ window.isValid = true

variable {earlier later : Registry}

theorem ActiveValid.of_find? (valid : earlier.ActiveValid)
    (active : ∀ id, id ∈ later.active → id ∈ earlier.active)
    (found : ∀ id, (later.find? id).map WindowConfig.isValid =
      (earlier.find? id).map WindowConfig.isValid) : later.ActiveValid := by
  intro id member reachable
  rcases valid id (active id member) reachable with ⟨window, present, complete⟩
  have same := found id
  rw [present, Option.map_some, complete] at same
  exact Option.map_eq_some_iff.mp same

theorem RunsTo.isValid_find? (runs : RunsTo earlier later) (id : WindowId) :
    (later.find? id).map WindowConfig.isValid = (earlier.find? id).map WindowConfig.isValid := by
  have same := congrArg (Option.map WindowConfig.isValid) (runs.resting id)
  simp only [Option.map_map, Function.comp_def, WindowConfig.isValid_resting] at same
  exact same

theorem RunsTo.activeValid (runs : RunsTo earlier later) (valid : earlier.ActiveValid) :
    later.ActiveValid :=
  valid.of_find? (fun _ member => runs.mem_active member) runs.isValid_find?

theorem ActiveValid.of_agreeOff {id : WindowId} (valid : earlier.ActiveValid)
    (agree : AgreeOff id earlier later)
    (changed : id ∈ later.active → id < firstInternalId →
      ∃ window, later.find? id = some window ∧ window.isValid = true) : later.ActiveValid := by
  intro other member reachable
  by_cases same : other = id
  · subst same
    exact changed member reachable
  · rw [agree.found other same]
    exact valid other ((agree.mem_active same).mp member) reachable

end Registry

namespace Scheduler

/-- A command that enables a window which is stored incomplete, without updating it. -/
structure EnablesIncomplete (scheduler : Scheduler) (command : Command) : Prop where
  named : command.id ≠ engineId
  reachable : command.id < firstInternalId
  enable : command.flags.enable = true
  noUpdate : command.flags.update = false
  noDelete : command.flags.delete = false
  incomplete : ∃ window, scheduler.registry.find? command.id = some window ∧
    window.isValid = false

def ActiveWindowsValid (scheduler : Scheduler) : Prop :=
  scheduler.registry.ActiveValid

variable {scheduler : Scheduler}

theorem activeValid_pass (sound : scheduler.Sound) (valid : scheduler.ActiveWindowsValid) :
    scheduler.runPass.scheduler.ActiveWindowsValid := by
  cases enabled : scheduler.enabled with
  | false =>
      rw [runPass_disabled enabled]
      exact valid
  | true =>
      obtain ⟨_, passed⟩ := sound.runPass_enabled enabled
      have refreshed : scheduler.refreshedRegistry.ActiveValid := by
        apply Registry.ActiveValid.of_find? valid
        · intro id member
          unfold Registry.active at member ⊢
          rw [plain_refreshedRegistry, periodic_refreshedRegistry] at member
          exact member
        · intro id
          rw [sound.find?_refreshedRegistry, Option.map_map]
          refine congrArg (fun view => (scheduler.registry.find? id).map view) (funext ?_)
          intro window
          simp only [Function.comp_apply]
          split
          · exact WindowConfig.isValid_resolveIndices _ window
          · rfl
      exact (passed.runsTo_of_refreshed sound).activeValid refreshed

/-- Commands keep active windows complete, unless they enable an incomplete one. -/
theorem Configured.activeValid {earlier later : Registry} {aidList : Option AidList}
    {command : Command} (configured : Configured earlier aidList command later)
    (valid : earlier.ActiveValid)
    (complete : ∀ window, Enables earlier command → earlier.find? command.id = some window →
      window.isValid = true) : later.ActiveValid := by
  cases configured with
  | kept _ => exact valid
  | cleared _ =>
      intro id member
      cases member
  | silenced _ _ agree inactive =>
      apply valid.of_agreeOff agree
      intro member
      exact absurd member inactive
  | @activated _ window filed origin activated =>
      have id : (window.resolvedIn aidList).id = command.id :=
        (window.id_resolvedIn aidList).trans filed
      apply valid.of_agreeOff activated.agree
      intro _ _
      refine ⟨window.resolvedIn aidList, activated.found, ?_⟩
      rw [WindowConfig.isValid_resolvedIn]
      rcases origin with ⟨_, checked⟩ | ⟨enables, found⟩
      · exact checked
      · exact complete window enables found

theorem Reconfigured.activeValid {earlier later : Registry} {aidList : Option AidList}
    {operation : Operation} (reconfigured : Reconfigured earlier aidList operation later)
    (valid : earlier.ActiveValid)
    (complete : ∀ command window, operation = .command command → Enables earlier command →
      earlier.find? command.id = some window → window.isValid = true) : later.ActiveValid := by
  cases reconfigured with
  | untouched _ => exact valid
  | forgotten _ =>
      intro id member
      cases member
  | @commanded command _ configured =>
      exact configured.activeValid valid (fun window => complete command window rfl)
  | protection _ _ agree =>
      apply valid.of_agreeOff agree
      intro _ reachable
      exact absurd reachable (by decide)

/-- An incomplete window that is enabled without an update ends up active and incomplete. -/
theorem not_activeValid_of_enablesIncomplete (sound : scheduler.Sound) {command : Command}
    (enables : scheduler.EnablesIncomplete command) :
    ¬ (scheduler.after (.command command)).ActiveWindowsValid := by
  intro valid
  rcases enables.incomplete with ⟨window, found, incomplete⟩
  have enabling : Enables scheduler.registry command :=
    ⟨enables.named, enables.reachable, enables.noUpdate, enables.noDelete, enables.enable,
      window, found⟩
  have noPass : Operation.command command ≠ .pass := nofun
  obtain ⟨later, reconfigured, runs, active, _⟩ := after_reconfigured sound.registry noPass
  cases reconfigured with
  | untouched other => exact other command rfl
  | forgotten other => exact other command rfl
  | protection other _ _ => exact other command rfl
  | commanded configured =>
      cases configured with
      | kept idle => exact idle enabling
      | cleared idle => exact idle enabling
      | silenced idle _ _ _ => exact idle enabling
      | @activated _ switched filed origin activated =>
          rcases origin with ⟨updates, _⟩ | ⟨_, foundSwitched⟩
          · rw [enables.noUpdate] at updates
            cases updates
          · rw [found] at foundSwitched
            cases foundSwitched
            have id : (window.resolvedIn scheduler.aidList).id = command.id :=
              (window.id_resolvedIn scheduler.aidList).trans filed
            have member := activated.mem_active
            rw [id, ← active] at member
            rcases valid command.id member enables.reachable with ⟨current, present, complete⟩
            have same := runs.isValid_find? command.id
            rw [← id, activated.found, id, present, Option.map_some, Option.map_some,
              WindowConfig.isValid_resolvedIn, complete, incomplete] at same
            cases same

theorem activeValid_after_iff (sound : scheduler.Sound) (valid : scheduler.ActiveWindowsValid)
    (operation : Operation) :
    (scheduler.after operation).ActiveWindowsValid ↔
      ¬ ∃ command, operation = .command command ∧ scheduler.EnablesIncomplete command := by
  constructor
  · rintro after ⟨command, rfl, enables⟩
    exact not_activeValid_of_enablesIncomplete sound enables after
  · intro never
    by_cases pass : operation = .pass
    · subst pass
      exact activeValid_pass sound valid
    · obtain ⟨later, reconfigured, runs, _⟩ := after_reconfigured sound.registry pass
      refine runs.activeValid (reconfigured.activeValid valid ?_)
      intro command window commanded enabling found
      refine eq_true_of_ne_false (fun incomplete => never ⟨command, commanded, ?_⟩)
      rcases enabling with ⟨named, reachable, noUpdate, noDelete, enable, _⟩
      exact
        { named := named
          reachable := reachable
          enable := enable
          noUpdate := noUpdate
          noDelete := noDelete
          incomplete := ⟨window, found, incomplete⟩ }

theorem activeValid_of_create {kind : InterfaceKind} {options : SchedulerOptions}
    (creation : create kind options = .ok scheduler) : scheduler.ActiveWindowsValid := by
  intro id member
  rw [(blank_of_create creation).registry] at member
  cases member

/-- Active windows stay complete as long as no command enables a window that is stored
incomplete without updating it, and no longer. -/
theorem active_valid_iff_no_incomplete_enable {kind : InterfaceKind} {options : SchedulerOptions}
    (creation : create kind options = .ok scheduler) (history : List Operation) :
    Throughout ActiveWindowsValid scheduler history ↔
      AtNoStep (fun current operation => ∃ command,
        operation = .command command ∧ current.EnablesIncomplete command) scheduler history :=
  throughout_iff_atNoStep
    (fun _ operation sound valid => activeValid_after_iff sound valid operation)
    (sound_of_create creation) (activeValid_of_create creation)

def incompleteHistory : List Operation :=
  [.command ⟨3, { enable := false, delete := false, update := true }, []⟩,
    .command ⟨3, { enable := true, delete := false, update := false }, []⟩]

theorem active_valid_iff_on_incompleteHistory :
    ∃ fresh, create .accessPoint SchedulerOptions.standard = .ok fresh ∧
      (Throughout ActiveWindowsValid fresh incompleteHistory ↔
        AtNoStep (fun current operation => ∃ command,
          operation = .command command ∧ current.EnablesIncomplete command)
          fresh incompleteHistory) := by
  have creation : create .accessPoint SchedulerOptions.standard = .ok _ := rfl
  exact ⟨_, creation, active_valid_iff_no_incomplete_enable creation incompleteHistory⟩

/-- The window is active and incomplete then. -/
theorem incomplete_window_becomes_active :
    ∃ fresh, create .accessPoint SchedulerOptions.standard = .ok fresh ∧
      3 ∈ (fresh.afterAll incompleteHistory).registry.active ∧
      ((fresh.afterAll incompleteHistory).registry.find? 3).map WindowConfig.isValid =
        some false ∧
      ¬ (fresh.afterAll incompleteHistory).ActiveWindowsValid := by
  have creation : create .accessPoint SchedulerOptions.standard = .ok _ := rfl
  refine ⟨_, creation, by decide, by decide, ?_⟩
  intro valid
  rcases valid 3 (by decide) (by decide) with ⟨window, found, complete⟩
  cases found
  cases complete

end Scheduler

end RestrictedAccess
