/-
The configuration of a window as a function of its own commands. Beacons, passes, stations and
commands for other windows write into stored windows as well, but only into their running state.
So what is stored of a window can be replayed: it is what the accepted updates since its last
deletion make of an empty window.
-/

import Mathlib.Data.List.DropRight
import RestrictedAccess.Proofs.Scheduler.CommandEffect
import RestrictedAccess.Proofs.Scheduler.Histories
import RestrictedAccess.Proofs.Window.Patches

namespace RestrictedAccess

open Station

namespace Command

def isAcceptable (command : Command) : Bool :=
  (fault? command.fields).isNone

theorem fault?_flatMap {commands : List Command}
    (acceptable : ∀ command, command ∈ commands → command.isAcceptable = true) :
    fault? (commands.flatMap Command.fields) = none := by
  unfold fault?
  rw [List.findSome?_eq_none_iff]
  intro field member
  obtain ⟨command, listed, inside⟩ := List.mem_flatMap.mp member
  exact List.findSome?_eq_none_iff.mp (Option.isNone_iff_eq_none.mp (acceptable command listed))
    field inside

theorem writeAll_append (first second : List CommandField) (window : WindowConfig) :
    writeAll (first ++ second) window = writeAll second (writeAll first window) :=
  List.foldl_append

end Command

/-! ### Updates and deletions in a history -/

namespace Operation

/-- Whether an operation deletes a window, or would if it were stored. -/
def deletes (id : WindowId) : Operation → Bool
  | .command asked =>
      asked.flags.delete && (asked.id = engineId || asked.id = id && !asked.flags.update)
  | .teardown => true
  | _ => false

def update? (id : WindowId) : Operation → Option Command
  | .command asked =>
      if asked.id = id ∧ asked.flags.update = true ∧ asked.isAcceptable = true then some asked
      else none
  | _ => none

def reconfigure (id : WindowId) (operation : Operation) (current : Option WindowConfig) :
    Option WindowConfig :=
  if operation.deletes id then none
  else
    match operation.update? id with
    | none => current
    | some update => some (Command.writeAll update.fields (current.getD (.empty id)))

section Reconfigure

variable {command : Command} (current : Option WindowConfig)

theorem reconfigure_own (named : command.id ≠ engineId) :
    (Operation.command command).reconfigure command.id current =
      if command.flags.update then
        if command.isAcceptable then
          some (Command.writeAll command.fields (current.getD (.empty command.id)))
        else current
      else if command.flags.delete then none
      else current := by
  simp only [reconfigure, deletes, update?, named, decide_false, decide_true, Bool.true_and,
    Bool.false_or, true_and]
  cases command.flags.update with
  | true =>
      simp only [Bool.not_true, Bool.and_false, Bool.false_eq_true, if_false, if_true, true_and]
      cases command.isAcceptable <;> rfl
  | false =>
      simp only [Bool.not_false, Bool.and_true, Bool.false_eq_true, if_false, false_and]

theorem reconfigure_other (named : command.id ≠ engineId) {id : WindowId}
    (different : command.id ≠ id) :
    (Operation.command command).reconfigure id current = current := by
  unfold reconfigure deletes update?
  simp only [named, different, decide_false, Bool.false_and, Bool.or_self, Bool.and_false,
    Bool.false_eq_true, if_false, false_and]

theorem reconfigure_engine (engine : command.id = engineId) {id : WindowId}
    (named : id ≠ engineId) :
    (Operation.command command).reconfigure id current =
      if command.flags.delete then none else current := by
  have other : engineId ≠ id := named.symm
  unfold reconfigure deletes update?
  simp only [engine, other, decide_true, Bool.true_or, Bool.and_true, false_and, if_false]

end Reconfigure

end Operation

/-- The commands that updated a window since it was last deleted, in their order. -/
def updatesSince (id : WindowId) (history : List Operation) : List Command :=
  (history.rtakeWhile (fun operation => !operation.deletes id)).filterMap (Operation.update? id)

theorem updatesSince_concat (id : WindowId) (history : List Operation) (operation : Operation) :
    updatesSince id (history ++ [operation]) =
      if operation.deletes id then []
      else updatesSince id history ++ (operation.update? id).toList := by
  unfold updatesSince
  rw [List.rtakeWhile_concat]
  cases operation.deletes id with
  | true => rfl
  | false =>
      have single : [operation].filterMap (Operation.update? id) =
          (operation.update? id).toList := by
        rw [List.filterMap_cons]
        cases operation.update? id <;> rfl
      simp only [Bool.not_false, if_true, Bool.false_eq_true, if_false, List.filterMap_append,
        single]

theorem acceptable_of_updatesSince {id : WindowId} {history : List Operation} {command : Command}
    (member : command ∈ updatesSince id history) : command.isAcceptable = true := by
  obtain ⟨operation, _, updated⟩ := List.mem_filterMap.mp member
  cases operation with
  | command asked =>
      unfold Operation.update? at updated
      simp only at updated
      split at updated
      · rename_i accepted
        cases updated
        exact accepted.2.2
      · cases updated
  | _ => cases updated

/-! ### Single operations -/

namespace Registry

def configured? (registry : Registry) (id : WindowId) : Option WindowConfig :=
  (registry.find? id).map WindowConfig.configuration

theorem RunsTo.configured? {earlier later : Registry} (runs : RunsTo earlier later)
    (id : WindowId) : later.configured? id = earlier.configured? id := by
  have view : WindowConfig.configuration =
      (fun window : WindowConfig => { window with indices := .unresolved }) ∘
        WindowConfig.resting := rfl
  unfold Registry.configured?
  rw [view, ← Option.map_map, runs.resting, Option.map_map]

theorem Entry.configuration_realigned (entry : Entry) :
    entry.realigned.window.map WindowConfig.configuration =
      entry.window.map WindowConfig.configuration := by
  have kept (window : WindowConfig) : window.realigned.configuration = window.configuration :=
    WindowConfig.configuration_of_resting window.resting_realigned
  unfold realigned
  split
  · simp only [Option.map_map, Function.comp_def, kept]
  · rfl

end Registry

namespace Scheduler

variable {scheduler : Scheduler}

theorem configuration_resolvedIn (aidList : Option AidList) (window : WindowConfig) :
    (window.resolvedIn aidList).configuration = window.configuration := by
  cases aidList with
  | none => rfl
  | some aids => exact WindowConfig.configuration_resolveIndices aids window

theorem configuration_effectOfUpdate (command : Command) (aidList : Option AidList)
    {entry : Registry.Entry}
    (generic : ∀ window, entry.window = some window → window.kind = .generic) :
    (command.effectOfUpdate aidList entry).1.window.map WindowConfig.configuration =
      if command.isAcceptable then
        some (Command.writeAll command.fields
          ((entry.window.map WindowConfig.configuration).getD (.empty command.id)))
      else entry.window.map WindowConfig.configuration := by
  have current : (command.current entry).configuration =
      (entry.window.map WindowConfig.configuration).getD (.empty command.id) := by
    unfold Command.current
    cases entry.window <;> rfl
  have kind : (command.current entry).kind = .generic := by
    unfold Command.current
    cases stored : entry.window with
    | none => rfl
    | some window => exact generic window stored
  -- The kind starts over, but only windows of that kind are stored.
  have restarted : { command.current entry with kind := .generic } = command.current entry :=
    congrArg (fun kind => { command.current entry with kind }) kind.symm
  have written := Command.writeAll_change CommandField.write_configuration command.fields
    (command.current entry)
  rw [current] at written
  unfold Command.effectOfUpdate Command.isAcceptable
  rw [Command.applyTo_eq, restarted, written]
  cases Command.fault? command.fields with
  | some fault => rfl
  | none =>
      simp only [Option.elim_none, Option.isNone_none, if_true]
      split
      · cases command.flags.enable with
        | false => rfl
        | true => exact congrArg some (configuration_resolvedIn aidList _)
      · rfl

theorem configuration_effectWithoutUpdate (command : Command) (aidList : Option AidList)
    (entry : Registry.Entry) :
    (command.effectWithoutUpdate aidList entry).1.window.map WindowConfig.configuration =
      if command.flags.delete then none else entry.window.map WindowConfig.configuration := by
  unfold Command.effectWithoutUpdate
  cases stored : entry.window with
  | none =>
      rw [Option.map_none, ite_self]
      exact congrArg (Option.map WindowConfig.configuration) stored
  | some window =>
      cases command.flags.delete with
      | true => rfl
      | false =>
          cases command.flags.enable with
          | false => rfl
          | true => exact congrArg some (configuration_resolvedIn aidList window)

theorem configuration_effect {command : Command} (named : command.id ≠ engineId)
    (reachable : command.id < firstInternalId) (aidList : Option AidList)
    {entry : Registry.Entry}
    (generic : ∀ window, entry.window = some window → window.kind = .generic) :
    (command.effect aidList entry).1.window.map WindowConfig.configuration =
      (Operation.command command).reconfigure command.id
        (entry.window.map WindowConfig.configuration) := by
  unfold Command.effect
  rw [if_neg (UInt16.not_le.mpr reachable), Operation.reconfigure_own _ named]
  split
  · exact configuration_effectOfUpdate command aidList generic
  · exact configuration_effectWithoutUpdate command aidList entry

theorem configured?_processCommand (sound : scheduler.registry.Sound) (command : Command)
    {id : WindowId} (named : id ≠ engineId) (reachable : id < firstInternalId) :
    (scheduler.processCommand command).scheduler.registry.configured? id =
      (Operation.command command).reconfigure id (scheduler.registry.configured? id) := by
  by_cases engine : command.id = engineId
  · rw [(runsTo_processCommand sound command).configured?,
      registry_applyCommand_of_engine engine, Operation.reconfigure_engine _ engine named]
    split <;> rfl
  · obtain ⟨_, commanded⟩ := commanded_processCommand sound engine
    have entry := congrArg (fun entry : Registry.Entry =>
      entry.window.map WindowConfig.configuration) (commanded.entry id)
    simp only [Registry.Entry.configuration_realigned] at entry
    refine Eq.trans entry ?_
    by_cases same : id = command.id
    · rw [if_pos same, same]
      refine configuration_effect engine (same ▸ reachable) _ ?_
      intro window found
      exact (sound.windows command.id window found).generic
    · rw [if_neg same, Operation.reconfigure_other _ engine (Ne.symm same)]
      rfl

theorem configured?_runPass (sound : scheduler.Sound) (id : WindowId) :
    scheduler.runPass.scheduler.registry.configured? id = scheduler.registry.configured? id := by
  cases enabled : scheduler.enabled with
  | false =>
      rw [runPass_disabled enabled]
      rfl
  | true =>
      obtain ⟨_, passed⟩ := sound.runPass_enabled enabled
      rw [(passed.runsTo_of_refreshed sound).configured?]
      unfold Registry.configured?
      rw [sound.find?_refreshedRegistry, Option.map_map]
      congr 1
      funext window
      simp only [Function.comp_apply]
      split
      · exact WindowConfig.configuration_resolveIndices _ window
      · rfl

theorem Sound.configured?_after (sound : scheduler.Sound) (operation : Operation) {id : WindowId}
    (named : id ≠ engineId) (reachable : id < firstInternalId) :
    (scheduler.after operation).registry.configured? id =
      operation.reconfigure id (scheduler.registry.configured? id) := by
  have same {next : Scheduler} (registry : next.registry = scheduler.registry) :
      next.registry.configured? id = scheduler.registry.configured? id := by
    rw [registry]
  have internal {next : Scheduler} (agree : Registry.AgreeOff protectionId scheduler.registry
      next.registry) : next.registry.configured? id = scheduler.registry.configured? id := by
    have apart : id ≠ protectionId := by
      intro equal
      subst equal
      exact absurd reachable (by decide)
    unfold Registry.configured?
    rw [agree.found id apart]
  cases operation with
  | command command => exact configured?_processCommand sound.registry command named reachable
  | associate aid => exact same (scheduler.takeStations_spec _).1
  | disassociate aid => exact same (scheduler.takeStations_spec _).1
  | beaconSent => exact same (undisturbed_beaconSent scheduler).registry
  | triggerUpdate refreshAids => exact same (undisturbed_triggerUpdate scheduler _).registry
  | pass => exact configured?_runPass sound id
  | enable => exact same (undisturbed_enable scheduler).registry
  | disable => exact same (undisturbed_disable scheduler).registry
  | setDtimPeriod period => exact same rfl
  | teardown => exact rfl
  | installProtection aid =>
      obtain ⟨later, _, agree, kept⟩ := installProtection_spec sound.registry aid
      have registry : (scheduler.after (.installProtection aid)).registry = later := kept.registry
      exact internal (registry.symm ▸ agree)
  | removeProtection =>
      have kept := undisturbed_triggerUpdate
        { scheduler with registry := scheduler.registry.deactivate protectionId } false
      have registry : (scheduler.after .removeProtection).registry =
          scheduler.registry.deactivate protectionId := kept.registry
      exact internal (registry.symm ▸ sound.registry.agreeOff_deactivate protectionId)

/-! ### Histories -/

/-- The configuration that updates make of an empty window. Without an update there is none. -/
def replay (id : WindowId) (updates : List Command) : Option WindowConfig :=
  if updates = [] then none
  else some (Command.writeAll (updates.flatMap Command.fields) (.empty id))

theorem replay_concat (id : WindowId) (updates : List Command) (command : Command) :
    replay id (updates ++ [command]) =
      some (Command.writeAll command.fields ((replay id updates).getD (.empty id))) := by
  unfold replay
  rw [if_neg (List.append_ne_nil_of_right_ne_nil _ (List.cons_ne_nil _ _)), List.flatMap_append,
    Command.writeAll_append, List.flatMap_singleton]
  by_cases none : updates = []
  · rw [if_pos none, none]
    rfl
  · rw [if_neg none]
    rfl

theorem configured?_afterAll {kind : InterfaceKind} {options : SchedulerOptions}
    {fresh : Scheduler} (creation : create kind options = .ok fresh) (history : List Operation)
    {id : WindowId} (named : id ≠ engineId) (reachable : id < firstInternalId) :
    (fresh.afterAll history).registry.configured? id = replay id (updatesSince id history) := by
  have blank := blank_of_create creation
  have sound := sound_of_create creation
  induction history using List.reverseRecOn with
  | nil =>
      change fresh.registry.configured? id = none
      rw [blank.registry]
      rfl
  | append_singleton past operation ih =>
      rw [afterAll_concat, (sound.afterAll past).configured?_after operation named reachable, ih,
        updatesSince_concat]
      unfold Operation.reconfigure
      cases operation.deletes id with
      | true => rfl
      | false =>
          cases operation.update? id with
          | none => simp only [Bool.false_eq_true, if_false, Option.toList_none, List.append_nil]
          | some command =>
              simp only [Bool.false_eq_true, if_false, Option.toList_some]
              exact (replay_concat id _ command).symm

/-- A window that is stored while it was updated since its last deletion, as these updates
configured it. -/
structure ConfiguredByUpdates (id : WindowId) (history : List Operation) (registry : Registry) :
    Prop where
  stored : (∃ window, registry.find? id = some window) ↔ updatesSince id history ≠ []
  configured : ∀ window, registry.find? id = some window → ∃ rebuilt,
    Command.patch ((updatesSince id history).flatMap Command.fields) (.empty id) = .ok rebuilt ∧
      window.configuration = rebuilt.configuration

/-- The configuration of a window is decided by its own commands alone. -/
theorem windows_configured_by_their_updates {kind : InterfaceKind} {options : SchedulerOptions}
    {fresh : Scheduler} (creation : create kind options = .ok fresh) (history : List Operation)
    {id : WindowId} (named : id ≠ engineId) (reachable : id < firstInternalId) :
    ConfiguredByUpdates id history (fresh.afterAll history).registry := by
  have replayed := configured?_afterAll creation history named reachable
  have acceptable : Command.fault? ((updatesSince id history).flatMap Command.fields) = none :=
    Command.fault?_flatMap (fun _ member => acceptable_of_updatesSince member)
  unfold Registry.configured? replay at replayed
  refine { stored := ?_, configured := ?_ }
  · by_cases none : updatesSince id history = []
    · rw [if_pos none, Option.map_eq_none_iff] at replayed
      simp [replayed, none]
    · rw [if_neg none] at replayed
      obtain ⟨window, found, _⟩ := Option.map_eq_some_iff.mp replayed
      exact iff_of_true ⟨window, found⟩ none
  · intro window found
    rw [found, Option.map_some] at replayed
    refine ⟨Command.writeAll ((updatesSince id history).flatMap Command.fields) (.empty id), ?_, ?_⟩
    · rw [Command.patch_eq, acceptable]
      rfl
    · split at replayed
      · cases replayed
      · rw [← Command.writeAll_change CommandField.write_configuration]
        exact Option.some.inj replayed

/-- A window whose schedule lapses is deleted with all others. It is then configured anew by two
updates, with a refused one between them, while another window comes and goes. -/
def rebuiltHistory : List Operation :=
  [.command
      { id := 1
        flags := { enable := true, delete := false, update := true }
        fields := [.slots 4000 4 false, .group 3 7, .periodic 1 1 0 false] },
    .associate 5, .pass, .beaconSent, .pass, .installProtection 7,
    .command
      { id := engineId
        flags := { enable := true, delete := true, update := false }
        fields := [] },
    .command
      { id := 1
        flags := { enable := true, delete := false, update := true }
        fields := [.slots 4000 4 false, .group 3 7, .spread 0 1] },
    .command
      { id := 1
        flags := { enable := true, delete := false, update := true }
        fields := [.group 1 2, .kind 1] },
    .command
      { id := 2
        flags := { enable := true, delete := false, update := true }
        fields := [.slots 4000 4 false, .group 3 7] },
    .beaconSent, .pass,
    .command
      { id := 1
        flags := { enable := false, delete := true, update := true }
        fields := [.group 4 9] },
    .command
      { id := 2
        flags := { enable := true, delete := true, update := false }
        fields := [] }]

theorem windows_configured_in_rebuiltHistory :
    ∃ fresh, create .accessPoint { SchedulerOptions.standard with enabled := true } = .ok fresh ∧
      (1 : WindowId) ≠ engineId ∧ (1 : WindowId) < firstInternalId ∧
      (updatesSince 1 rebuiltHistory).length = 2 ∧
      ((fresh.afterAll rebuiltHistory).registry.find? 1).map
        (fun window => (window.startAid, window.endAid, window.slot.count)) = some (4, 9, 4) ∧
      ConfiguredByUpdates 1 rebuiltHistory (fresh.afterAll rebuiltHistory).registry ∧
      (2 : WindowId) ≠ engineId ∧ (2 : WindowId) < firstInternalId ∧
      updatesSince 2 rebuiltHistory = [] ∧
      ConfiguredByUpdates 2 rebuiltHistory (fresh.afterAll rebuiltHistory).registry := by
  have creation :
      create .accessPoint { SchedulerOptions.standard with enabled := true } = .ok _ := rfl
  refine ⟨_, creation, by decide, by decide, by decide, ?_,
    windows_configured_by_their_updates creation rebuiltHistory (by decide) (by decide),
    by decide, by decide, by decide,
    windows_configured_by_their_updates creation rebuiltHistory (by decide) (by decide)⟩
  decide +kernel

end Scheduler

end RestrictedAccess
