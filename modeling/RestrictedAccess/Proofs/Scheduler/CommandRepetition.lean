/-
A command that arrives twice. The second copy finds the entry that the first one left, which is one
the command does not change any more, and realigns schedules that are aligned already. So a command
may be sent again without harm, whatever it asks for and however it ends. Only the answer can tell
the copies apart: a command that deletes a window and asks for it to be enabled finds nothing to
enable the second time.
-/

import Mathlib.Data.List.Sort
import RestrictedAccess.Proofs.Scheduler.CommandOrder
import RestrictedAccess.Proofs.Window.RepeatedPatches

namespace RestrictedAccess

open Station

attribute [ext] Scheduler

/-! ### Registries with the same entries -/

/-- Two tables that answer every look-up alike are equal. -/
theorem WindowTable.eq_of_find? {left right : WindowTable}
    (same : ∀ id, left.find? id = right.find? id) : left = right := by
  have irreflexive : Std.Irrefl (fun earlier later : Filing => earlier.key < later.key) :=
    ⟨fun filing => UInt16.lt_irrefl filing.key⟩
  have antisymmetric : Std.Antisymm (fun earlier later : Filing => earlier.key < later.key) :=
    ⟨fun _ _ below above => absurd (UInt16.lt_trans below above) (UInt16.lt_irrefl _)⟩
  have filings : left.filings = right.filings := by
    apply left.ascending.eq_of_mem_iff right.ascending
    rintro ⟨key, window⟩
    rw [mem_filings_iff, mem_filings_iff, same]
  cases left
  cases right
  cases filings
  rfl

namespace Registry

/-- A sound registry is determined by its entries. -/
theorem Sound.eq_of_entry {left right : Registry} (leftSound : left.Sound)
    (rightSound : right.Sound) (same : ∀ id, left.entry id = right.entry id) : left = right := by
  have table : left.table = right.table :=
    WindowTable.eq_of_find? (fun id => congrArg Entry.window (same id))
  obtain ⟨plain, periodic⟩ := leftSound.lists_of_membership rightSound
    (fun id => congrArg Entry.membership (same id))
  cases left
  cases right
  cases table
  cases plain
  cases periodic
  rfl

theorem Sound.realign_realign {registry : Registry} (sound : registry.Sound) :
    registry.realign.realign = registry.realign := by
  have once := sound.runsTo_realign.sound sound
  apply (once.runsTo_realign.sound once).eq_of_entry once
  intro id
  rw [once.entry_realign, sound.entry_realign, Entry.realigned_realigned]

end Registry

/-! ### One entry -/

namespace WindowConfig

variable (aidList : Option AidList)

theorem resolvedIn_resolvedIn (window : WindowConfig) :
    (window.resolvedIn aidList).resolvedIn aidList = window.resolvedIn aidList := by
  cases aidList with
  | none => rfl
  | some aids =>
      have unwritten : Command.writeAll [] window = window := rfl
      exact Command.resolveIndices_writeAll_of_fixed unwritten aids

end WindowConfig

namespace Command

open Registry

variable (command : Command) (aidList : Option AidList) (entry : Entry)

/-- Applied to the window it left, a command writes the same window up to the cached slice, and
resolving that window gives the one it left. -/
theorem writeAll_resolvedIn_again (window : WindowConfig) :
    (writeAll command.writes ((writeAll command.writes window).resolvedIn aidList)).isValid =
        (writeAll command.writes window).isValid ∧
      (writeAll command.writes ((writeAll command.writes window).resolvedIn aidList)).resolvedIn
        aidList = (writeAll command.writes window).resolvedIn aidList := by
  have fixed := command.writeAll_writes_again window
  cases aidList with
  | none =>
      have same : writeAll command.writes ((writeAll command.writes window).resolvedIn none) =
          writeAll command.writes window := fixed
      rw [same]
      exact ⟨rfl, rfl⟩
  | some aids =>
      exact ⟨WindowConfig.isValid_of_unresolved (unresolved_writeAll_of_fixed fixed aids),
        resolveIndices_writeAll_of_fixed fixed aids⟩

/-- An update that finds the entry it left leaves it as it is, and ends as it did. -/
theorem effectOfUpdate_again :
    command.effectOfUpdate aidList (command.effectOfUpdate aidList entry).1 =
      command.effectOfUpdate aidList entry := by
  unfold effectOfUpdate
  simp only [applyTo_eq_writes]
  cases fault? command.fields with
  | some fault => rfl
  | none =>
      simp only [Option.elim_none]
      generalize command.current entry = window
      obtain ⟨valid, resolved⟩ := command.writeAll_resolvedIn_again aidList window
      have fixed := command.writeAll_writes_again window
      cases complete : (writeAll command.writes window).isValid with
      | false =>
          have silent : command.current (.silent (writeAll command.writes window)) =
              writeAll command.writes window := rfl
          simp only [Bool.false_eq_true, if_false, silent, fixed, complete]
      | true =>
          cases command.flags.enable with
          | false =>
              have silent : command.current (.silent (writeAll command.writes window)) =
                  writeAll command.writes window := rfl
              simp only [Bool.false_eq_true, if_true, if_false, silent, fixed, complete]
          | true =>
              have listed : command.current
                  (.listed ((writeAll command.writes window).resolvedIn aidList)) =
                  (writeAll command.writes window).resolvedIn aidList := rfl
              simp only [if_true, listed, valid, resolved, complete]

def losesWindow : Bool :=
  command.flags.delete && command.flags.enable && entry.window.isSome

/-- Without an update, a command that finds the entry it left leaves it as it is. It misses the
window if it deleted it and wants it enabled. -/
theorem effectWithoutUpdate_again :
    command.effectWithoutUpdate aidList (command.effectWithoutUpdate aidList entry).1 =
      ((command.effectWithoutUpdate aidList entry).1,
        if command.losesWindow entry then .error (.windowNotFound command.id)
        else (command.effectWithoutUpdate aidList entry).2) := by
  unfold effectWithoutUpdate losesWindow
  cases found : entry.window with
  | none => simp [found]
  | some window =>
      cases command.flags.delete with
      | true => cases command.flags.enable <;> rfl
      | false =>
          cases command.flags.enable with
          | false => rfl
          | true =>
              have resolved := window.resolvedIn_resolvedIn aidList
              simp only [if_true, Bool.false_eq_true, if_false, Bool.false_and,
                Entry.listed, resolved]

def loses : Bool :=
  decide (command.id < firstInternalId) && !command.flags.update && command.losesWindow entry

theorem effect_again :
    command.effect aidList (command.effect aidList entry).1 =
      ((command.effect aidList entry).1,
        if command.loses entry then .error (.windowNotFound command.id)
        else (command.effect aidList entry).2) := by
  unfold effect loses
  by_cases reserved : firstInternalId ≤ command.id
  · have unreachable : ¬ command.id < firstInternalId := UInt16.not_lt.mpr reserved
    simp only [if_pos reserved, unreachable, decide_false, Bool.false_and, Bool.false_eq_true,
      if_false]
  · have reachable : command.id < firstInternalId := UInt16.not_le.mp reserved
    simp only [if_neg reserved, reachable, decide_true, Bool.true_and]
    cases command.flags.update with
    | true => exact command.effectOfUpdate_again aidList entry
    | false => exact command.effectWithoutUpdate_again aidList entry

theorem effect_realigned_again :
    command.effect aidList (command.effect aidList entry).1.realigned =
      ((command.effect aidList entry).1.realigned,
        if command.loses entry then .error (.windowNotFound command.id)
        else (command.effect aidList entry).2) := by
  have again := command.effect_again aidList entry
  by_cases active : (command.effect aidList entry).1.membership = .periodic
  · rw [Entry.realigned_eq_aligned active, effect_aligned, again]
  · have idle : (command.effect aidList entry).1.realigned = (command.effect aidList entry).1 :=
      if_neg active
    rw [idle, again]

end Command

namespace Scheduler

open Registry

variable {scheduler : Scheduler} {command : Command}

/-! ### Commands that name a window -/

/-- The second copy of a command finds everything as it leaves it. -/
theorem Commanded.eq_of_again {earlier once twice : Scheduler}
    (first : Commanded command earlier once) (second : Commanded command once twice) :
    twice = once := by
  have registry : twice.registry = once.registry := by
    apply second.sound.eq_of_entry first.sound
    intro id
    rw [second.entry, first.entry id, first.entry command.id, if_pos rfl, first.aidList]
    by_cases named : id = command.id
    · rw [if_pos named, if_pos named, command.effect_realigned_again, Entry.realigned_realigned]
    · rw [if_neg named, if_neg named, Entry.realigned_realigned]
  have full : once.fullBurst = earlier.fullBurst := by
    unfold fullBurst
    rw [first.options]
  apply Scheduler.ext
  · exact second.options
  · exact registry
  · exact second.stations
  · exact second.aidList
  · exact second.payload
  · rw [second.burst, registry, first.burst, full]
    split <;> rfl
  · rw [second.pending, first.pending, first.enabled, first.aidList]
    simp only [Bool.or_assoc, Bool.or_self]
  · exact second.enabled
  · rw [second.everyBeacon, registry, first.everyBeacon]
  · exact second.stats

/-! ### Commands to the scheduler as a whole -/

/-- The windows that a command to the scheduler as a whole leaves, with their schedules realigned. -/
def spared (scheduler : Scheduler) (command : Command) : Registry :=
  (if command.flags.delete then .empty else scheduler.registry).realign

theorem applyCommand_of_engine (engine : command.id = engineId) :
    (scheduler.applyCommand command).1 =
      { scheduler with
        registry := if command.flags.delete then .empty else scheduler.registry
        pending := { scheduler.pending with
          enabledChanged := scheduler.pending.enabledChanged ||
            (scheduler.enabled != command.flags.enable) }
        enabled := command.flags.enable } := by
  unfold applyCommand applyToEngine
  rw [if_neg (by rw [engine]; decide), if_pos engine]
  cases command.flags.enable with
  | true =>
      rw [if_pos rfl, enable_eq, Bool.bne_true]
      cases command.flags.delete <;> rfl
  | false =>
      rw [if_neg Bool.false_ne_true, disable_eq, Bool.bne_false]
      cases command.flags.delete <;> rfl

theorem processCommand_of_engine (engine : command.id = engineId) :
    (scheduler.processCommand command).scheduler =
      { scheduler with
        registry := scheduler.spared command
        burst :=
          if (scheduler.spared command).periodic = [] then scheduler.burst
          else scheduler.fullBurst
        pending := { scheduler.pending with
          refreshAids := scheduler.pending.refreshAids ||
            (command.flags.enable && scheduler.aidList.isNone)
          enabledChanged := scheduler.pending.enabledChanged ||
            (scheduler.enabled != command.flags.enable) }
        enabled := command.flags.enable
        everyBeacon := (scheduler.spared command).needsEveryBeacon } := by
  obtain ⟨everyBeacon, settled⟩ :=
    settleConfiguration_realigned (scheduler.applyCommand command).1
  have exact := scheduler.everyBeaconExact_processCommand command
  unfold EveryBeaconExact at exact
  unfold processCommand at exact ⊢
  simp only [settled, triggerUpdate_eq] at exact ⊢
  simp only [exact, applyCommand_of_engine engine, Bool.or_false]
  rfl

theorem processCommand_again_of_engine (sound : scheduler.registry.Sound)
    (engine : command.id = engineId) :
    ((scheduler.processCommand command).scheduler.processCommand command).scheduler =
      (scheduler.processCommand command).scheduler := by
  have first : (scheduler.processCommand command).scheduler = _ := processCommand_of_engine engine
  have spared : (scheduler.processCommand command).scheduler.spared command =
      scheduler.spared command := by
    rw [first]
    unfold Scheduler.spared
    cases command.flags.delete with
    | true => rfl
    | false => exact sound.realign_realign
  rw [processCommand_of_engine engine, spared, first]
  apply Scheduler.ext
  · rfl
  · rfl
  · rfl
  · rfl
  · rfl
  · simp only
    split <;> rfl
  · simp only [bne_self_eq_false, Bool.or_false, Bool.or_assoc, Bool.or_self]
  · rfl
  · rfl
  · rfl

theorem answer_of_engine (engine : command.id = engineId) :
    (scheduler.processCommand command).answer = .ok () := by
  unfold processCommand applyCommand
  rw [if_neg (by rw [engine]; decide), if_pos engine]

/-! ### Commands that arrive twice -/

structure DeletesToEnable (scheduler : Scheduler) (command : Command) : Prop where
  named : command.id ≠ engineId
  reachable : command.id < firstInternalId
  without : command.flags.update = false
  deletes : command.flags.delete = true
  enables : command.flags.enable = true
  stored : ∃ window, scheduler.registry.find? command.id = some window

theorem loses_iff (named : command.id ≠ engineId) :
    command.loses (scheduler.registry.entry command.id) = true ↔
      scheduler.DeletesToEnable command := by
  unfold Command.loses Command.losesWindow
  simp only [Bool.and_eq_true, decide_eq_true_eq, Bool.not_eq_true', Option.isSome_iff_exists]
  constructor
  · rintro ⟨⟨reachable, without⟩, ⟨deletes, enables⟩, stored⟩
    exact ⟨named, reachable, without, deletes, enables, stored⟩
  · rintro ⟨_, reachable, without, deletes, enables, stored⟩
    exact ⟨⟨reachable, without⟩, ⟨deletes, enables⟩, stored⟩

theorem DeletesToEnable.answer (sound : scheduler.registry.Sound)
    (loses : scheduler.DeletesToEnable command) :
    (scheduler.processCommand command).answer = .ok () := by
  obtain ⟨window, found⟩ := loses.stored
  have stored : (scheduler.registry.entry command.id).window = some window := found
  rw [(commanded_processCommand sound loses.named).1]
  unfold Command.effect Command.effectWithoutUpdate
  rw [if_neg (UInt16.not_le.mpr loses.reachable), loses.without, stored]
  rfl

structure RepeatsHarmlessly (command : Command) (scheduler : Scheduler) : Prop where
  state : ((scheduler.processCommand command).scheduler.processCommand command).scheduler =
    (scheduler.processCommand command).scheduler
  answer : ¬ scheduler.DeletesToEnable command →
    ((scheduler.processCommand command).scheduler.processCommand command).answer =
      (scheduler.processCommand command).answer
  /-- The one kind of command whose copies are told apart. -/
  answerOfDeletion : scheduler.DeletesToEnable command →
    (scheduler.processCommand command).answer = .ok () ∧
      ((scheduler.processCommand command).scheduler.processCommand command).answer =
        .error (.windowNotFound command.id)

/-- A command that arrives twice does what it does when it arrives once. -/
theorem repeated_command_changes_nothing (reachable : Reachable scheduler) (command : Command) :
    RepeatsHarmlessly command scheduler := by
  have sound := reachable.sound.registry
  by_cases engine : command.id = engineId
  · refine
      { state := processCommand_again_of_engine sound engine
        answer := ?_
        answerOfDeletion := fun loses => absurd engine loses.named }
    intro _
    rw [answer_of_engine engine, answer_of_engine engine]
  · obtain ⟨firstAnswer, first⟩ := commanded_processCommand sound engine
    obtain ⟨secondAnswer, second⟩ := commanded_processCommand first.sound engine
    rw [first.entry, if_pos rfl, first.aidList, command.effect_realigned_again] at secondAnswer
    refine { state := first.eq_of_again second, answer := ?_, answerOfDeletion := ?_ }
    · intro keeps
      rw [secondAnswer, if_neg (mt (loses_iff engine).mp keeps), firstAnswer]
    · intro loses
      refine ⟨loses.answer sound, ?_⟩
      rw [secondAnswer, if_pos ((loses_iff engine).mpr loses)]

/-- Other stations for a schedule that is past its offset, given twice, and spreading for it. -/
def regroupingCommand : Command :=
  { id := 1
    flags := { enable := true, delete := false, update := true }
    fields := [.group 1 2, .spread 0 1, .group 3 9] }

def contradictoryCommand : Command :=
  { id := 2
    flags := { enable := true, delete := true, update := false }
    fields := [] }

theorem repeated_command_after_pacedHistory :
    ∃ fresh, create .accessPoint { SchedulerOptions.standard with enabled := true } = .ok fresh ∧
      Reachable (fresh.afterAll pacedHistory) ∧
      (((fresh.afterAll pacedHistory).registry.find? 1).map fun window =>
          (window.indices, window.periodic.map PeriodicSchedule.offsetLeft)) =
        some (.unresolved, some 0) ∧
      (((fresh.afterAll (pacedHistory ++ [.command regroupingCommand])).registry.find? 1).map
          fun window => (window.indices, window.periodic.map PeriodicSchedule.offsetLeft)) =
        some (⟨0, 0⟩, some 1) ∧
      RepeatsHarmlessly regroupingCommand (fresh.afterAll pacedHistory) ∧
      (fresh.afterAll pacedHistory).DeletesToEnable contradictoryCommand ∧
      RepeatsHarmlessly contradictoryCommand (fresh.afterAll pacedHistory) := by
  have creation :
      create .accessPoint { SchedulerOptions.standard with enabled := true } = .ok _ := rfl
  have reachable := (Reachable.created creation).afterAll pacedHistory
  refine ⟨_, creation, reachable, ?_, ?_,
    repeated_command_changes_nothing reachable regroupingCommand, ?_,
    repeated_command_changes_nothing reachable contradictoryCommand⟩
  · decide +kernel
  · decide +kernel
  · refine
      { named := by decide
        reachable := by decide
        without := rfl
        deletes := rfl
        enables := rfl
        stored := Option.isSome_iff_exists.mp ?_ }
    decide +kernel

end Scheduler

end RestrictedAccess
