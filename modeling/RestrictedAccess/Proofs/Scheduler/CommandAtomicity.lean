/-
Commands are confined to the window they name, and they apply as a whole or not at all. Whatever a
command asks for, other windows keep their configuration and their place; a command that is refused
leaves its own window alone as well; and the one failure that does change something stores the
patched window without activating it.
-/

import RestrictedAccess.Proofs.Scheduler.CommandEffect

namespace RestrictedAccess

namespace Registry

/-- A window that is stored and listed as it was, with its schedule realigned if it is active. -/
structure KeptUpToAlignment (id : WindowId) (earlier later : Registry) : Prop where
  membership : later.membership id = earlier.membership id
  found : later.find? id =
    if id ∈ later.periodic then (earlier.find? id).map WindowConfig.realigned
    else earlier.find? id

theorem keptUpToAlignment_of_entry {id : WindowId} {earlier later : Registry}
    (sound : later.Sound) (same : later.entry id = (earlier.entry id).realigned) :
    KeptUpToAlignment id earlier later := by
  have membership : later.membership id = earlier.membership id := by
    have listed := congrArg Entry.membership same
    rw [Entry.membership_realigned] at listed
    exact listed
  have stored : later.find? id = (earlier.entry id).realigned.window := congrArg Entry.window same
  refine { membership := membership, found := ?_ }
  rw [stored]
  unfold Entry.realigned
  by_cases active : id ∈ later.periodic
  · have listed : (earlier.entry id).membership = .periodic :=
      membership.symm.trans ((sound.membership_eq_periodic_iff id).mpr active)
    rw [if_pos active, if_pos listed]
    rfl
  · have unlisted : (earlier.entry id).membership ≠ .periodic := fun listed =>
      active ((sound.membership_eq_periodic_iff id).mp (membership.trans listed))
    rw [if_neg active, if_neg unlisted]
    rfl

end Registry

namespace Scheduler

open Registry

inductive Refusal (command : Command) (earlier : Scheduler) : Fault → Prop
  | reserved (internal : firstInternalId ≤ command.id) :
      Refusal command earlier (.idReserved command.id)
  | missing (without : command.flags.update = false) (enables : command.flags.enable = true)
      (absent : earlier.registry.find? command.id = none) :
      Refusal command earlier (.windowNotFound command.id)
  | unacceptable {fault : Fault} (updates : command.flags.update = true)
      (rejected : command.applyTo ((earlier.registry.find? command.id).getD (.empty command.id)) =
        .error fault) :
      Refusal command earlier fault

inductive Ended (command : Command) (earlier later : Scheduler) : Except Fault Unit → Prop
  | done : Ended command earlier later (.ok ())
  | refused {fault : Fault} (cause : Refusal command earlier fault)
      (kept : KeptUpToAlignment command.id earlier.registry later.registry) :
      Ended command earlier later (.error fault)
  | incomplete {updated : WindowConfig} (updates : command.flags.update = true)
      (enables : command.flags.enable = true)
      (patched : command.applyTo ((earlier.registry.find? command.id).getD (.empty command.id)) =
        .ok updated)
      (invalid : updated.isValid = false)
      (stored : later.registry.find? command.id = some updated)
      (inactive : command.id ∉ later.registry.active) :
      Ended command earlier later (.error (.windowIncomplete command.id))

variable {scheduler : Scheduler}

/-! ### The failures of a command -/

/-- An update fails before it changes anything, or because the window is not complete. -/
theorem ended_of_update {command : Command} {later : Scheduler} (laterSound : later.registry.Sound)
    (updates : command.flags.update = true)
    (entry : later.registry.entry command.id =
      (command.effectOfUpdate scheduler.aidList
        (scheduler.registry.entry command.id)).1.realigned) :
    Ended command scheduler later
      (command.effectOfUpdate scheduler.aidList (scheduler.registry.entry command.id)).2 := by
  unfold Command.effectOfUpdate at entry ⊢
  cases applied : command.applyTo (command.current (scheduler.registry.entry command.id)) with
  | error fault =>
      rw [applied] at entry
      exact .refused (.unacceptable updates applied)
        (keptUpToAlignment_of_entry laterSound entry)
  | ok updated =>
      rw [applied] at entry
      simp only at entry ⊢
      cases valid : updated.isValid with
      | true => exact .done
      | false =>
          rw [valid] at entry
          cases enables : command.flags.enable with
          | false => exact .done
          | true =>
              have stored : later.registry.find? command.id = some updated :=
                congrArg Entry.window entry
              have inactive : later.registry.membership command.id = .inactive :=
                congrArg Entry.membership entry
              refine .incomplete updates enables applied valid stored ?_
              rw [mem_active_iff, not_not]
              exact inactive

/-- Without an update, a command fails only if it enables a window that is not stored. -/
theorem ended_without_update {command : Command} {later : Scheduler}
    (laterSound : later.registry.Sound) (without : command.flags.update = false)
    (entry : later.registry.entry command.id =
      (command.effectWithoutUpdate scheduler.aidList
        (scheduler.registry.entry command.id)).1.realigned) :
    Ended command scheduler later
      (command.effectWithoutUpdate scheduler.aidList (scheduler.registry.entry command.id)).2 := by
  unfold Command.effectWithoutUpdate at entry ⊢
  cases found : (scheduler.registry.entry command.id).window with
  | some window => exact .done
  | none =>
      rw [found] at entry
      simp only at entry ⊢
      cases enables : command.flags.enable with
      | false => exact .done
      | true =>
          exact .refused (.missing without enables found)
            (keptUpToAlignment_of_entry laterSound entry)

theorem Commanded.ended {command : Command} {later : Scheduler}
    (commanded : Commanded command scheduler later) :
    Ended command scheduler later
      (command.effect scheduler.aidList (scheduler.registry.entry command.id)).2 := by
  have entry := commanded.entry command.id
  rw [if_pos rfl] at entry
  unfold Command.effect at entry ⊢
  by_cases internal : firstInternalId ≤ command.id
  · rw [if_pos internal] at entry ⊢
    exact .refused (.reserved internal) (keptUpToAlignment_of_entry commanded.sound entry)
  · rw [if_neg internal] at entry ⊢
    cases updates : command.flags.update with
    | true =>
        rw [updates] at entry
        exact ended_of_update commanded.sound updates entry
    | false =>
        rw [updates] at entry
        exact ended_without_update commanded.sound updates entry

/-! ### Confinement -/

structure Confined (command : Command) (earlier : Scheduler)
    (outcome : Outcome (Except Fault Unit)) : Prop where
  enabled : outcome.scheduler.enabled = earlier.enabled
  stations : outcome.scheduler.stations = earlier.stations
  aidList : outcome.scheduler.aidList = earlier.aidList
  payload : outcome.scheduler.payload = earlier.payload
  stats : outcome.scheduler.stats = earlier.stats
  others : ∀ id, id ≠ command.id →
    KeptUpToAlignment id earlier.registry outcome.scheduler.registry
  /-- Every schedule that is active afterwards stands at its configured offset. -/
  aligned : ∀ id, id ∈ outcome.scheduler.registry.periodic → ∃ window schedule,
    outcome.scheduler.registry.find? id = some window ∧ window.periodic = some schedule ∧
      schedule.offsetLeft = schedule.startOffset
  ended : Ended command earlier outcome.scheduler outcome.answer

theorem Commanded.aligned {command : Command} {later : Scheduler}
    (commanded : Commanded command scheduler later) {id : WindowId}
    (active : id ∈ later.registry.periodic) :
    ∃ window schedule, later.registry.find? id = some window ∧
      window.periodic = some schedule ∧ schedule.offsetLeft = schedule.startOffset := by
  obtain ⟨window, found, periodic⟩ := commanded.sound.periodicStored id active
  obtain ⟨schedule, scheduled⟩ := Option.isSome_iff_exists.mp periodic
  refine ⟨window, schedule, found, scheduled, ?_⟩
  have listed := (commanded.sound.membership_eq_periodic_iff id).mpr active
  have entry := commanded.entry id
  generalize (if id = command.id then
      (command.effect scheduler.aidList (scheduler.registry.entry command.id)).1
    else scheduler.registry.entry id) = before at entry
  -- The entry is periodic, so it is the realigned version of some entry.
  have membership : before.membership = .periodic := by
    rw [← Entry.membership_realigned, ← entry]
    exact listed
  have stored := congrArg Entry.window entry
  unfold Entry.realigned at stored
  rw [if_pos membership] at stored
  obtain ⟨previous, _, realigned⟩ := Option.map_eq_some_iff.mp (stored.symm.trans found)
  rw [← realigned] at scheduled
  obtain ⟨original, _, moved⟩ := Option.map_eq_some_iff.mp scheduled
  rw [← moved]

/-- A command that names a window changes that window as a whole or not at all, and nothing else. -/
theorem command_confined_to_its_window (reachable : Reachable scheduler) {command : Command}
    (named : command.id ≠ engineId) :
    Confined command scheduler (scheduler.processCommand command) := by
  obtain ⟨answer, commanded⟩ := commanded_processCommand reachable.sound.registry named
  refine
    { enabled := commanded.enabled
      stations := commanded.stations
      aidList := commanded.aidList
      payload := commanded.payload
      stats := commanded.stats
      others := ?_
      aligned := fun _ active => commanded.aligned active
      ended := answer ▸ commanded.ended }
  intro id different
  have entry := commanded.entry id
  rw [if_neg different] at entry
  exact keptUpToAlignment_of_entry commanded.sound entry

/-- A schedule that has moved on from its offset by one beacon, next to a plain window. -/
def movedHistory : List Operation :=
  [.associate 3,
    .command
      { id := 1
        flags := { enable := true, delete := false, update := true }
        fields := [.slots 4000 4 false, .group 3 7, .periodic 4 2 1 false] },
    .command
      { id := 2
        flags := { enable := true, delete := false, update := true }
        fields := [.slots 4000 4 false, .group 3 7, .spread 0 1] },
    .pass, .beaconSent, .pass]

def slotlessCommand : Command :=
  { id := 1
    flags := { enable := false, delete := false, update := true }
    fields := [.group 1 2, .slots 4000 0 false] }

def hastyCommand : Command :=
  { id := 5
    flags := { enable := true, delete := false, update := true }
    fields := [.group 3 7] }

theorem command_confined_after_movedHistory :
    ∃ fresh, create .accessPoint { SchedulerOptions.standard with enabled := true } = .ok fresh ∧
      (((fresh.afterAll movedHistory).registry.find? 1).bind WindowConfig.periodic).map
        PeriodicSchedule.offsetLeft = some 0 ∧
      slotlessCommand.id ≠ engineId ∧
      ((fresh.afterAll movedHistory).processCommand slotlessCommand).answer = .error .zeroSlots ∧
      Confined slotlessCommand (fresh.afterAll movedHistory)
        ((fresh.afterAll movedHistory).processCommand slotlessCommand) ∧
      hastyCommand.id ≠ engineId ∧
      ((fresh.afterAll movedHistory).processCommand hastyCommand).answer =
        .error (.windowIncomplete 5) ∧
      Confined hastyCommand (fresh.afterAll movedHistory)
        ((fresh.afterAll movedHistory).processCommand hastyCommand) := by
  have creation :
      create .accessPoint { SchedulerOptions.standard with enabled := true } = .ok _ := rfl
  have reachable := (Reachable.created creation).afterAll movedHistory
  have slotlessNamed : slotlessCommand.id ≠ engineId := by decide
  have hastyNamed : hastyCommand.id ≠ engineId := by decide
  refine ⟨_, creation, ?_, slotlessNamed, ?_,
    command_confined_to_its_window reachable slotlessNamed, hastyNamed, ?_,
    command_confined_to_its_window reachable hastyNamed⟩
  · decide +kernel
  · decide +kernel
  · decide +kernel

end Scheduler

end RestrictedAccess
