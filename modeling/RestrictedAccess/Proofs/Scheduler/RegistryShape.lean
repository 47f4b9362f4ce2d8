/-
The shape of the registry along histories. Whatever a scheduler went through, its table, its two
active lists and the shapes of its windows agree: windows are filed under the identifiers they
carry, which are ones that commands or the protection of scans can give them, an active window is on
the one list that matches its schedule, and the slices that windows cache are slices.
-/

import RestrictedAccess.Proofs.Scheduler.InternalWindows

namespace RestrictedAccess

open Station

/-! ### Cached slices -/

namespace WindowConfig

/-- The cached slice is either missing altogether or a slice of some list. -/
def CachesSlice (window : WindowConfig) : Prop :=
  window.indices = .unresolved ∨
    0 ≤ window.indices.first ∧ window.indices.first ≤ window.indices.last

theorem cachesSlice_of_indices {earlier later : WindowConfig}
    (same : later.indices = earlier.indices) (caches : earlier.CachesSlice) :
    later.CachesSlice := by
  unfold CachesSlice
  rw [same]
  exact caches

theorem lasting_cachesSlice : Lasting (fun _ => CachesSlice) := by
  refine
    { empty := fun _ _ => Or.inl rfl
      protection := fun _ => Or.inl rfl
      patched := ?_
      resolved := ?_
      counted := fun _ window => cachesSlice_of_indices (indices_of_resting window.resting_counted)
      realigned := fun _ window =>
        cachesSlice_of_indices (indices_of_resting window.resting_realigned)
      advanced := fun aids _ window =>
        cachesSlice_of_indices (indices_of_resting (window.resting_advanced aids)) }
  · intro command window patched _ caches applied
    rcases (Command.patched applied).indices with kept | cleared
    · exact cachesSlice_of_indices kept caches
    · exact Or.inl cleared
  · intro aids _ window caches
    unfold resolveIndices
    split
    · exact aids.resolve_spec window.startAid window.endAid
    · exact caches

end WindowConfig

/-! ### The identifier of the engine -/

namespace Scheduler

variable {scheduler : Scheduler}

theorem find?_engineId_processCommand (sound : scheduler.Sound)
    (absent : scheduler.registry.find? engineId = none) (command : Command) :
    (scheduler.processCommand command).scheduler.registry.find? engineId = none := by
  apply (runsTo_processCommand sound.registry command).find?_eq_none
  by_cases engine : command.id = engineId
  · rw [registry_applyCommand_of_engine engine]
    split
    · rfl
    · exact absent
  · rw [(agreeOff_applyCommand sound.registry engine).found engineId (Ne.symm engine)]
    exact absent

theorem find?_engineId_runPass (sound : scheduler.Sound)
    (absent : scheduler.registry.find? engineId = none) :
    scheduler.runPass.scheduler.registry.find? engineId = none := by
  cases enabled : scheduler.enabled with
  | false =>
      rw [runPass_disabled enabled]
      exact absent
  | true =>
      obtain ⟨_, passed⟩ := sound.runPass_enabled enabled
      apply (passed.runsTo_of_refreshed sound).find?_eq_none
      rw [sound.find?_refreshedRegistry, absent, Option.map_none]

theorem find?_engineId_after (sound : scheduler.Sound)
    (absent : scheduler.registry.find? engineId = none) (operation : Operation) :
    (scheduler.after operation).registry.find? engineId = none := by
  by_cases pass : operation = .pass
  · subst pass
    exact find?_engineId_runPass sound absent
  · obtain ⟨later, reconfigured, runs, _⟩ := after_reconfigured sound.registry pass
    cases reconfigured with
    | untouched _ => exact runs.find?_eq_none absent
    | forgotten _ => exact runs.find?_eq_none rfl
    | commanded _ => exact find?_engineId_processCommand sound absent _
    | protection _ _ agree =>
        have apart : engineId ≠ protectionId := by decide
        exact runs.find?_eq_none ((agree.found engineId apart).trans absent)

/-- The identifier that stands for the scheduler as a whole never names a window. -/
theorem Reachable.find?_engineId (reachable : Reachable scheduler) :
    scheduler.registry.find? engineId = none := by
  induction reachable with
  | created creation =>
      rw [(blank_of_create creation).registry]
      rfl
  | performed operation earlier ih => exact find?_engineId_after earlier.sound ih operation

end Scheduler

/-! ### The registry as a whole -/

structure Registry.Coherent (registry : Registry) : Prop where
  carried : ∀ filing, filing ∈ registry.table.filings → filing.window.id = filing.key
  /-- A look-up finds every window of the table under its own identifier, and nothing else. -/
  filed : ∀ id window, registry.find? id = some window ↔
    window ∈ registry.table.windows ∧ window.id = id
  named : ∀ window, window ∈ registry.table.windows → window.id ≠ engineId
  internal : ∀ window, window ∈ registry.table.windows → firstInternalId ≤ window.id →
    window.id = protectionId
  generic : ∀ window, window ∈ registry.table.windows → window.kind = .generic
  caches : ∀ window, window ∈ registry.table.windows → window.CachesSlice
  plainAscending : registry.plain.Pairwise (fun earlier later => earlier < later)
  periodicAscending : registry.periodic.Pairwise (fun earlier later => earlier < later)
  disjoint : ∀ id, id ∈ registry.plain → id ∉ registry.periodic
  plainStored : ∀ id, id ∈ registry.plain →
    ∃ window, registry.find? id = some window ∧ window.periodic = none
  periodicStored : ∀ id, id ∈ registry.periodic →
    ∃ window schedule, registry.find? id = some window ∧ window.periodic = some schedule

namespace Scheduler

/-- The registry of a scheduler is coherent, whatever the scheduler went through. -/
theorem registry_coherent {scheduler : Scheduler} (reachable : Reachable scheduler) :
    scheduler.registry.Coherent := by
  have sound := reachable.sound.registry
  have known := reachable.allStored WindowConfig.lasting_inReachOrProtection
  have stored {window : WindowConfig} (member : window ∈ scheduler.registry.table.windows) :
      scheduler.registry.find? window.id = some window :=
    sound.filed.find?_eq_some_iff.mpr ⟨member, rfl⟩
  refine
    { carried := Registry.filed_iff.mp sound.filed
      filed := fun _ _ => sound.filed.find?_eq_some_iff
      named := ?_
      internal := ?_
      generic := fun window member => (sound.windows window.id window (stored member)).generic
      caches := fun window member =>
        reachable.allStored WindowConfig.lasting_cachesSlice window.id window (stored member)
      plainAscending := sound.plainAscending
      periodicAscending := sound.periodicAscending
      disjoint := fun _ member => sound.not_periodic_of_plain member
      plainStored := ?_
      periodicStored := ?_ }
  · intro window member engine
    have found := stored member
    rw [engine, reachable.find?_engineId] at found
    cases found
  · intro window member reserved
    have protection := known window.id window (stored member) reserved
    exact congrArg WindowConfig.id protection
  · intro id member
    obtain ⟨window, found, plain⟩ := sound.plainStored id member
    exact ⟨window, found, Option.isNone_iff_eq_none.mp (Option.isSome_eq_false_iff.mp plain)⟩
  · intro id member
    obtain ⟨window, found, periodic⟩ := sound.periodicStored id member
    obtain ⟨schedule, scheduled⟩ := Option.isSome_iff_exists.mp periodic
    exact ⟨window, schedule, found, scheduled⟩

/-- Three active windows that change their shape. The first gets a schedule and loses it again, the
second gets one that lapses with the next beacon, and the third is spread and gets one that goes
on. The protection window is written for one station and over that for another. -/
def reshapingHistory : List Operation :=
  let configure (id : WindowId) (field : CommandField) : Operation :=
    .command
      { id
        flags := { enable := true, delete := false, update := true }
        fields := [.slots 4000 4 false, .group 3 9, field] }
  [.associate 3, .associate 9, .pass,
    configure 5 (.startTime 100), configure 6 (.startTime 100), configure 7 (.spread 0 1),
    configure 5 (.periodic 4 2 0 false), configure 6 (.periodic 1 1 0 false),
    configure 7 (.periodic 4 2 1 true), .installProtection 3, .installProtection 9,
    .beaconSent, .pass, configure 5 (.periodic 0 0 0 false)]

theorem registry_coherent_after_reshapingHistory :
    ∃ fresh, create .accessPoint { SchedulerOptions.standard with enabled := true } = .ok fresh ∧
      Reachable (fresh.afterAll reshapingHistory) ∧
      (fresh.afterAll reshapingHistory).registry.table.ids = [5, 6, 7, protectionId] ∧
      (fresh.afterAll reshapingHistory).registry.plain = [5, protectionId] ∧
      (fresh.afterAll reshapingHistory).registry.periodic = [7] ∧
      ((fresh.afterAll reshapingHistory).registry.find? 7).map WindowConfig.indices =
        some ⟨0, 1⟩ ∧
      (fresh.afterAll reshapingHistory).registry.Coherent := by
  have creation :
      create .accessPoint { SchedulerOptions.standard with enabled := true } = .ok _ := rfl
  have reachable := (Reachable.created creation).afterAll reshapingHistory
  refine ⟨_, creation, reachable, ?_, ?_, ?_, ?_, registry_coherent reachable⟩
  · decide +kernel
  · decide +kernel
  · decide +kernel
  · decide +kernel

end Scheduler

end RestrictedAccess
