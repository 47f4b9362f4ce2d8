/-
The beacons that a scheduler asks for. Schedules and spread plain windows change with every beacon,
and the scheduler wants to hear of every beacon exactly while one of them is active. Commands and
passes decide it anew, and no other operation touches the windows it depends on. So a beacon is
taken exactly while the scheduler is enabled and some window depends on it.
-/

import RestrictedAccess.Proofs.Scheduler.StoredWindows

namespace RestrictedAccess

open Station

/-! ### Windows that change with every beacon -/

namespace Registry

def needsEveryBeacon (registry : Registry) : Bool :=
  !registry.periodic.isEmpty || registry.anyPlainSpreading

section EveryBeacon

variable {earlier later : Registry}

theorem needsEveryBeacon_of_periodic {registry : Registry} (active : registry.periodic ≠ []) :
    registry.needsEveryBeacon = true := by
  unfold needsEveryBeacon
  rw [List.isEmpty_eq_false_iff.mpr active]
  rfl

theorem needsEveryBeacon_of_spread {registry : Registry} {id : WindowId} {window : WindowConfig}
    (member : id ∈ registry.plain) (found : registry.find? id = some window)
    (spread : window.usesSpreading = true) : registry.needsEveryBeacon = true := by
  have some : registry.anyPlainSpreading = true :=
    List.any_eq_true.mpr ⟨id, member, by rw [found]; exact spread⟩
  unfold needsEveryBeacon
  rw [some, Bool.or_true]

def DependsOnBeacons (registry : Registry) : Prop :=
  registry.periodic ≠ [] ∨
    ∃ id window, id ∈ registry.plain ∧ registry.find? id = some window ∧
      window.usesSpreading = true

theorem needsEveryBeacon_iff (registry : Registry) :
    registry.needsEveryBeacon = true ↔ registry.DependsOnBeacons := by
  constructor
  · intro needed
    rcases Bool.or_eq_true_iff.mp needed with active | spread
    · refine Or.inl (fun idle => ?_)
      rw [idle] at active
      cases active
    · obtain ⟨id, member, spread⟩ := List.any_eq_true.mp spread
      obtain ⟨window, found, spread⟩ := (Option.any_eq_true _ _).mp spread
      exact Or.inr ⟨id, window, member, found, spread⟩
  · rintro (active | ⟨id, window, member, found, spread⟩)
    · exact needsEveryBeacon_of_periodic active
    · exact needsEveryBeacon_of_spread member found spread

/-- The lists of a sound registry match its windows, so the configuration of a window tells whether
it depends on beacons. -/
theorem Sound.dependsOnBeacons_iff {registry : Registry} (sound : registry.Sound) :
    registry.DependsOnBeacons ↔
      ∃ id window, id ∈ registry.active ∧ registry.find? id = some window ∧
        (window.isPeriodic = true ∨ window.usesSpreading = true) := by
  constructor
  · rintro (active | ⟨id, window, member, found, spread⟩)
    · obtain ⟨id, member⟩ := List.exists_mem_of_ne_nil _ active
      obtain ⟨window, found, periodic⟩ := sound.periodicStored id member
      exact ⟨id, window, List.mem_append_right _ member, found, Or.inl periodic⟩
    · exact ⟨id, window, List.mem_append_left _ member, found, Or.inr spread⟩
  · rintro ⟨id, window, member, found, depends⟩
    rcases List.mem_append.mp member with inPlain | inPeriodic
    · obtain ⟨stored, foundStored, unscheduled⟩ := sound.plainStored id inPlain
      cases found.symm.trans foundStored
      rcases depends with periodic | spread
      · rw [unscheduled] at periodic
        cases periodic
      · exact Or.inr ⟨id, window, inPlain, found, spread⟩
    · exact Or.inl (List.ne_nil_of_mem inPeriodic)

theorem RunsTo.anyPlainSpreading (runs : RunsTo earlier later) :
    later.anyPlainSpreading = earlier.anyPlainSpreading := by
  have same (id : WindowId) : (later.find? id).any WindowConfig.usesSpreading =
      (earlier.find? id).any WindowConfig.usesSpreading := by
    have resting := congrArg (Option.any WindowConfig.usesSpreading) (runs.resting id)
    simp only [Option.any_map, WindowConfig.usesSpreading_resting] at resting
    exact resting
  unfold Registry.anyPlainSpreading
  rw [runs.plain]
  simp only [same]

theorem Sound.unspread_of_internal {registry : Registry} (sound : registry.Sound) {id : WindowId}
    (reserved : firstInternalId ≤ id) :
    (registry.find? id).any WindowConfig.usesSpreading = false := by
  cases found : registry.find? id with
  | none => rfl
  | some window =>
      rw [Option.any_some]
      unfold WindowConfig.usesSpreading
      rw [(sound.internal_of_found found reserved).2]
      rfl

section Internal

variable {id : WindowId} (agree : AgreeOff id earlier later) (earlierSound : earlier.Sound)
  (laterSound : later.Sound) (reserved : firstInternalId ≤ id)

include agree earlierSound laterSound reserved

theorem AgreeOff.isEmpty_periodic : later.periodic.isEmpty = earlier.periodic.isEmpty := by
  rw [Bool.eq_iff_iff, List.isEmpty_iff, List.isEmpty_iff, List.eq_nil_iff_forall_not_mem,
    List.eq_nil_iff_forall_not_mem]
  refine forall_congr' (fun other => not_congr ?_)
  by_cases same : other = id
  · subst same
    exact iff_of_false (Scheduler.not_periodic_of_internal laterSound reserved)
      (Scheduler.not_periodic_of_internal earlierSound reserved)
  · exact agree.periodic other same

theorem AgreeOff.anyPlainSpreading : later.anyPlainSpreading = earlier.anyPlainSpreading := by
  unfold Registry.anyPlainSpreading
  rw [Bool.eq_iff_iff, List.any_eq_true, List.any_eq_true]
  refine exists_congr (fun other => ?_)
  by_cases same : other = id
  · subst same
    rw [laterSound.unspread_of_internal reserved, earlierSound.unspread_of_internal reserved]
    simp only [Bool.false_eq_true, and_false]
  · rw [agree.plain other same, agree.found other same]

/-- Only windows in the reach of commands make every beacon count. -/
theorem AgreeOff.needsEveryBeacon : later.needsEveryBeacon = earlier.needsEveryBeacon := by
  unfold Registry.needsEveryBeacon
  rw [agree.isEmpty_periodic earlierSound laterSound reserved,
    agree.anyPlainSpreading earlierSound laterSound reserved]

end Internal

end EveryBeacon

end Registry

namespace Scheduler

variable {scheduler : Scheduler}

/-! ### What a pass settles -/

structure Generated (earlier later : Scheduler) : Prop where
  enabled : later.enabled = earlier.enabled
  options : later.options = earlier.options
  pending : later.pending = earlier.pending
  everyBeacon : later.everyBeacon = earlier.everyBeacon
  expired : later.stats.expired = earlier.stats.expired

theorem generated_generate (scheduler : Scheduler) (includePeriodic : Bool) :
    Generated scheduler (scheduler.generate includePeriodic).scheduler := by
  unfold generate
  simp only
  split
  · exact ⟨rfl, rfl, rfl, rfl, rfl⟩
  · exact ⟨rfl, rfl, rfl, rfl, rfl⟩

/-- What a pass of an enabled scheduler leaves apart from windows, stations and payload. -/
structure Settled (earlier later : Scheduler) : Prop where
  enabled : later.enabled = true
  options : later.options = earlier.options
  pending : later.pending = .none
  everyBeacon : later.everyBeacon = later.registry.needsEveryBeacon
  expired : later.stats.expired = earlier.stats.expired +
    if earlier.pending.beaconSent then
      (earlier.registry.periodic.filter earlier.registry.lapses).length
    else 0

theorem Sound.settled (sound : scheduler.Sound) (enabled : scheduler.enabled = true) :
    Settled scheduler scheduler.runPass.scheduler := by
  obtain ⟨_, passed⟩ := sound.runPass_enabled enabled
  have generated := scheduler.prepared.generated_generate scheduler.burstAnnounces
  have same : scheduler.runPass.scheduler =
      (scheduler.prepared.generate scheduler.burstAnnounces).scheduler := by
    unfold Scheduler.runPass
    rw [if_pos enabled, sound.enabledPass_eq]
  rw [← same] at generated
  refine
    { enabled := generated.enabled.trans enabled
      options := generated.options
      pending := generated.pending
      everyBeacon := ?_
      expired := generated.expired.trans ?_ }
  · rw [generated.everyBeacon]
    unfold Registry.needsEveryBeacon
    rw [passed.periodic sound, (passed.runsTo sound).anyPlainSpreading, ← sound.periodic_passCount]
    rfl
  · unfold prepared passCount
    simp only
    split
    · rw [sound.refreshed.countedFor.expired, periodic_refreshedRegistry,
        sound.lapses_refreshedRegistry]
      rfl
    · rfl

/-! ### Beacons that are asked for -/

def EveryBeaconExact (scheduler : Scheduler) : Prop :=
  scheduler.everyBeacon = scheduler.registry.needsEveryBeacon

theorem everyBeacon_triggerUpdate (scheduler : Scheduler) (refreshAids : Bool) :
    (scheduler.triggerUpdate refreshAids).1.everyBeacon = scheduler.everyBeacon := by
  rw [triggerUpdate_eq]

theorem everyBeacon_enable (scheduler : Scheduler) :
    scheduler.enable.everyBeacon = scheduler.everyBeacon := by
  rw [enable_eq]

theorem everyBeacon_disable (scheduler : Scheduler) :
    scheduler.disable.everyBeacon = scheduler.everyBeacon := by
  rw [disable_eq]

theorem everyBeacon_takeStations (scheduler : Scheduler)
    (change : Except Fault (Bitmap × Bool)) :
    (scheduler.takeStations change).1.everyBeacon = scheduler.everyBeacon := by
  rcases change with fault | ⟨stations, changed⟩
  · rfl
  · cases changed with
    | false => rfl
    | true => rw [takeStations_changed]

theorem everyBeacon_beaconSent (scheduler : Scheduler) :
    scheduler.beaconSent.scheduler.everyBeacon = scheduler.everyBeacon := by
  rw [beaconSent_eq]

theorem everyBeacon_installProtection (scheduler : Scheduler) (aid : Aid) :
    (scheduler.installProtection aid).1.everyBeacon = scheduler.everyBeacon := by
  obtain ⟨active, _, installed⟩ := scheduler.installProtection_eq aid
  rw [installed, everyBeacon_triggerUpdate, everyBeacon_enable]

/-- A command decides anew whether every beacon is asked for. -/
theorem everyBeaconExact_processCommand (scheduler : Scheduler) (command : Command) :
    (scheduler.processCommand command).scheduler.EveryBeaconExact := by
  have settled (applied : Scheduler) : applied.settleConfiguration.EveryBeaconExact := by
    unfold settleConfiguration EveryBeaconExact
    split
    · rename_i idle
      unfold Registry.needsEveryBeacon
      simp only [idle, Bool.not_true, Bool.false_or]
    · rename_i active
      have periodic : applied.registry.realign.periodic = applied.registry.periodic :=
        Registry.periodic_modifyAll _ _ _
      refine (Registry.needsEveryBeacon_of_periodic ?_).symm
      rw [periodic]
      exact fun none => active (List.isEmpty_iff.mpr none)
  have triggered := undisturbed_triggerUpdate
    (scheduler.applyCommand command).1.settleConfiguration false
  unfold processCommand EveryBeaconExact
  simp only [triggered.registry, everyBeacon_triggerUpdate]
  exact settled _

theorem everyBeaconExact_after (sound : scheduler.Sound) (holds : scheduler.EveryBeaconExact)
    (operation : Operation) : (scheduler.after operation).EveryBeaconExact := by
  have same {next : Scheduler} (registry : next.registry = scheduler.registry)
      (everyBeacon : next.everyBeacon = scheduler.everyBeacon) : next.EveryBeaconExact := by
    unfold EveryBeaconExact
    rw [registry, everyBeacon]
    exact holds
  have internal {next : Scheduler} (nextSound : next.registry.Sound)
      (agree : Registry.AgreeOff protectionId scheduler.registry next.registry)
      (everyBeacon : next.everyBeacon = scheduler.everyBeacon) : next.EveryBeaconExact := by
    unfold EveryBeaconExact
    rw [everyBeacon, agree.needsEveryBeacon sound.registry nextSound (by decide)]
    exact holds
  cases operation with
  | command command => exact everyBeaconExact_processCommand scheduler command
  | associate aid =>
      exact same (scheduler.takeStations_spec _).1 (scheduler.everyBeacon_takeStations _)
  | disassociate aid =>
      exact same (scheduler.takeStations_spec _).1 (scheduler.everyBeacon_takeStations _)
  | beaconSent =>
      exact same (undisturbed_beaconSent scheduler).registry (everyBeacon_beaconSent scheduler)
  | triggerUpdate refreshAids =>
      exact same (undisturbed_triggerUpdate scheduler refreshAids).registry
        (scheduler.everyBeacon_triggerUpdate refreshAids)
  | pass =>
      cases enabled : scheduler.enabled with
      | false =>
          change scheduler.runPass.scheduler.EveryBeaconExact
          rw [runPass_disabled enabled]
          exact same rfl rfl
      | true => exact (sound.settled enabled).everyBeacon
  | enable => exact same (undisturbed_enable scheduler).registry (everyBeacon_enable scheduler)
  | disable => exact same (undisturbed_disable scheduler).registry (everyBeacon_disable scheduler)
  | setDtimPeriod period => exact same rfl rfl
  | teardown => exact rfl
  | installProtection aid =>
      obtain ⟨later, laterSound, agree, kept⟩ := installProtection_spec sound.registry aid
      have registry : (scheduler.after (.installProtection aid)).registry = later := kept.registry
      rw [← registry] at laterSound agree
      exact internal laterSound agree (scheduler.everyBeacon_installProtection aid)
  | removeProtection =>
      have kept := undisturbed_triggerUpdate
        { scheduler with registry := scheduler.registry.deactivate protectionId } false
      have registry : (scheduler.after .removeProtection).registry =
          scheduler.registry.deactivate protectionId := kept.registry
      have laterSound := sound.registry.deactivate protectionId
      have agree := sound.registry.agreeOff_deactivate protectionId
      rw [← registry] at laterSound agree
      exact internal laterSound agree (everyBeacon_triggerUpdate _ false)

theorem Reachable.everyBeaconExact (reachable : Reachable scheduler) :
    scheduler.EveryBeaconExact := by
  induction reachable with
  | created creation =>
      have blank := blank_of_create creation
      unfold EveryBeaconExact
      rw [blank.everyBeacon, blank.registry]
      rfl
  | performed operation earlier ih => exact everyBeaconExact_after earlier.sound ih operation

/-! ### Beacons that are taken -/

/-- A beacon is asked for while the scheduler is enabled and the payload can change. -/
theorem Reachable.beaconSent_answer (reachable : Reachable scheduler)
    (enabled : scheduler.enabled = true) :
    scheduler.beaconSent.answer = scheduler.registry.needsEveryBeacon := by
  rw [beaconSent_answer_eq, enabled, Bool.true_and, reachable.everyBeaconExact]

theorem beaconSent_of_refused (refused : scheduler.beaconSent.answer = false) :
    scheduler.beaconSent.scheduler = scheduler := by
  rw [beaconSent_answer_eq] at refused
  rw [beaconSent_eq, refused, Bool.or_false]

theorem pending_beaconSent_of_accepted (accepted : scheduler.beaconSent.answer = true) :
    scheduler.beaconSent.scheduler.pending.beaconSent = true := by
  rw [beaconSent_answer_eq] at accepted
  rw [beaconSent_eq, accepted, Bool.or_true]

structure BeaconsOnDemand (scheduler : Scheduler) : Prop where
  flag : scheduler.everyBeacon = true ↔ scheduler.registry.DependsOnBeacons
  windows : scheduler.registry.DependsOnBeacons ↔
    ∃ id window, id ∈ scheduler.registry.active ∧ scheduler.registry.find? id = some window ∧
      (window.isPeriodic = true ∨ window.usesSpreading = true)
  accepted : scheduler.beaconSent.answer = true ↔
    scheduler.enabled = true ∧ scheduler.registry.DependsOnBeacons
  /-- An accepted beacon waits for the next pass. -/
  recorded : scheduler.beaconSent.answer = true →
    scheduler.beaconSent.scheduler.pending.beaconSent = true
  refused : scheduler.beaconSent.answer = false → scheduler.beaconSent.scheduler = scheduler

/-- Beacons are taken exactly while the scheduler is enabled and a window depends on them. -/
theorem beacons_taken_on_demand (reachable : Reachable scheduler) : scheduler.BeaconsOnDemand := by
  have flag : scheduler.everyBeacon = true ↔ scheduler.registry.DependsOnBeacons := by
    rw [reachable.everyBeaconExact]
    exact scheduler.registry.needsEveryBeacon_iff
  exact
    { flag := flag
      windows := reachable.sound.registry.dependsOnBeacons_iff
      accepted := by rw [beaconSent_answer_eq, Bool.and_eq_true, flag]
      recorded := pending_beaconSent_of_accepted
      refused := beaconSent_of_refused }

/-- A schedule of one beacon next to a spread plain window. The schedule lapses in a pass, and a
command that fails and the protection of a scan come before the plain window is silenced. -/
def demandHistory : List Operation :=
  [.command
      { id := 1
        flags := { enable := true, delete := false, update := true }
        fields := [.slots 4000 4 false, .group 3 7, .periodic 1 1 0 false] },
    .command
      { id := 2
        flags := { enable := true, delete := false, update := true }
        fields := [.slots 4000 4 false, .group 3 7, .spread 0 1] },
    .beaconSent, .pass,
    .command
      { id := 5
        flags := { enable := true, delete := false, update := false }
        fields := [] },
    .installProtection 7,
    .command
      { id := 2
        flags := { enable := false, delete := false, update := false }
        fields := [] }]

theorem beacons_taken_on_demand_in_demandHistory :
    ∃ fresh, create .accessPoint { SchedulerOptions.standard with enabled := true } = .ok fresh ∧
      (fresh.afterAll (demandHistory.take 6)).registry.active = [2, protectionId] ∧
      (fresh.afterAll (demandHistory.take 6)).beaconSent.answer = true ∧
      (fresh.afterAll (demandHistory.take 6)).BeaconsOnDemand ∧
      (fresh.afterAll demandHistory).registry.active = [protectionId] ∧
      (fresh.afterAll demandHistory).enabled = true ∧
      (fresh.afterAll demandHistory).beaconSent.answer = false ∧
      (fresh.afterAll demandHistory).BeaconsOnDemand := by
  have creation :
      create .accessPoint { SchedulerOptions.standard with enabled := true } = .ok _ := rfl
  have reachable (history : List Operation) := (Reachable.created creation).afterAll history
  refine ⟨_, creation, ?_, ?_, beacons_taken_on_demand (reachable _), ?_, ?_, ?_,
    beacons_taken_on_demand (reachable _)⟩
  · decide +kernel
  · decide +kernel
  · decide +kernel
  · decide +kernel
  · decide +kernel

end Scheduler

end RestrictedAccess
