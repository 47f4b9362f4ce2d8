/-
The list of stations in use. Every change of the set of stations asks for a fresh list, and the
wish is kept until a pass makes one. Only a teardown withdraws it, so without a teardown the list
in use is the list of the stations whenever no fresh one is asked for.
-/

import RestrictedAccess.Proofs.Scheduler.SliceFreshness
import RestrictedAccess.Proofs.Station.Slices

namespace RestrictedAccess.Scheduler

open Station

variable {scheduler : Scheduler}

/-! ### Histories without a teardown -/

/-- The schedulers that some history without a teardown leads to. -/
inductive Standing : Scheduler → Prop
  | created {kind : InterfaceKind} {options : SchedulerOptions} {scheduler : Scheduler}
      (creation : create kind options = .ok scheduler) : Standing scheduler
  | performed {scheduler : Scheduler} {operation : Operation} (upright : operation ≠ .teardown)
      (earlier : Standing scheduler) : Standing (scheduler.after operation)

theorem Standing.reachable (standing : Standing scheduler) : Reachable scheduler := by
  induction standing with
  | created creation => exact .created creation
  | performed _ _ ih => exact .performed _ ih

theorem Standing.afterAll (standing : Standing scheduler) {operations : List Operation}
    (upright : .teardown ∉ operations) : Standing (scheduler.afterAll operations) := by
  have kept (current : Scheduler) (operation : Operation) (other : operation ≠ .teardown)
      (earlier : Standing current) : Standing (current.after operation) :=
    .performed other earlier
  exact afterAll_kept_while kept standing (fun _ member same => upright (same ▸ member))

/-! ### The wish for a fresh list -/

theorem refreshAids_enable (scheduler : Scheduler) :
    scheduler.enable.pending.refreshAids = scheduler.pending.refreshAids := by
  rw [enable_eq]

theorem refreshAids_disable (scheduler : Scheduler) :
    scheduler.disable.pending.refreshAids = scheduler.pending.refreshAids := by
  rw [disable_eq]

theorem refreshAids_triggerUpdate (scheduler : Scheduler) (refreshAids : Bool)
    (wished : scheduler.pending.refreshAids = true) :
    (scheduler.triggerUpdate refreshAids).1.pending.refreshAids = true := by
  rw [triggerUpdate_eq]
  simp only [wished, Bool.true_or]

theorem refreshAids_applyCommand (scheduler : Scheduler) (command : Command) :
    (scheduler.applyCommand command).1.pending.refreshAids = scheduler.pending.refreshAids := by
  obtain ⟨registry, applied⟩ := scheduler.applyCommand_eq command
  rw [applied]
  split
  · split
    · exact scheduler.refreshAids_enable
    · exact scheduler.refreshAids_disable
  · rfl

theorem refreshAids_processCommand (scheduler : Scheduler) (command : Command)
    (wished : scheduler.pending.refreshAids = true) :
    (scheduler.processCommand command).scheduler.pending.refreshAids = true := by
  obtain ⟨_, _, _, settled⟩ := (scheduler.applyCommand command).1.settleConfiguration_eq
  unfold processCommand
  apply refreshAids_triggerUpdate
  rw [settled]
  exact (scheduler.refreshAids_applyCommand command).trans wished

theorem refreshAids_installProtection (scheduler : Scheduler) (aid : Aid)
    (wished : scheduler.pending.refreshAids = true) :
    (scheduler.installProtection aid).1.pending.refreshAids = true := by
  obtain ⟨active, _, installed⟩ := scheduler.installProtection_eq aid
  rw [installed]
  apply refreshAids_triggerUpdate
  rw [refreshAids_enable]
  exact wished

theorem refreshAids_takeStations (scheduler : Scheduler) (change : Except Fault (Bitmap × Bool))
    (wished : scheduler.pending.refreshAids = true) :
    (scheduler.takeStations change).1.pending.refreshAids = true := by
  rcases change with fault | ⟨stations, changed⟩
  · exact wished
  · cases changed with
    | false => exact wished
    | true => rw [takeStations_changed]

theorem refreshAids_beaconSent (scheduler : Scheduler) :
    scheduler.beaconSent.scheduler.pending.refreshAids = scheduler.pending.refreshAids := by
  rw [beaconSent_eq]

theorem refreshAids_after (scheduler : Scheduler) {operation : Operation}
    (noPass : operation ≠ .pass) (upright : operation ≠ .teardown)
    (wished : scheduler.pending.refreshAids = true) :
    (scheduler.after operation).pending.refreshAids = true := by
  cases operation with
  | command command => exact scheduler.refreshAids_processCommand command wished
  | associate aid => exact scheduler.refreshAids_takeStations _ wished
  | disassociate aid => exact scheduler.refreshAids_takeStations _ wished
  | beaconSent => exact scheduler.refreshAids_beaconSent.trans wished
  | triggerUpdate refreshAids => exact scheduler.refreshAids_triggerUpdate refreshAids wished
  | pass => exact absurd rfl noPass
  | enable => exact scheduler.refreshAids_enable.trans wished
  | disable => exact scheduler.refreshAids_disable.trans wished
  | setDtimPeriod period => exact wished
  | teardown => exact absurd rfl upright
  | installProtection aid => exact scheduler.refreshAids_installProtection aid wished
  | removeProtection =>
      exact refreshAids_triggerUpdate
        { scheduler with registry := scheduler.registry.deactivate protectionId } false wished

/-! ### The list in use -/

/-- The list in use is the list of the stations unless a fresh one is asked for. -/
def ListExact (scheduler : Scheduler) : Prop :=
  scheduler.pending.refreshAids = false → scheduler.aids = scheduler.stations.members

theorem ListExact.of_kept {earlier later : Scheduler} (exact : earlier.ListExact)
    (stations : later.stations = earlier.stations) (aidList : later.aidList = earlier.aidList)
    (wish : earlier.pending.refreshAids = true → later.pending.refreshAids = true) :
    later.ListExact := by
  intro unwished
  have same : later.aids = earlier.aids := congrArg (fun list => list.getD .empty) aidList
  rw [same, stations]
  apply exact
  apply eq_false_of_ne_true
  intro wished
  rw [wish wished] at unwished
  cases unwished

theorem ListExact.takeStations (exact : scheduler.ListExact)
    (change : Except Fault (Bitmap × Bool)) : (scheduler.takeStations change).1.ListExact := by
  rcases change with fault | ⟨stations, changed⟩
  · exact exact
  · cases changed with
    | false => exact exact
    | true =>
        rw [takeStations_changed]
        intro unwished
        cases unwished

theorem ListExact.runPass (exact : scheduler.ListExact) (sound : scheduler.Sound) :
    scheduler.runPass.scheduler.ListExact := by
  cases enabled : scheduler.enabled with
  | false =>
      rw [runPass_disabled enabled]
      exact exact.of_kept rfl rfl id
  | true =>
      obtain ⟨_, passed⟩ := sound.runPass_enabled enabled
      intro _unwished
      rw [passed.aids, passed.stations]
      unfold passAids
      split
      · rfl
      · rename_i unwished
        exact exact (eq_false_of_ne_true unwished)

theorem listExact_after (sound : scheduler.Sound) (exact : scheduler.ListExact)
    {operation : Operation} (upright : operation ≠ .teardown) :
    (scheduler.after operation).ListExact := by
  by_cases pass : operation = .pass
  · subst pass
    exact exact.runPass sound
  · obtain ⟨_, _, _, _, aidList⟩ := after_reconfigured sound.registry pass
    have wish := scheduler.refreshAids_after pass upright
    cases operation with
    | associate aid => exact exact.takeStations _
    | disassociate aid => exact exact.takeStations _
    | _ =>
        apply exact.of_kept _ aidList wish
        apply sound.stations_after_of_unreported
        exact fun _ => rfl

theorem Standing.listExact (standing : Standing scheduler) : scheduler.ListExact := by
  induction standing with
  | created creation =>
      have blank := blank_of_create creation
      intro _unwished
      unfold aids
      rw [blank.aidList, blank.stations, Bitmap.members_empty]
      rfl
  | performed upright earlier ih =>
      exact listExact_after earlier.reachable.sound ih upright

/-! ### Slices in a pass -/

theorem Reachable.plainSlicesFresh (reachable : Reachable scheduler) :
    scheduler.PlainSlicesFresh := by
  induction reachable with
  | created creation =>
      intro aids listed
      rw [(blank_of_create creation).aidList] at listed
      cases listed
  | performed operation earlier ih => exact plainSlicesFresh_after earlier.sound ih operation

theorem Standing.passAids_eq (standing : Standing scheduler) :
    scheduler.passAids = scheduler.stations.members := by
  unfold passAids
  split
  · rfl
  · rename_i unwished
    exact standing.listExact (eq_false_of_ne_true unwished)

theorem Standing.aidList_eq (standing : Standing scheduler)
    (unwished : scheduler.pending.refreshAids = false) {aid : Aid}
    (associated : scheduler.stations.contains aid = true) :
    scheduler.aidList = some scheduler.stations.members := by
  have exact := standing.listExact unwished
  have listed := (standing.reachable.sound.stations.mem_members aid).mpr associated
  unfold aids at exact
  cases current : scheduler.aidList with
  | none =>
      rw [current] at exact
      rw [← exact] at listed
      cases listed
  | some aids =>
      rw [current] at exact
      exact congrArg some exact

theorem Standing.passWindow?_of_plain (standing : Standing scheduler) {id : WindowId}
    {window : WindowConfig} (member : id ∈ scheduler.registry.plain)
    (found : scheduler.registry.find? id = some window) {aid : Aid}
    (associated : scheduler.stations.contains aid = true) :
    ∃ moved, scheduler.passWindow? id = some moved ∧ moved.startAid = window.startAid ∧
      moved.endAid = window.endAid ∧ moved.spreading = window.spreading ∧
      moved.FreshIn scheduler.stations.members := by
  have notPeriodic := standing.reachable.sound.registry.not_periodic_of_plain member
  unfold passWindow?
  simp only [found, Option.map_some, member, and_true, notPeriodic, and_false, if_false]
  refine ⟨_, rfl, ?_⟩
  split
  · have fresh := window.freshIn_resolveIndices scheduler.stations.members
    unfold WindowConfig.resolveIndices at fresh ⊢
    split
    · rename_i spread
      rw [if_pos spread] at fresh
      exact ⟨rfl, rfl, rfl, fresh⟩
    · rename_i unspread
      rw [if_neg unspread] at fresh
      exact ⟨rfl, rfl, rfl, fresh⟩
  · rename_i unwished
    have aidList := standing.aidList_eq (eq_false_of_ne_true unwished) associated
    exact ⟨rfl, rfl, rfl,
      standing.reachable.plainSlicesFresh _ aidList id window member found⟩

end RestrictedAccess.Scheduler
