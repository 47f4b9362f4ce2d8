/-
What switches a scheduler on or off, and what else lasts. Every operation switches the scheduler to
a known state or leaves it in its own; nothing but a pass or a teardown changes the payload; and the
room of the element is the one that the scheduler was created with.
-/

import RestrictedAccess.Proofs.Scheduler.EveryBeacon

namespace RestrictedAccess

def Operation.switchesTo? : Operation → Option Bool
  | .command asked => if asked.id = engineId then some asked.flags.enable else none
  | .enable => some true
  | .disable => some false
  | .teardown => some false
  | .installProtection _ => some true
  | _ => none

namespace Scheduler

open Station

variable {scheduler : Scheduler}

structure SwitchedTo (on : Bool) (earlier later : Scheduler) : Prop where
  enabled : later.enabled = on
  room : later.options.maxAssignments = earlier.options.maxAssignments
  payload : later.payload = earlier.payload

theorem SwitchedTo.trans {on onThen : Bool} {first second third : Scheduler}
    (before : SwitchedTo on first second) (after : SwitchedTo onThen second third) :
    SwitchedTo onThen first third :=
  { enabled := after.enabled
    room := after.room.trans before.room
    payload := after.payload.trans before.payload }

/-! ### Single functions -/

theorem switchedTo_enable (scheduler : Scheduler) :
    SwitchedTo true scheduler scheduler.enable := by
  rw [enable_eq]
  exact ⟨rfl, rfl, rfl⟩

theorem switchedTo_disable (scheduler : Scheduler) :
    SwitchedTo false scheduler scheduler.disable := by
  rw [disable_eq]
  exact ⟨rfl, rfl, rfl⟩

theorem switchedTo_triggerUpdate (scheduler : Scheduler) (refreshAids : Bool) :
    SwitchedTo scheduler.enabled scheduler (scheduler.triggerUpdate refreshAids).1 := by
  rw [triggerUpdate_eq]
  exact ⟨rfl, rfl, rfl⟩

theorem SwitchedTo.triggerUpdate {on : Bool} {earlier later : Scheduler}
    (switched : SwitchedTo on earlier later) (refreshAids : Bool) :
    SwitchedTo on earlier (later.triggerUpdate refreshAids).1 :=
  switched.enabled ▸ switched.trans (switchedTo_triggerUpdate later refreshAids)

theorem switchedTo_takeStations (scheduler : Scheduler) (change : Except Fault (Bitmap × Bool)) :
    SwitchedTo scheduler.enabled scheduler (scheduler.takeStations change).1 := by
  rcases change with fault | ⟨stations, changed⟩
  · exact ⟨rfl, rfl, rfl⟩
  · cases changed with
    | false => exact ⟨rfl, rfl, rfl⟩
    | true =>
        rw [takeStations_changed]
        exact ⟨rfl, rfl, rfl⟩

theorem switchedTo_beaconSent (scheduler : Scheduler) :
    SwitchedTo scheduler.enabled scheduler scheduler.beaconSent.scheduler := by
  rw [beaconSent_eq]
  exact ⟨rfl, rfl, rfl⟩

theorem switchedTo_applyCommand (scheduler : Scheduler) (command : Command) :
    SwitchedTo (if command.id = engineId then command.flags.enable else scheduler.enabled) scheduler
      (scheduler.applyCommand command).1 := by
  obtain ⟨registry, applied⟩ := scheduler.applyCommand_eq command
  rw [applied]
  split
  · cases command.flags.enable with
    | true =>
        have switched := scheduler.switchedTo_enable
        exact ⟨switched.enabled, switched.room, switched.payload⟩
    | false =>
        have switched := scheduler.switchedTo_disable
        exact ⟨switched.enabled, switched.room, switched.payload⟩
  · exact ⟨rfl, rfl, rfl⟩

theorem switchedTo_processCommand (scheduler : Scheduler) (command : Command) :
    SwitchedTo (if command.id = engineId then command.flags.enable else scheduler.enabled) scheduler
      (scheduler.processCommand command).scheduler := by
  have applied := scheduler.switchedTo_applyCommand command
  obtain ⟨_, _, _, settled⟩ := (scheduler.applyCommand command).1.settleConfiguration_eq
  have same : SwitchedTo (if command.id = engineId then command.flags.enable else scheduler.enabled)
      scheduler (scheduler.applyCommand command).1.settleConfiguration := by
    rw [settled]
    exact ⟨applied.enabled, applied.room, applied.payload⟩
  exact same.triggerUpdate false

/-! ### Operations -/

theorem switchedTo_after (scheduler : Scheduler) {operation : Operation}
    (noPass : operation ≠ .pass) (upright : operation ≠ .teardown) :
    SwitchedTo (operation.switchesTo?.getD scheduler.enabled) scheduler
      (scheduler.after operation) := by
  cases operation with
  | command command =>
      have switched := scheduler.switchedTo_processCommand command
      unfold Operation.switchesTo?
      split at switched
      · rename_i engine
        simp only [if_pos engine, Option.getD_some]
        exact switched
      · rename_i named
        simp only [if_neg named, Option.getD_none]
        exact switched
  | associate aid => exact scheduler.switchedTo_takeStations _
  | disassociate aid => exact scheduler.switchedTo_takeStations _
  | beaconSent => exact scheduler.switchedTo_beaconSent
  | triggerUpdate refreshAids => exact scheduler.switchedTo_triggerUpdate refreshAids
  | pass => exact absurd rfl noPass
  | enable => exact scheduler.switchedTo_enable
  | disable => exact scheduler.switchedTo_disable
  | setDtimPeriod period => exact ⟨rfl, rfl, rfl⟩
  | teardown => exact absurd rfl upright
  | installProtection aid =>
      obtain ⟨active, _, installed⟩ := scheduler.installProtection_eq aid
      have enabled := switchedTo_enable { scheduler with registry := active }
      change SwitchedTo true scheduler (scheduler.installProtection aid).1
      rw [installed]
      have switched : SwitchedTo true scheduler { scheduler with registry := active }.enable :=
        ⟨enabled.enabled, enabled.room, enabled.payload⟩
      exact switched.triggerUpdate false
  | removeProtection =>
      have silenced : SwitchedTo scheduler.enabled scheduler
          { scheduler with registry := scheduler.registry.deactivate protectionId } :=
        ⟨rfl, rfl, rfl⟩
      exact silenced.triggerUpdate false

theorem Sound.kept_runPass (sound : scheduler.Sound) :
    scheduler.runPass.scheduler.enabled = scheduler.enabled ∧
      scheduler.runPass.scheduler.options = scheduler.options := by
  cases enabled : scheduler.enabled with
  | false =>
      rw [runPass_disabled enabled]
      exact ⟨enabled, rfl⟩
  | true =>
      have settled := sound.settled enabled
      exact ⟨settled.enabled, settled.options⟩

theorem Sound.enabled_after (sound : scheduler.Sound) (operation : Operation) :
    (scheduler.after operation).enabled = operation.switchesTo?.getD scheduler.enabled := by
  by_cases pass : operation = .pass
  · subst pass
    exact sound.kept_runPass.1
  · by_cases teardown : operation = .teardown
    · subst teardown
      rfl
    · exact (scheduler.switchedTo_after pass teardown).enabled

theorem Sound.room_after (sound : scheduler.Sound) (operation : Operation) :
    (scheduler.after operation).options.maxAssignments = scheduler.options.maxAssignments := by
  by_cases pass : operation = .pass
  · subst pass
    exact congrArg SchedulerOptions.maxAssignments sound.kept_runPass.2
  · by_cases teardown : operation = .teardown
    · subst teardown
      rfl
    · exact (scheduler.switchedTo_after pass teardown).room

theorem room_of_create {kind : InterfaceKind} {options : SchedulerOptions}
    (creation : create kind options = .ok scheduler) : 0 < scheduler.options.maxAssignments := by
  unfold create at creation
  split at creation
  · cases creation
  · split at creation
    · cases creation
    · rename_i room
      cases creation
      split
      · rw [(switchedTo_enable _).room]
        exact Nat.pos_of_ne_zero room
      · exact Nat.pos_of_ne_zero room

theorem Reachable.room (reachable : Reachable scheduler) :
    0 < scheduler.options.maxAssignments := by
  induction reachable with
  | created creation => exact room_of_create creation
  | performed operation earlier ih =>
      rw [earlier.sound.room_after operation]
      exact ih

end Scheduler

end RestrictedAccess
