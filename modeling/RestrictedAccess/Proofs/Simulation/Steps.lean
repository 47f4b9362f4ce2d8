/-
Simulations step by step. Between two steps the worker of a simulation waits without a permit, and
nothing that it delivered is left over. A step that makes one pass due waits for exactly that pass,
and a step that makes none due does not wait.
-/

import RestrictedAccess.Proofs.Dispatcher.NoLostUpdate
import RestrictedAccess.Proofs.Scheduler.Statistics
import RestrictedAccess.Simulation

namespace RestrictedAccess.Simulation

open Station

variable {simulation : Simulation}

/-! ### Waiting -/

/-- A simulation that does not wait. All passes were waited for, and the last of them gave the
payload. -/
structure Quiet (simulation : Simulation) : Prop where
  reachable : Scheduler.Reachable simulation.dispatcher.scheduler
  observers : simulation.dispatcher.observers = [observer]
  waiting : simulation.dispatcher.phase = .waiting
  noPermit : simulation.dispatcher.permit = false
  nothingLeft : simulation.dispatcher.delivered = []
  consumed : simulation.dispatcher.scheduler.Consumed
  passes : simulation.dispatcher.scheduler.stats.passes = simulation.received.length
  latest : simulation.received.head? = some (.ok simulation.dispatcher.scheduler.payload)

structure Awaiting (simulation : Simulation) : Prop where
  reachable : Scheduler.Reachable simulation.dispatcher.scheduler
  observers : simulation.dispatcher.observers = [observer]
  ahead : simulation.dispatcher.phase = .waiting ∧ simulation.dispatcher.permit = true ∨
    simulation.dispatcher.phase = .due ∧ simulation.dispatcher.permit = false
  nothingLeft : simulation.dispatcher.delivered = []
  passes : simulation.dispatcher.scheduler.stats.passes = simulation.received.length

structure Served (earlier later : Simulation) : Prop where
  quiet : later.Quiet
  scheduler : later.dispatcher.scheduler = earlier.dispatcher.scheduler.runPass.scheduler
  received : later.received = .ok later.dispatcher.scheduler.payload :: earlier.received
  carried : later.carried = earlier.carried

/-- The one pass that is ahead is the only one that a worker runs until it rests. -/
theorem Awaiting.exists_settle (awaiting : simulation.Awaiting) :
    ∃ journal, simulation.dispatcher.settle moment =
      { scheduler := simulation.dispatcher.scheduler.runPass.scheduler
        journal
        observers := [observer]
        permit := false
        phase := .waiting
        delivered :=
          [⟨observer, .ok simulation.dispatcher.scheduler.runPass.scheduler.payload⟩] } := by
  have answered := awaiting.reachable.sound.runPass_answer
  obtain ⟨-, observers, ahead, nothingLeft, -⟩ := awaiting
  rcases simulation with ⟨⟨scheduler, journal, _, permit, phase, _⟩, received, carried⟩
  simp only at answered observers ahead nothingLeft ⊢
  subst observers nothingLeft
  have report : (Except.ok scheduler.runPass.scheduler.payload : Except Fault (List UInt8)) =
      scheduler.runPass.answer.map (fun _ => scheduler.runPass.scheduler.payload) := by
    rw [answered]
    rfl
  rw [report]
  rcases ahead with ⟨rfl, rfl⟩ | ⟨rfl, rfl⟩ <;> exact ⟨_, rfl⟩

theorem Awaiting.await (awaiting : simulation.Awaiting) :
    ∃ later, simulation.await = (later, none) ∧ Served simulation later := by
  obtain ⟨journal, settled⟩ := awaiting.exists_settle
  unfold Simulation.await
  simp only [settled]
  refine ⟨_, rfl, ?_⟩
  have counted := awaiting.reachable.sound.countedPass
  exact
    { quiet :=
        { reachable := .performed .pass awaiting.reachable
          observers := rfl
          waiting := rfl
          noPermit := rfl
          nothingLeft := rfl
          consumed := awaiting.reachable.consumed_runPass
          passes := counted.passes.trans (congrArg (· + 1) awaiting.passes)
          latest := rfl }
      scheduler := rfl
      received := rfl
      carried := rfl }

/-! ### Requests -/

structure Asked (request : Request) (earlier later : Simulation) : Prop where
  scheduler : later.dispatcher.scheduler = earlier.dispatcher.scheduler.after request.operation
  received : later.received = earlier.received
  carried : later.carried = earlier.carried
  awaiting : request.wakes (earlier.dispatcher.scheduler.perform request.operation).answer = true →
    later.Awaiting
  quiet : request.wakes (earlier.dispatcher.scheduler.perform request.operation).answer = false →
    later.Quiet

theorem ask_answer (simulation : Simulation) (request : Request) :
    (simulation.ask request).2 =
      (simulation.dispatcher.scheduler.perform request.operation).answer :=
  rfl

theorem Quiet.ask (quiet : simulation.Quiet) (request : Request) :
    Asked request simulation (simulation.ask request).1 := by
  have reachable : Scheduler.Reachable
      (simulation.dispatcher.scheduler.after request.operation) :=
    .performed request.operation quiet.reachable
  have passes :
      (simulation.dispatcher.scheduler.after request.operation).stats.passes =
        simulation.received.length := by
    rw [Scheduler.stats_after_request]
    exact quiet.passes
  cases wakes : request.wakes
      (simulation.dispatcher.scheduler.perform request.operation).answer with
  | true =>
      have called : (simulation.ask request).1.dispatcher =
          (simulation.dispatcher.change moment request).1.wake.takePermit := by
        unfold Simulation.ask Dispatcher.call Dispatcher.change
        simp only [wakes, if_true]
      have taken : (simulation.dispatcher.change moment request).1.wake.takePermit =
          { (simulation.dispatcher.change moment request).1 with
            permit := false
            phase := .due } := by
        unfold Dispatcher.takePermit Dispatcher.wake Dispatcher.change
        simp only [quiet.waiting]
      rw [taken] at called
      exact
        { scheduler := called ▸ rfl
          received := rfl
          carried := rfl
          awaiting := fun _ =>
            { reachable := called ▸ reachable
              observers := called ▸ quiet.observers
              ahead := Or.inr (called ▸ ⟨rfl, rfl⟩)
              nothingLeft := called ▸ quiet.nothingLeft
              passes := called ▸ passes }
          quiet := fun silent => absurd (silent.symm.trans wakes) Bool.false_ne_true }
  | false =>
      have called : (simulation.ask request).1.dispatcher =
          (simulation.dispatcher.change moment request).1 := by
        unfold Simulation.ask Dispatcher.call Dispatcher.change
        simp only [wakes, Bool.false_eq_true, if_false]
      have unasked := Scheduler.unasked_perform wakes
      exact
        { scheduler := called ▸ rfl
          received := rfl
          carried := rfl
          awaiting := fun loud => absurd (wakes.symm.trans loud) Bool.false_ne_true
          quiet := fun _ =>
            { reachable := called ▸ reachable
              observers := called ▸ quiet.observers
              waiting := called ▸ quiet.waiting
              noPermit := called ▸ quiet.noPermit
              nothingLeft := called ▸ quiet.nothingLeft
              consumed := called ▸ quiet.consumed.of_unasked unasked
              passes := called ▸ passes
              latest := called ▸ unasked.payload ▸ quiet.latest } }

/-! ### Steps -/

/-- Whether a simulation waits for a pass in a step. For an association and for a beacon the answer
it gets tells. -/
def waits (simulation : Simulation) : Step → Bool
  | .firstPass => true
  | .associate aid => (simulation.ask (.associate aid)).2 = .ok (.passNeeded true)
  | .command _ => true
  | .beacon => (simulation.ask .beaconSent).2 = .ok (.passNeeded true)

namespace Step

def request? : Step → Option Request
  | firstPass => none
  | associate aid => some (.associate aid)
  | command asked => some (.command asked)
  | beacon => some .beaconSent

def IsValid (step : Step) : Prop :=
  ∀ aid, step = .associate aid → Bitmap.isValidAid aid = true

def entered (simulation : Simulation) : Step → Simulation
  | beacon => simulation.carry
  | _ => simulation

end Step

theorem dispatcher_entered (simulation : Simulation) (step : Step) :
    (step.entered simulation).dispatcher = simulation.dispatcher := by
  cases step <;> rfl

theorem received_entered (simulation : Simulation) (step : Step) :
    (step.entered simulation).received = simulation.received := by
  cases step <;> rfl

theorem carried_entered (simulation : Simulation) (step : Step) :
    (step.entered simulation).carried =
      if step = .beacon then simulation.dispatcher.scheduler.payload :: simulation.carried
      else simulation.carried := by
  cases step <;> rfl

theorem Quiet.entered (quiet : simulation.Quiet) (step : Step) :
    (step.entered simulation).Quiet := by
  cases step with
  | firstPass => exact quiet
  | associate aid => exact quiet
  | command asked => exact quiet
  | beacon => exact { quiet with }

/-- Only the answer decides whether a request wakes the worker, unless it is a command. -/
theorem wakes_eq_decide {request : Request} (plain : ∀ asked, request ≠ .command asked)
    (answer : Except Fault Answer) :
    request.wakes answer = decide (answer = .ok (.passNeeded true)) := by
  unfold Request.wakes
  split
  · rename_i asked
    exact absurd rfl (plain asked)
  · rename_i needed _
    cases needed <;> rfl
  · rename_i other
    exact (decide_eq_false (other true)).symm

theorem waits_eq_wakes {step : Step} {request : Request} (asks : step.request? = some request) :
    simulation.waits step =
      request.wakes (simulation.dispatcher.scheduler.perform request.operation).answer := by
  cases step with
  | firstPass => cases asks
  | associate aid =>
      cases asks
      exact (wakes_eq_decide (fun _ same => by cases same) _).symm
  | command asked =>
      cases asks
      rfl
  | beacon =>
      cases asks
      exact (wakes_eq_decide (fun _ same => by cases same) _).symm

/-- A valid station is told whether it was new to a scheduler that runs passes. -/
theorem associate_answer (sound : simulation.dispatcher.scheduler.Sound) {aid : Aid}
    (valid : Bitmap.isValidAid aid = true) :
    (simulation.ask (.associate aid)).2 =
      .ok (.passNeeded (!simulation.dispatcher.scheduler.stations.contains aid &&
        (simulation.dispatcher.scheduler.enabled ||
          simulation.dispatcher.scheduler.pending.enabledChanged))) := by
  obtain ⟨next, inserted, -⟩ := sound.stations.insert_eq valid
  have associated : (simulation.dispatcher.scheduler.stationAssociated aid).2 =
      .ok (!simulation.dispatcher.scheduler.stations.contains aid &&
        (simulation.dispatcher.scheduler.enabled ||
          simulation.dispatcher.scheduler.pending.enabledChanged)) := by
    unfold Scheduler.stationAssociated
    rw [inserted]
    cases simulation.dispatcher.scheduler.stations.contains aid with
    | true => rfl
    | false =>
        rw [Bool.not_false, Scheduler.takeStations_changed]
        rfl
  rw [ask_answer]
  unfold Request.operation Scheduler.perform
  simp only [associated]
  rfl

theorem beacon_answer (simulation : Simulation) :
    (simulation.ask .beaconSent).2 =
      .ok (.passNeeded simulation.dispatcher.scheduler.beaconSent.answer) :=
  rfl

/-- Unless its request fails, a simulation waits for the pass that the answer tells of. -/
theorem proceed_eq {asked : Simulation × Except Fault Answer} {answer : Answer}
    (answered : asked.2 = .ok answer) :
    proceed asked =
      if decide (asked.2 = .ok (.passNeeded true)) then asked.1.await else (asked.1, none) := by
  rcases asked with ⟨simulation, _⟩
  subst answered
  rcases answer with _ | needed
  · rfl
  · cases needed <;> rfl

/-- A step makes its request, and then it waits or it does not. -/
theorem Quiet.step_eq (quiet : simulation.Quiet) {step : Step} {request : Request}
    (asks : step.request? = some request) (valid : step.IsValid) :
    simulation.step step =
      if simulation.waits step then ((step.entered simulation).ask request).1.await
      else (((step.entered simulation).ask request).1, none) := by
  cases step with
  | firstPass => cases asks
  | associate aid =>
      cases asks
      exact proceed_eq (associate_answer quiet.reachable.sound (valid aid rfl))
  | command asked =>
      cases asks
      rfl
  | beacon =>
      cases asks
      exact proceed_eq simulation.carry.beacon_answer

structure Stepped (step : Step) (request : Request) (earlier later : Simulation) : Prop where
  quiet : later.Quiet
  scheduler : later.dispatcher.scheduler =
    if earlier.waits step then
      (earlier.dispatcher.scheduler.after request.operation).runPass.scheduler
    else earlier.dispatcher.scheduler.after request.operation
  received : later.received =
    if earlier.waits step then .ok later.dispatcher.scheduler.payload :: earlier.received
    else earlier.received
  carried : later.carried =
    if step = .beacon then earlier.dispatcher.scheduler.payload :: earlier.carried
    else earlier.carried

theorem Quiet.step (quiet : simulation.Quiet) {step : Step} {request : Request}
    (asks : step.request? = some request) (valid : step.IsValid) :
    ∃ later, simulation.step step = (later, none) ∧ Stepped step request simulation later := by
  have asked := (quiet.entered step).ask request
  have wakes := simulation.waits_eq_wakes asks
  rw [← dispatcher_entered simulation step] at wakes
  rw [quiet.step_eq asks valid]
  cases waited : simulation.waits step with
  | true =>
      obtain ⟨later, awaited, served⟩ := (asked.awaiting (wakes.symm.trans waited)).await
      refine ⟨later, awaited, served.quiet, ?_, ?_, ?_⟩
      · rw [waited, if_pos rfl, served.scheduler, asked.scheduler, dispatcher_entered]
      · rw [waited, if_pos rfl, served.received, asked.received, received_entered]
      · rw [served.carried, asked.carried, carried_entered]
  | false =>
      refine ⟨_, rfl, asked.quiet (wakes.symm.trans waited), ?_, ?_, ?_⟩
      · rw [waited, if_neg Bool.false_ne_true, asked.scheduler, dispatcher_entered]
      · rw [waited, if_neg Bool.false_ne_true, asked.received, received_entered]
      · rw [asked.carried, carried_entered]

end RestrictedAccess.Simulation
