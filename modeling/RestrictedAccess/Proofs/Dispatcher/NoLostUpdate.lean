/-
No update is lost between clients and worker. Whatever a client leaves for a pass to do comes with a
wake-up, and a wake-up is kept until the worker takes it, so as long as something is left to do a
pass is still ahead. Once no pass is ahead and the worker waits, every observer has the payload of
the scheduler, and an enabled scheduler is as its last pass left it.
-/

import RestrictedAccess.Dispatcher.Service
import RestrictedAccess.Proofs.Scheduler.PassTotality
import RestrictedAccess.Proofs.Scheduler.Switching

namespace RestrictedAccess

open Station

namespace Scheduler

variable {scheduler earlier later : Scheduler}

/-! ### Requests that ask for no pass -/

/-- A scheduler after a request that needs no pass. If it is enabled nothing has changed, and if it
is disabled it may have taken note of stations and windows. -/
structure Unasked (earlier later : Scheduler) : Prop where
  same : earlier.enabled = true → later = earlier
  enabled : later.enabled = earlier.enabled
  beaconSent : later.pending.beaconSent = earlier.pending.beaconSent
  enabledChanged : later.pending.enabledChanged = earlier.pending.enabledChanged
  payload : later.payload = earlier.payload

theorem Unasked.refl (scheduler : Scheduler) : Unasked scheduler scheduler :=
  ⟨fun _ => rfl, rfl, rfl, rfl, rfl⟩

/-- An enabled scheduler never turns a request for a pass down, and a disabled one that does is as it
was. -/
theorem triggerUpdate_of_refused {refreshAids : Bool}
    (refused : (scheduler.triggerUpdate refreshAids).2 = false) :
    scheduler.enabled = false ∧ (scheduler.triggerUpdate refreshAids).1 = scheduler := by
  rw [triggerUpdate_eq] at refused ⊢
  obtain ⟨disabled, _⟩ := Bool.or_eq_false_iff.mp refused
  refine ⟨disabled, ?_⟩
  simp only [disabled, Bool.false_and, Bool.or_false]
  rw [← disabled]

theorem unasked_takeStations {change : Except Fault (Bitmap × Bool)}
    (refused : ∀ needed, (scheduler.takeStations change).2 = .ok needed → needed = false) :
    Unasked scheduler (scheduler.takeStations change).1 := by
  rcases change with fault | ⟨stations, changed⟩
  · exact Unasked.refl scheduler
  · cases changed with
    | false => exact Unasked.refl scheduler
    | true =>
        rw [takeStations_changed] at refused ⊢
        obtain ⟨disabled, _⟩ := Bool.or_eq_false_iff.mp (refused _ rfl)
        refine ⟨fun enabled => ?_, rfl, rfl, rfl, rfl⟩
        exact absurd (disabled.symm.trans enabled) Bool.false_ne_true

/-- A request that does not wake the worker leaves nothing for it to do. -/
theorem unasked_perform {request : Request}
    (quiet : request.wakes (scheduler.perform request.operation).answer = false) :
    Unasked scheduler (scheduler.after request.operation) := by
  cases request with
  | command command => cases quiet
  | associate aid =>
      apply unasked_takeStations
      intro needed answered
      unfold Request.operation perform stationAssociated at quiet
      simp only [answered] at quiet
      exact quiet
  | disassociate aid =>
      apply unasked_takeStations
      intro needed answered
      unfold Request.operation perform stationDisassociated at quiet
      simp only [answered] at quiet
      exact quiet
  | beaconSent =>
      have kept := beaconSent_of_refused quiet
      change Unasked scheduler scheduler.beaconSent.scheduler
      rw [kept]
      exact Unasked.refl scheduler
  | triggerUpdate refreshAids =>
      obtain ⟨_, kept⟩ := triggerUpdate_of_refused quiet
      change Unasked scheduler (scheduler.triggerUpdate refreshAids).1
      rw [kept]
      exact Unasked.refl scheduler
  | installProtection aid =>
      obtain ⟨active, _, installed⟩ := scheduler.installProtection_eq aid
      unfold Request.operation perform at quiet
      simp only [installed] at quiet
      cases quiet
  | removeProtection =>
      obtain ⟨disabled, kept⟩ := triggerUpdate_of_refused quiet
      change Unasked scheduler (Scheduler.triggerUpdate _ false).1
      rw [kept]
      refine ⟨fun enabled => ?_, rfl, rfl, rfl, rfl⟩
      exact absurd (disabled.symm.trans enabled) Bool.false_ne_true

/-! ### Nothing left to do -/

structure Consumed (scheduler : Scheduler) : Prop where
  /-- An enabled scheduler is as its last pass left it. -/
  generated : scheduler.enabled = true → ∃ before, Reachable before ∧ before.enabled = true ∧
    scheduler = before.runPass.scheduler
  beaconSent : scheduler.pending.beaconSent = false
  enabledChanged : scheduler.pending.enabledChanged = false
  refreshAids : scheduler.pending.refreshAids = true → scheduler.enabled = false
  cleared : scheduler.enabled = false → scheduler.payload = []

theorem Reachable.consumed_runPass (reachable : Reachable scheduler) :
    scheduler.runPass.scheduler.Consumed := by
  cases enabled : scheduler.enabled with
  | false =>
      rw [runPass_disabled enabled]
      have disabled : scheduler.disabledPass.enabled = false := enabled
      exact
        { generated := fun on => absurd (disabled.symm.trans on) Bool.false_ne_true
          beaconSent := rfl
          enabledChanged := rfl
          refreshAids := fun _ => disabled
          cleared := fun _ => rfl }
  | true =>
      have settled := reachable.sound.settled enabled
      refine
        { generated := fun _ => ⟨scheduler, reachable, enabled, rfl⟩
          beaconSent := by rw [settled.pending]; rfl
          enabledChanged := by rw [settled.pending]; rfl
          refreshAids := ?_
          cleared := ?_ }
      · intro wished
        rw [settled.pending] at wished
        cases wished
      · intro disabled
        exact absurd (disabled.symm.trans settled.enabled) Bool.false_ne_true

theorem Consumed.of_unasked (consumed : earlier.Consumed) (unasked : Unasked earlier later) :
    later.Consumed := by
  cases enabled : earlier.enabled with
  | true => exact unasked.same enabled ▸ consumed
  | false =>
      have disabled : later.enabled = false := unasked.enabled.trans enabled
      exact
        { generated := fun on => absurd (disabled.symm.trans on) Bool.false_ne_true
          beaconSent := unasked.beaconSent.trans consumed.beaconSent
          enabledChanged := unasked.enabledChanged.trans consumed.enabledChanged
          refreshAids := fun _ => disabled
          cleared := fun _ => unasked.payload.trans (consumed.cleared enabled) }

end Scheduler

deriving instance DecidableEq for WorkerPhase

namespace Dispatcher

inductive Fresh : Dispatcher → Prop
  | built {settings : Settings} {observers : List Observer} {dispatcher : Dispatcher}
      (creation : build settings observers = .ok dispatcher) : Fresh dispatcher
  | started {scheduler : Scheduler} (reachable : Scheduler.Reachable scheduler)
      (observers : List Observer) : Fresh (start scheduler observers)

/-- A fresh dispatcher has taken over a scheduler and keeps a wake-up. -/
theorem Fresh.exists_start {dispatcher : Dispatcher} (fresh : dispatcher.Fresh) :
    ∃ scheduler observers, Scheduler.Reachable scheduler ∧
      dispatcher = start scheduler observers := by
  cases fresh with
  | started reachable observers => exact ⟨_, observers, reachable, rfl⟩
  | built creation =>
      unfold build at creation
      split at creation
      · cases creation
      · rename_i scheduler created
        cases creation
        exact ⟨_, _, .performed (.triggerUpdate false) (.created created), rfl⟩

/-- All observers of a round receive its report, so it is the last one among any of them. -/
theorem lastReportAmong?_of_round {dispatcher later : Dispatcher}
    {report : Except Fault (List UInt8)}
    (delivered : later.delivered = dispatcher.delivered ++
      dispatcher.observers.map (fun observer => ⟨observer, report⟩))
    {observer : Observer} (member : observer ∈ dispatcher.observers)
    {receivers : Observer → Bool} (receives : receivers observer = true) :
    later.lastReportAmong? receivers = some report := by
  unfold lastReportAmong?
  rw [delivered, List.reverse_append, List.find?_append]
  cases found : (dispatcher.observers.map
      (fun observer => (⟨observer, report⟩ : Delivery))).reverse.find?
        (fun delivery => receivers delivery.observer) with
  | none =>
      have missing := List.find?_eq_none.mp found ⟨observer, report⟩
        (List.mem_reverse.mpr (List.mem_map_of_mem member))
      exact absurd receives missing
  | some delivery =>
      have inRound := List.mem_reverse.mp (List.mem_of_find?_eq_some found)
      obtain ⟨receiver, _, rfl⟩ := List.mem_map.mp inRound
      rfl

end Dispatcher

namespace Service

variable {service : Service} {observer : Observer}

/-! ### Steps -/

/-- A pass is still to come: its wake-up is kept, was taken, or is on its way. -/
def PassAhead (service : Service) : Prop :=
  service.dispatcher.permit = true ∨ service.dispatcher.phase = .due ∨ service.waking ≠ []

/-- What an event can do. Either a pass is ahead afterwards, or the event is the only pass that was
ahead, or none was ahead before it. -/
inductive Stepped (earlier later : Service) : Prop
  | ahead (ahead : later.PassAhead)
  | passed
      (scheduler : later.dispatcher.scheduler = earlier.dispatcher.scheduler.runPass.scheduler)
      (phase : later.dispatcher.phase =
        .delivering (earlier.dispatcher.scheduler.runPass.answer.map
          (fun _ => earlier.dispatcher.scheduler.runPass.scheduler.payload)))
  | delivered {report : Except Fault (List UInt8)} (idle : ¬ earlier.PassAhead)
      (delivering : earlier.dispatcher.phase = .delivering report)
      (phase : later.dispatcher.phase = .waiting)
      (scheduler : later.dispatcher.scheduler = earlier.dispatcher.scheduler)
      (delivered : later.dispatcher.delivered = earlier.dispatcher.delivered ++
        earlier.dispatcher.observers.map (fun observer => ⟨observer, report⟩))
  | quiet (idle : ¬ earlier.PassAhead)
      (unasked : Scheduler.Unasked earlier.dispatcher.scheduler later.dispatcher.scheduler)
      (phase : later.dispatcher.phase = earlier.dispatcher.phase)
      (delivered : later.dispatcher.delivered = earlier.dispatcher.delivered)

theorem stepped_of_unasked {later : Service}
    (unasked : Scheduler.Unasked service.dispatcher.scheduler later.dispatcher.scheduler)
    (permit : later.dispatcher.permit = service.dispatcher.permit)
    (phase : later.dispatcher.phase = service.dispatcher.phase)
    (waking : later.waking = service.waking)
    (delivered : later.dispatcher.delivered = service.dispatcher.delivered) :
    Stepped service later := by
  by_cases ahead : service.PassAhead
  · apply Stepped.ahead
    unfold PassAhead
    rw [permit, phase, waking]
    exact ahead
  · exact .quiet ahead unasked phase delivered

theorem stepped_self (service : Service) : Stepped service service :=
  stepped_of_unasked (Scheduler.Unasked.refl _) rfl rfl rfl rfl

theorem stepped_change (service : Service) (client now : Nat) (request : Request) :
    Stepped service (service.change client now request) := by
  unfold change
  split
  · exact service.stepped_self
  · cases wakes : request.wakes
        (service.dispatcher.scheduler.perform request.operation).answer with
    | true =>
        apply Stepped.ahead
        refine Or.inr (Or.inr ?_)
        unfold Dispatcher.change
        simp only [wakes, if_true]
        exact List.cons_ne_nil client service.waking
    | false =>
        refine stepped_of_unasked ?_ rfl rfl ?_ rfl
        · exact Scheduler.unasked_perform wakes
        · unfold Dispatcher.change
          simp only [wakes, Bool.false_eq_true, if_false]

theorem stepped_takePermit (service : Service) : Stepped service (service.after .takePermit) := by
  unfold after Dispatcher.takePermit
  simp only
  split
  · exact .ahead (Or.inr (Or.inl rfl))
  · exact service.stepped_self

theorem stepped_runPass (service : Service) (now : Nat) :
    Stepped service (service.after (.runPass now)) := by
  unfold after Dispatcher.runPass
  simp only
  split
  · exact .passed rfl rfl
  · exact service.stepped_self

theorem stepped_deliver (service : Service) (now : Nat) :
    Stepped service (service.after (.deliver now)) := by
  unfold after Dispatcher.deliver
  simp only
  split
  · rename_i report delivering
    by_cases ahead : service.PassAhead
    · -- The worker was busy, so the pass that is ahead has its wake-up elsewhere.
      rcases ahead with permit | due | waking
      · exact .ahead (Or.inl permit)
      · rw [delivering] at due
        cases due
      · exact .ahead (Or.inr (Or.inr waking))
    · exact .delivered ahead delivering rfl rfl rfl
  · exact service.stepped_self

theorem stepped_after (service : Service) (event : Event) :
    Stepped service (service.after event) := by
  cases event with
  | change client now request => exact service.stepped_change client now request
  | wake client =>
      change Stepped service (service.wake client)
      unfold wake
      split
      · exact .ahead (Or.inl rfl)
      · exact service.stepped_self
  | takePermit => exact service.stepped_takePermit
  | runPass now => exact service.stepped_runPass now
  | deliver now => exact service.stepped_deliver now
  | addObserver observer =>
      exact stepped_of_unasked (Scheduler.Unasked.refl _) rfl rfl rfl rfl
  | removeObserver name =>
      exact stepped_of_unasked (Scheduler.Unasked.refl _) rfl rfl rfl rfl

structure Framed (earlier later : Service) (event : Event) : Prop where
  operated : later.dispatcher.scheduler = earlier.dispatcher.scheduler ∨
    ∃ operation, later.dispatcher.scheduler = earlier.dispatcher.scheduler.after operation
  observers : later.dispatcher.observers =
    match event with
    | .addObserver observer => earlier.dispatcher.observers ++ [observer]
    | .removeObserver name =>
        earlier.dispatcher.observers.filter (fun observer => observer.name != name)
    | _ => earlier.dispatcher.observers

theorem framed_after (service : Service) (event : Event) :
    Framed service (service.after event) event := by
  cases event with
  | change client now request =>
      change Framed service (service.change client now request) _
      unfold change
      split
      · exact ⟨Or.inl rfl, rfl⟩
      · exact ⟨Or.inr ⟨request.operation, rfl⟩, rfl⟩
  | wake client =>
      change Framed service (service.wake client) _
      unfold wake
      split <;> exact ⟨Or.inl rfl, rfl⟩
  | takePermit =>
      unfold after Dispatcher.takePermit
      simp only
      split <;> exact ⟨Or.inl rfl, rfl⟩
  | runPass now =>
      unfold after Dispatcher.runPass
      simp only
      split
      · exact ⟨Or.inr ⟨.pass, rfl⟩, rfl⟩
      · exact ⟨Or.inl rfl, rfl⟩
  | deliver now =>
      unfold after Dispatcher.deliver
      simp only
      split <;> exact ⟨Or.inl rfl, rfl⟩
  | addObserver observer => exact ⟨Or.inl rfl, rfl⟩
  | removeObserver name => exact ⟨Or.inl rfl, rfl⟩

theorem reachable_after (reachable : Scheduler.Reachable service.dispatcher.scheduler)
    (event : Event) : Scheduler.Reachable (service.after event).dispatcher.scheduler := by
  rcases (service.framed_after event).operated with kept | ⟨operation, operated⟩
  · exact kept ▸ reachable
  · exact operated ▸ .performed operation reachable

theorem registered_after (registered : observer ∈ service.dispatcher.observers) {event : Event}
    (kept : event ≠ .removeObserver observer.name) :
    observer ∈ (service.after event).dispatcher.observers := by
  rw [(service.framed_after event).observers]
  split
  · exact List.mem_append_left _ registered
  · rename_i name
    have different : observer.name ≠ name := fun same => kept (same ▸ rfl)
    exact List.mem_filter.mpr ⟨registered, bne_iff_ne.mpr different⟩
  · exact registered

/-! ### Invariants -/

structure Orderly (service : Service) : Prop where
  reachable : Scheduler.Reachable service.dispatcher.scheduler
  consumed : ¬ service.PassAhead → service.dispatcher.scheduler.Consumed
  report : ¬ service.PassAhead → ∀ report, service.dispatcher.phase = .delivering report →
    report = .ok service.dispatcher.scheduler.payload

theorem Orderly.after (orderly : service.Orderly) (event : Event) :
    (service.after event).Orderly := by
  have reachable := reachable_after orderly.reachable event
  cases service.stepped_after event with
  | ahead ahead =>
      exact
        { reachable := reachable
          consumed := fun idle => absurd ahead idle
          report := fun idle => absurd ahead idle }
  | passed scheduler phase =>
      refine
        { reachable := reachable
          consumed := fun _ => scheduler ▸ orderly.reachable.consumed_runPass
          report := ?_ }
      intro _idle report delivering
      rw [orderly.reachable.sound.runPass_answer] at phase
      cases delivering.symm.trans phase
      rw [scheduler]
      rfl
  | delivered idle _ phase scheduler _ =>
      refine
        { reachable := reachable
          consumed := fun _ => scheduler ▸ orderly.consumed idle
          report := ?_ }
      intro _idle report delivering
      cases phase.symm.trans delivering
  | quiet idle unasked phase _ =>
      refine
        { reachable := reachable
          consumed := fun _ => (orderly.consumed idle).of_unasked unasked
          report := ?_ }
      intro _idle report delivering
      rw [unasked.payload]
      exact orderly.report idle report (phase.symm.trans delivering)

/-- With no pass ahead and the worker waiting, an observer has the payload of the scheduler, by its
name or by whatever else it is told apart from others. -/
def Informs (service : Service) (observer : Observer) : Prop :=
  ¬ service.PassAhead → service.dispatcher.phase = .waiting →
    ∀ receivers : Observer → Bool, receivers observer = true →
      service.dispatcher.lastReportAmong? receivers =
        some (.ok service.dispatcher.scheduler.payload)

theorem Informs.after (informs : service.Informs observer) (orderly : service.Orderly)
    (registered : observer ∈ service.dispatcher.observers) (event : Event) :
    (service.after event).Informs observer := by
  intro stillIdle waiting receivers receives
  cases service.stepped_after event with
  | ahead ahead => exact absurd ahead stillIdle
  | passed _ phase => cases phase.symm.trans waiting
  | delivered idle delivering _ scheduler delivered =>
      rw [Dispatcher.lastReportAmong?_of_round delivered registered receives, scheduler,
        orderly.report idle _ delivering]
  | quiet idle unasked phase delivered =>
      have before := informs idle (phase.symm.trans waiting) receivers receives
      unfold Dispatcher.lastReportAmong? at before ⊢
      rw [delivered, unasked.payload]
      exact before

/-! ### Interleavings -/

def RegisteredThroughout (observer : Observer) (start : Service) (events : List Event) : Prop :=
  ∀ past rest, events = past ++ rest → observer ∈ (start.afterAll past).dispatcher.observers

theorem registeredThroughout_of_kept {events : List Event}
    (registered : observer ∈ service.dispatcher.observers)
    (kept : .removeObserver observer.name ∉ events) :
    RegisteredThroughout observer service events := by
  intro past rest split
  have keptPast : .removeObserver observer.name ∉ past := fun removed =>
    kept (split ▸ List.mem_append_left rest removed)
  clear split kept
  unfold Service.afterAll
  induction past generalizing service with
  | nil => exact registered
  | cons event later ih =>
      have first : event ≠ .removeObserver observer.name :=
        fun same => keptPast (same ▸ List.mem_cons_self)
      exact ih (registered_after registered first)
        (fun removed => keptPast (List.mem_cons_of_mem event removed))

theorem Orderly.afterAll (orderly : service.Orderly) (events : List Event) :
    (service.afterAll events).Orderly := by
  unfold Service.afterAll
  induction events generalizing service with
  | nil => exact orderly
  | cons event rest ih => exact ih (orderly.after event)

theorem Informs.afterAll (informs : service.Informs observer) (orderly : service.Orderly)
    {events : List Event} (registered : RegisteredThroughout observer service events) :
    (service.afterAll events).Informs observer := by
  induction events generalizing service with
  | nil => exact informs
  | cons event rest ih =>
      have first : observer ∈ service.dispatcher.observers := registered [] (event :: rest) rfl
      apply ih (informs.after orderly first event) (orderly.after event)
      intro past later split
      exact registered (event :: past) later (congrArg (List.cons event) split)

theorem AtRest.idle (rest : service.AtRest) : ¬ service.PassAhead := by
  rintro (permit | due | waking)
  · exact absurd (rest.noPermit.symm.trans permit) Bool.false_ne_true
  · cases rest.waiting.symm.trans due
  · exact waking rest.noWaking

structure Served (start : Service) (events : List Event) : Prop where
  consumed : (start.afterAll events).dispatcher.scheduler.Consumed
  informed : ∀ observer, RegisteredThroughout observer start events →
    (start.afterAll events).dispatcher.lastReport? observer.name =
      some (.ok (start.afterAll events).dispatcher.scheduler.payload)
  received : ∀ observer, RegisteredThroughout observer start events →
    (start.afterAll events).dispatcher.lastReportTo? observer =
      some (.ok (start.afterAll events).dispatcher.scheduler.payload)

/-- However clients and worker are interleaved, once the service is at rest nothing that was asked
for is lost. -/
theorem no_update_lost {dispatcher : Dispatcher} (fresh : dispatcher.Fresh) (events : List Event)
    (rest : ((ofDispatcher dispatcher).afterAll events).AtRest) :
    (ofDispatcher dispatcher).Served events := by
  obtain ⟨scheduler, observers, reachable, rfl⟩ := fresh.exists_start
  have ahead : (ofDispatcher (.start scheduler observers)).PassAhead := Or.inl rfl
  have orderly : (ofDispatcher (.start scheduler observers)).Orderly :=
    { reachable := reachable
      consumed := fun idle => absurd ahead idle
      report := fun idle => absurd ahead idle }
  have informed {observer : Observer}
      (registered : RegisteredThroughout observer (ofDispatcher (.start scheduler observers)) events)
      {receivers : Observer → Bool} (receives : receivers observer = true) :
      ((ofDispatcher (.start scheduler observers)).afterAll events).dispatcher.lastReportAmong?
          receivers =
        some (.ok ((ofDispatcher (.start scheduler observers)).afterAll
          events).dispatcher.scheduler.payload) := by
    have informs : (ofDispatcher (.start scheduler observers)).Informs observer :=
      fun idle => absurd ahead idle
    exact informs.afterAll orderly registered rest.idle rest.waiting receivers receives
  exact
    { consumed := (orderly.afterAll events).consumed rest.idle
      informed := fun _ registered => informed registered (decide_eq_true rfl)
      received := fun _ registered => informed registered (decide_eq_true rfl) }

/-- Two observers of one name, the first of which declines every payload, and a third one. -/
def mixedObservers : List Observer :=
  [⟨1, "display", fun _ => some (.observerDeclined "busy")⟩, ⟨2, "display", fun _ => none⟩,
    ⟨3, "beacons", fun _ => none⟩]

/-- Three clients race with the worker. The first pass finds one change that has yet to be followed
by its wake-up, two wake-ups fall together, and another one arrives when its change has already been
taken over. -/
def racingEvents : List Event :=
  [.change 1 0 (.command
      { id := 3
        flags := { enable := true, delete := false, update := true }
        fields := [.slots 4000 4 false, .group 3 7, .spread 0 1] }),
    .takePermit, .change 2 0 (.associate 3), .runPass 1, .wake 1, .change 3 1 .beaconSent, .wake 3,
    .deliver 1, .takePermit, .wake 2, .change 3 2 (.associate 3), .runPass 2, .deliver 2,
    .takePermit, .runPass 3, .deliver 3]

theorem no_update_lost_in_race :
    ∃ dispatcher, Dispatcher.build .standard mixedObservers = .ok dispatcher ∧
      ((ofDispatcher dispatcher).afterAll racingEvents).AtRest ∧
      ((ofDispatcher dispatcher).afterAll racingEvents).dispatcher.scheduler.payload ≠ [] ∧
      (∀ observer, observer ∈ mixedObservers →
        RegisteredThroughout observer (ofDispatcher dispatcher) racingEvents) ∧
      (ofDispatcher dispatcher).Served racingEvents := by
  have creation : Dispatcher.build .standard mixedObservers = .ok _ := rfl
  refine ⟨_, creation, ?rest, ?payload, ?registered,
    no_update_lost (.built creation) racingEvents ?rest⟩
  case rest => exact ⟨by decide +kernel, by decide +kernel, by decide +kernel⟩
  case payload => decide +kernel
  case registered =>
    intro observer member
    apply registeredThroughout_of_kept member
    simp [racingEvents]

end Service

end RestrictedAccess
