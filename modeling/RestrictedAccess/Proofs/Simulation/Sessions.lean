/-
Every interleaving of a simulation with its worker comes to the same end. What is still ahead of a
session is a run of the simulation, and no turn changes where that run leads. No session waits for
ever, since a turn that does anything brings it nearer to its end.
-/

import RestrictedAccess.Proofs.Dispatcher.Turns
import RestrictedAccess.Proofs.Simulation.Runs
import RestrictedAccess.Simulation.Session

namespace RestrictedAccess.Simulation

variable {simulation : Simulation}

/-! ### Waits -/

/-- Where a wait leads depends on where the worker comes to rest. -/
theorem await_congr {earlier later : Simulation}
    (settle : later.dispatcher.settle moment = earlier.dispatcher.settle moment)
    (received : later.received = earlier.received) (carried : later.carried = earlier.carried) :
    later.await = earlier.await := by
  unfold await
  rw [settle, received, carried]

/-- A simulation whose wait will end, with a worker that runs one pass until then. -/
structure Underway (simulation : Simulation) : Prop where
  ends : ∃ later, simulation.await = (later, none) ∧ later.Quiet
  single : simulation.dispatcher.SinglePass

theorem Awaiting.underway (awaiting : simulation.Awaiting) : simulation.Underway := by
  obtain ⟨later, awaited, served⟩ := awaiting.await
  refine ⟨⟨later, awaited, served.quiet⟩, .busy awaiting.nothingLeft ?_⟩
  exact awaiting.ahead.imp And.left And.right

theorem Quiet.idle (quiet : simulation.Quiet) : simulation.dispatcher.IsIdle :=
  ⟨quiet.waiting, quiet.noPermit⟩

def resume : Simulation × Option Fault → List Step → Simulation × Option Fault
  | (next, none), left => next.run left
  | (stopped, some fault), _ => (stopped, some fault)

theorem run_cons (simulation : Simulation) (first : Step) (rest : List Step) :
    simulation.run (first :: rest) = resume (simulation.step first) rest := by
  unfold Simulation.run resume
  rcases simulation.step first with ⟨next, _ | fault⟩ <;> rfl

namespace Session

variable {session : Session}

def outlook (session : Session) : Simulation × Option Fault :=
  match session.stage with
  | .ready => session.simulation.run session.left
  | .reporting => resume (proceed (session.simulation.ask .beaconSent)) session.left
  | .waking =>
      resume (await { session.simulation with dispatcher := session.simulation.dispatcher.wake })
        session.left
  | .waiting => resume session.simulation.await session.left
  | .stopped fault => (session.simulation, some fault)

/-- A session that keeps time with its worker. -/
inductive Paced (session : Session) : Prop
  | beginning (stage : session.stage = .ready) (underway : session.simulation.Underway)
      (left : ∃ rest, session.left = .firstPass :: rest ∧ AllFit rest)
  | ready (stage : session.stage = .ready) (quiet : session.simulation.Quiet)
      (fits : AllFit session.left)
  | reporting (stage : session.stage = .reporting) (quiet : session.simulation.Quiet)
      (fits : AllFit session.left)
  | waking (stage : session.stage = .waking) (idle : session.simulation.dispatcher.IsIdle)
      (underway : Underway
        { session.simulation with dispatcher := session.simulation.dispatcher.wake })
      (fits : AllFit session.left)
  | waiting (stage : session.stage = .waiting) (underway : session.simulation.Underway)
      (fits : AllFit session.left)

structure OnTrack (earlier later : Session) : Prop where
  paced : later.Paced
  outlook : later.outlook = earlier.outlook

theorem onTrack_of_idle {job : Dispatcher → Dispatcher} (turn : Dispatcher.IsTurn moment job)
    (paced : session.Paced) (idle : session.simulation.dispatcher.IsIdle) :
    OnTrack session (session.work job) := by
  have same : session.work job = session := by
    unfold work
    rw [turn.idle _ idle]
  rw [same]
  exact ⟨paced, rfl⟩

theorem Paced.work {job : Dispatcher → Dispatcher} (turn : Dispatcher.IsTurn moment job)
    (paced : session.Paced) : OnTrack session (session.work job) := by
  have awaited : (session.work job).simulation.await = session.simulation.await :=
    await_congr (turn.settle _) rfl rfl
  have underway (before : session.simulation.Underway) : (session.work job).simulation.Underway :=
    ⟨awaited ▸ before.ends, turn.single _ before.single⟩
  cases paced with
  | beginning stage before left =>
      obtain ⟨rest, found, fits⟩ := left
      refine ⟨.beginning stage (underway before) ⟨rest, found, fits⟩, ?_⟩
      unfold outlook
      have kept : (session.work job).stage = .ready := stage
      rw [stage, kept]
      change (session.work job).simulation.run session.left = _
      rw [found, run_cons, run_cons]
      exact congrArg (fun outcome => resume outcome rest) awaited
  | ready stage quiet fits => exact onTrack_of_idle turn (.ready stage quiet fits) quiet.idle
  | reporting stage quiet fits =>
      exact onTrack_of_idle turn (.reporting stage quiet fits) quiet.idle
  | waking stage idle before fits => exact onTrack_of_idle turn (.waking stage idle before fits) idle
  | waiting stage before fits =>
      refine ⟨.waiting stage (underway before) fits, ?_⟩
      unfold outlook
      have kept : (session.work job).stage = .waiting := stage
      rw [stage, kept]
      exact congrArg (fun outcome => resume outcome session.left) awaited

/-! ### Turns of the simulation -/

/-- A request is made in two turns or in one. Either way it leads where it leads at once. -/
theorem onTrack_request (session : Session) (quiet : session.simulation.Quiet)
    (fits : AllFit session.left) (request : Request)
    (answered : request.wakes
      (session.simulation.dispatcher.scheduler.perform request.operation).answer = false →
        ∃ answer, (session.simulation.ask request).2 = .ok answer) :
    (session.request request).Paced ∧ (session.request request).outlook =
      resume
        (if request.wakes
            (session.simulation.dispatcher.scheduler.perform request.operation).answer then
          (session.simulation.ask request).1.await
        else ((session.simulation.ask request).1, none))
        session.left := by
  have asked := quiet.ask request
  cases wakes : request.wakes
      (session.simulation.dispatcher.scheduler.perform request.operation).answer with
  | true =>
      have stage : (session.request request).stage = .waking := if_pos wakes
      have called : (session.simulation.ask request).1.dispatcher =
          (session.request request).simulation.dispatcher.wake.takePermit := by
        unfold Simulation.ask Dispatcher.call Dispatcher.change
        simp only [wakes, if_true]
        rfl
      have same : await { (session.request request).simulation with
            dispatcher := (session.request request).simulation.dispatcher.wake } =
          (session.simulation.ask request).1.await := by
        apply await_congr
        · rw [called]
          exact ((Dispatcher.isTurn_takePermit moment).settle _).symm
        · rfl
        · rfl
      have underway := (asked.awaiting wakes).underway
      refine ⟨.waking stage ⟨quiet.waiting, quiet.noPermit⟩ ⟨same ▸ underway.ends, ?_⟩ fits, ?_⟩
      · exact .busy quiet.nothingLeft (Or.inl quiet.waiting)
      · unfold outlook
        rw [stage, if_pos rfl]
        exact congrArg (fun outcome => resume outcome session.left) same
  | false =>
      obtain ⟨answer, told⟩ := answered wakes
      rw [ask_answer] at told
      have stage : (session.request request).stage = .ready := by
        unfold Session.request Dispatcher.change
        simp only [told] at wakes ⊢
        simp only [wakes, Bool.false_eq_true, if_false]
      have called : (session.request request).simulation = (session.simulation.ask request).1 := by
        unfold Session.request Simulation.ask Dispatcher.call Dispatcher.change
        simp only [wakes, Bool.false_eq_true, if_false]
      refine ⟨.ready stage (called ▸ asked.quiet wakes) fits, ?_⟩
      unfold outlook
      rw [stage, if_neg Bool.false_ne_true]
      change (session.request request).simulation.run session.left = _
      rw [called]
      rfl

theorem onTrack_start (quiet : session.simulation.Quiet)
    (stage : session.stage = .ready)
    (fits : AllFit session.left) :
    OnTrack session (session.start session.left) := by
  have before : session.outlook = session.simulation.run session.left := by
    unfold outlook
    rw [stage]
  rcases session with ⟨simulation, _, left⟩
  simp only at quiet stage fits before ⊢
  subst stage
  cases left with
  | nil => exact ⟨.ready rfl quiet fits, rfl⟩
  | cons first rest =>
      obtain ⟨⟨request, asks⟩, valid⟩ := fits.head
      have later := fits.tail
      rw [run_cons, quiet.step_eq asks valid, simulation.waits_eq_wakes asks] at before
      cases first with
      | firstPass => cases asks
      | associate aid =>
          cases asks
          obtain ⟨paced, outlook⟩ := onTrack_request ⟨simulation, .ready, rest⟩ quiet
            later (.associate aid)
            (fun _ => ⟨_, associate_answer quiet.reachable.sound (valid aid rfl)⟩)
          exact ⟨paced, outlook.trans before.symm⟩
      | command asked =>
          cases asks
          obtain ⟨paced, outlook⟩ := onTrack_request ⟨simulation, .ready, rest⟩ quiet
            later (.command asked) (fun silent => by cases silent)
          exact ⟨paced, outlook.trans before.symm⟩
      | beacon =>
          refine ⟨.reporting rfl (quiet.entered .beacon) later, ?_⟩
          exact (run_cons simulation .beacon rest).symm

theorem onTrack_receive (underway : session.simulation.Underway)
    (stage : session.stage = .waiting) (fits : AllFit session.left) :
    OnTrack session session.receive := by
  rcases session with ⟨⟨dispatcher, received, carried⟩, _, left⟩
  simp only at stage underway fits
  subst stage
  obtain ⟨⟨next, awaited, quiet⟩, single⟩ := underway
  unfold receive
  cases delivered : dispatcher.delivered with
  | nil =>
      simp only [delivered]
      exact ⟨.waiting rfl ⟨⟨next, awaited, quiet⟩, single⟩ fits, rfl⟩
  | cons delivery rest =>
      have idle : dispatcher.IsIdle := by
        cases single with
        | idle idle => exact idle
        | busy nothing _ =>
            rw [delivered] at nothing
            cases nothing
      have taken : await ⟨dispatcher, received, carried⟩ =
          (⟨{ dispatcher with delivered := rest, journal := dispatcher.journal.drained },
            delivery.report :: received, carried⟩, none) := by
        unfold await
        simp only [idle.settle, delivered]
      cases taken.symm.trans awaited
      simp only [delivered]
      refine ⟨.ready rfl quiet fits, ?_⟩
      change Simulation.run _ left = resume (await _) left
      rw [taken]
      rfl

theorem Paced.advance (paced : session.Paced) : OnTrack session session.advance := by
  unfold Session.advance
  cases paced with
  | beginning stage underway left =>
      obtain ⟨rest, found, fits⟩ := left
      rw [stage]
      simp only
      rw [found]
      refine ⟨.waiting rfl underway fits, ?_⟩
      unfold outlook
      rw [stage, found]
      exact (run_cons session.simulation .firstPass rest).symm
  | ready stage quiet fits =>
      rw [stage]
      exact onTrack_start quiet stage fits
  | reporting stage quiet fits =>
      rw [stage]
      obtain ⟨paced, ahead⟩ := session.onTrack_request quiet fits .beaconSent
        (fun _ => ⟨_, beacon_answer session.simulation⟩)
      have asks : Step.request? .beacon = some .beaconSent := rfl
      refine ⟨paced, ahead.trans ?_⟩
      unfold outlook
      rw [stage, ← waits_eq_wakes asks]
      exact congrArg (fun outcome => resume outcome session.left)
        (proceed_eq (beacon_answer session.simulation)).symm
  | waking stage idle underway fits =>
      rw [stage]
      refine ⟨.waiting rfl underway fits, ?_⟩
      unfold outlook
      rw [stage]
  | waiting stage underway fits =>
      rw [stage]
      exact onTrack_receive underway stage fits

/-! ### Interleavings -/

theorem Paced.after (paced : session.Paced) (turn : Turn) :
    OnTrack session (session.after turn) := by
  cases turn with
  | simulation => exact paced.advance
  | takePermit => exact paced.work (Dispatcher.isTurn_takePermit moment)
  | runPass => exact paced.work (Dispatcher.isTurn_runPass moment)
  | deliver => exact paced.work (Dispatcher.isTurn_deliver moment)

theorem Paced.afterAll (paced : session.Paced) (turns : List Turn) :
    OnTrack session (session.afterAll turns) := by
  unfold Session.afterAll
  induction turns generalizing session with
  | nil => exact ⟨paced, rfl⟩
  | cons turn rest ih =>
      obtain ⟨next, same⟩ := paced.after turn
      obtain ⟨last, outlook⟩ := ih next
      exact ⟨last, outlook.trans same⟩

theorem Paced.unfailing (paced : session.Paced) (fault : Fault) :
    session.stage ≠ .stopped fault := by
  intro stopped
  cases paced with
  | beginning stage _ _ => cases stage.symm.trans stopped
  | ready stage _ _ => cases stage.symm.trans stopped
  | reporting stage _ _ => cases stage.symm.trans stopped
  | waking stage _ _ _ => cases stage.symm.trans stopped
  | waiting stage _ _ => cases stage.symm.trans stopped

theorem left_start (session : Session) (first : Step) (rest : List Step) :
    (session.start (first :: rest)).left = rest := by
  cases first <;> rfl

theorem stage_request (session : Session) (request : Request) :
    (session.request request).stage ≠ .reporting := by
  unfold Session.request
  simp only
  split
  · exact fun same => by cases same
  · split <;> exact fun same => by cases same

/-- A wait that will end does not come to rest before it has ended. -/
theorem Underway.moves (underway : session.simulation.Underway)
    (stage : session.stage = .waiting) : ¬ session.AtRest := by
  intro rest
  have fixed (turn : Turn) : (session.after turn).simulation.dispatcher =
      session.simulation.dispatcher :=
    congrArg (fun session => session.simulation.dispatcher) (rest turn)
  have settled : session.simulation.dispatcher.settle moment = session.simulation.dispatcher :=
    Dispatcher.settle_of_fixed (fixed .takePermit) (fixed .runPass) (fixed .deliver)
  obtain ⟨⟨later, awaited, -⟩, -⟩ := underway
  have received : session.receive = session := by
    have advanced : session.advance = session := rest .simulation
    unfold Session.advance at advanced
    rw [stage] at advanced
    exact advanced
  unfold await at awaited
  unfold receive at received
  simp only [settled] at awaited
  split at awaited
  · cases awaited
  · rename_i delivered
    simp only [delivered] at received
    have ready : session.stage = .ready := congrArg Session.stage received.symm
    cases stage.symm.trans ready

/-- A session that cannot go on has come to its end. -/
theorem Paced.finished (paced : session.Paced) (rest : session.AtRest) : session.Finished := by
  have advanced : session.advance = session := rest .simulation
  unfold Session.advance at advanced
  cases paced with
  | beginning stage underway left =>
      obtain ⟨others, found, -⟩ := left
      rw [stage, found] at advanced
      have same := (congrArg Session.stage advanced).trans stage
      cases same
  | ready stage quiet fits =>
      refine ⟨stage, ?_⟩
      rw [stage] at advanced
      cases left : session.left with
      | nil => rfl
      | cons first others =>
          rw [left] at advanced
          have fewer := (left_start session first others).symm.trans (congrArg Session.left advanced)
          exact absurd (fewer.trans left) (List.cons_ne_self first others).symm
  | reporting stage quiet fits =>
      rw [stage] at advanced
      exact absurd ((congrArg Session.stage advanced).trans stage) (session.stage_request _)
  | waking stage idle underway fits =>
      rw [stage] at advanced
      have same := (congrArg Session.stage advanced).trans stage
      cases same
  | waiting stage underway fits => exact absurd rest (Underway.moves underway stage)

end Session

/-! ### Progress -/

namespace Session

variable {session : Session}

def stageAhead : Stage → Nat
  | .ready => 0
  | .reporting => 6
  | .waking => 5
  | .waiting => 1
  | .stopped _ => 0

/-- A bound for the turns that a session will take. A step takes up to seven of them. -/
def turnsAhead (session : Session) : Nat :=
  session.simulation.dispatcher.workAhead + stageAhead session.stage + 7 * session.left.length

theorem turnsAhead_work {job : Dispatcher → Dispatcher} (turn : Dispatcher.IsTurn moment job)
    (session : Session) :
    session.work job = session ∨ (session.work job).turnsAhead < session.turnsAhead := by
  refine (turn.nearer session.simulation.dispatcher).imp (fun same => ?_) (fun less => ?_)
  · unfold Session.work
    rw [same]
  · exact Nat.add_lt_add_right (Nat.add_lt_add_right less _) _

theorem turnsAhead_request (session : Session) (request : Request) :
    (session.request request).turnsAhead ≤
      session.simulation.dispatcher.workAhead + 5 + 7 * session.left.length := by
  have stage : stageAhead (session.request request).stage ≤ 5 := by
    unfold Session.request
    simp only
    split
    · exact Nat.le_refl 5
    · split <;> exact Nat.zero_le 5
  unfold turnsAhead
  have kept : (session.request request).simulation.dispatcher.workAhead =
      session.simulation.dispatcher.workAhead := rfl
  have left : (session.request request).left = session.left := rfl
  rw [kept, left]
  omega

theorem turnsAhead_start (session : Session) (stage : session.stage = .ready) :
    session.start session.left = session ∨
      (session.start session.left).turnsAhead < session.turnsAhead := by
  rcases session with ⟨simulation, _, left⟩
  simp only at stage ⊢
  subst stage
  cases left with
  | nil => exact Or.inl rfl
  | cons first rest =>
      right
      have whole : turnsAhead ⟨simulation, .ready, first :: rest⟩ =
          simulation.dispatcher.workAhead + 7 * rest.length + 7 := by
        unfold turnsAhead stageAhead
        simp only [List.length_cons]
        omega
      rw [whole]
      cases first with
      | firstPass =>
          unfold start turnsAhead stageAhead
          simp only
          omega
      | associate aid =>
          have bound := turnsAhead_request ⟨simulation, .ready, rest⟩ (.associate aid)
          unfold start
          simp only at bound ⊢
          omega
      | command asked =>
          have bound := turnsAhead_request ⟨simulation, .ready, rest⟩ (.command asked)
          unfold start
          simp only at bound ⊢
          omega
      | beacon =>
          unfold start turnsAhead stageAhead carry
          simp only
          omega

theorem turnsAhead_advance (session : Session) :
    session.advance = session ∨ session.advance.turnsAhead < session.turnsAhead := by
  unfold Session.advance
  split
  · rename_i stage
    exact session.turnsAhead_start stage
  · rename_i stage
    right
    have bound := session.turnsAhead_request .beaconSent
    have whole : session.turnsAhead =
        session.simulation.dispatcher.workAhead + 6 + 7 * session.left.length := by
      unfold turnsAhead stageAhead
      rw [stage]
    omega
  · rename_i stage
    right
    unfold turnsAhead stageAhead Dispatcher.workAhead
    rw [stage]
    simp only [Dispatcher.wake, if_true]
    omega
  · rename_i stage
    unfold receive
    simp only
    split
    · exact Or.inl rfl
    · right
      unfold turnsAhead stageAhead Dispatcher.workAhead
      rw [stage]
      simp only
      omega
  · exact Or.inl rfl

/-- A turn that changes a session at all brings it nearer to its end. -/
theorem turnsAhead_after (session : Session) (turn : Turn) :
    session.after turn = session ∨ (session.after turn).turnsAhead < session.turnsAhead := by
  cases turn with
  | simulation => exact session.turnsAhead_advance
  | takePermit => exact turnsAhead_work (Dispatcher.isTurn_takePermit moment) session
  | runPass => exact turnsAhead_work (Dispatcher.isTurn_runPass moment) session
  | deliver => exact turnsAhead_work (Dispatcher.isTurn_deliver moment) session

/-- What a session comes to, however its turns are shared out. -/
structure LeadsTo (last : Simulation) (session : Session) : Prop where
  unfailing : ∀ fault, session.stage ≠ .stopped fault
  finished : session.Finished → session.simulation = last
  /-- It does not wait for a pass that nobody runs. -/
  atRest : session.AtRest → session.Finished
  nearer : ∀ turn, session.after turn = session ∨
    (session.after turn).turnsAhead < session.turnsAhead

theorem Paced.leadsTo (paced : session.Paced) {last : Simulation}
    (outlook : session.outlook = (last, none)) (turns : List Turn) :
    LeadsTo last (session.afterAll turns) := by
  obtain ⟨later, same⟩ := paced.afterAll turns
  refine ⟨later.unfailing, ?_, later.finished, turnsAhead_after _⟩
  rintro ⟨stage, noneLeft⟩
  have reached : (session.afterAll turns).outlook = ((session.afterAll turns).simulation, none) := by
    unfold Session.outlook
    rw [stage, noneLeft]
    rfl
  exact congrArg Prod.fst (reached.symm.trans (same.trans outlook))

end Session

end RestrictedAccess.Simulation
