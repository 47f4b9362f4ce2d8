/-
Runs of a simulation. No step of a run fails, and the waits of a run are counted along the way. Of
the stations only the first association of each is waited for, of the commands every one, and of
the beacons those that the scheduler takes.
-/

import Mathlib.Data.Finset.Card
import RestrictedAccess.Proofs.Scheduler.StationList
import RestrictedAccess.Proofs.Simulation.Steps

namespace RestrictedAccess.Simulation

open Station

variable {simulation later : Simulation} {step : Step} {request : Request}

/-! ### Single steps -/

def takesBeacon (simulation : Simulation) (step : Step) : Bool :=
  step = .beacon && simulation.waits step

theorem Stepped.waited (stepped : Stepped step request simulation later) :
    later.received.length = simulation.received.length + (simulation.waits step).toNat := by
  rw [stepped.received]
  cases simulation.waits step with
  | false => rfl
  | true => rfl

theorem Quiet.beacon_due (quiet : simulation.Quiet) (asks : step.request? = some request)
    (waits : simulation.waits step = true) :
    ((simulation.dispatcher.scheduler.after request.operation).enabled &&
      (simulation.dispatcher.scheduler.after request.operation).pending.beaconSent) =
        decide (step = .beacon) := by
  by_cases beacon : step = .beacon
  · subst beacon
    cases asks
    have accepted : simulation.dispatcher.scheduler.beaconSent.answer = true := by
      have told := of_decide_eq_true waits
      exact Answer.passNeeded.inj (Except.ok.inj told)
    have enabled : simulation.dispatcher.scheduler.enabled = true := by
      rw [Scheduler.beaconSent_answer_eq, Bool.and_eq_true] at accepted
      exact accepted.1
    have sent := Scheduler.pending_beaconSent_of_accepted accepted
    have kept := (simulation.dispatcher.scheduler.switchedTo_beaconSent).enabled.trans enabled
    exact (congrArg₂ and kept sent).trans (decide_eq_true rfl).symm
  · have other : request ≠ .beaconSent := by
      rintro rfl
      cases step <;> cases asks
      exact beacon rfl
    have unsent := (simulation.dispatcher.scheduler.uncounted_after other).beaconSent.trans
      quiet.consumed.beaconSent
    rw [unsent, Bool.and_false, decide_eq_false beacon]

theorem Quiet.beacons_stepped (quiet : simulation.Quiet) (asks : step.request? = some request)
    (stepped : Stepped step request simulation later) :
    later.dispatcher.scheduler.stats.beacons =
      simulation.dispatcher.scheduler.stats.beacons + (simulation.takesBeacon step).toNat := by
  have reachable : Scheduler.Reachable
      (simulation.dispatcher.scheduler.after request.operation) :=
    .performed request.operation quiet.reachable
  rw [stepped.scheduler]
  unfold takesBeacon
  cases waits : simulation.waits step with
  | false =>
      rw [if_neg Bool.false_ne_true, Scheduler.stats_after_request, Bool.and_false]
      rfl
  | true =>
      rw [if_pos rfl, reachable.sound.countedPass.beacons, Scheduler.stats_after_request,
        quiet.beacon_due asks waits, Bool.and_true]

theorem Quiet.kept_stepped (quiet : simulation.Quiet)
    (stepped : Stepped step request simulation later) :
    later.dispatcher.scheduler.enabled =
        (simulation.dispatcher.scheduler.after request.operation).enabled ∧
      later.dispatcher.scheduler.stations =
        (simulation.dispatcher.scheduler.after request.operation).stations := by
  have reachable : Scheduler.Reachable
      (simulation.dispatcher.scheduler.after request.operation) :=
    .performed request.operation quiet.reachable
  rw [stepped.scheduler]
  split
  · exact ⟨reachable.sound.kept_runPass.1, reachable.sound.stations_runPass⟩
  · exact ⟨rfl, rfl⟩

/-! ### Runs -/

/-- How many steps of a run pass a test, each looked at when its turn comes. -/
def countAlong (test : Simulation → Step → Bool) : Simulation → List Step → Nat
  | _, [] => 0
  | simulation, first :: rest =>
      (test simulation first).toNat + countAlong test (simulation.step first).1 rest

/-- A step that asks for something, and not for a station that cannot associate. -/
structure Step.Fits (step : Step) : Prop where
  asks : ∃ request, step.request? = some request
  valid : step.IsValid

def AllFit (steps : List Step) : Prop :=
  ∀ step, step ∈ steps → step.Fits

theorem AllFit.head {first : Step} {rest : List Step} (fits : AllFit (first :: rest)) :
    first.Fits :=
  fits first List.mem_cons_self

theorem AllFit.tail {first : Step} {rest : List Step} (fits : AllFit (first :: rest)) :
    AllFit rest :=
  fun step member => fits step (List.mem_cons_of_mem first member)

structure Ran (steps : List Step) (earlier later : Simulation) : Prop where
  quiet : later.Quiet
  waited : later.received.length = earlier.received.length + countAlong waits earlier steps
  beacons : later.dispatcher.scheduler.stats.beacons =
    earlier.dispatcher.scheduler.stats.beacons + countAlong takesBeacon earlier steps
  carried : later.carried.length = earlier.carried.length + steps.count .beacon

theorem Quiet.run (quiet : simulation.Quiet) {steps : List Step} (fits : AllFit steps) :
    ∃ later, simulation.run steps = (later, none) ∧ Ran steps simulation later := by
  induction steps generalizing simulation with
  | nil => exact ⟨simulation, rfl, quiet, rfl, rfl, rfl⟩
  | cons first rest ih =>
      obtain ⟨⟨request, asks⟩, valid⟩ := fits.head
      obtain ⟨next, taken, stepped⟩ := quiet.step asks valid
      obtain ⟨later, ran, left⟩ := ih stepped.quiet fits.tail
      have reached : (simulation.step first).1 = next := congrArg Prod.fst taken
      refine ⟨later, ?_, left.quiet, ?_, ?_, ?_⟩
      · unfold Simulation.run
        rw [taken]
        exact ran
      · rw [left.waited, stepped.waited, countAlong, reached, Nat.add_assoc]
      · rw [left.beacons, quiet.beacons_stepped asks stepped, countAlong, reached, Nat.add_assoc]
      · rw [left.carried, stepped.carried, List.count_cons]
        by_cases beacon : first = .beacon
        · simp [beacon]
          omega
        · simp [beacon]

theorem run_append {earlier next : Simulation} {done : List Step}
    (ran : earlier.run done = (next, none)) (rest : List Step) :
    earlier.run (done ++ rest) = next.run rest := by
  induction done generalizing earlier with
  | nil =>
      cases ran
      rfl
  | cons first others ih =>
      unfold Simulation.run at ran
      rw [List.cons_append]
      conv_lhs => unfold Simulation.run
      split at ran
      · exact ih ran
      · cases ran

theorem countAlong_append (test : Simulation → Step → Bool) {earlier next : Simulation}
    {done : List Step} (ran : earlier.run done = (next, none)) (rest : List Step) :
    countAlong test earlier (done ++ rest) =
      countAlong test earlier done + countAlong test next rest := by
  induction done generalizing earlier with
  | nil =>
      cases ran
      exact (Nat.zero_add _).symm
  | cons first others ih =>
      unfold Simulation.run at ran
      split at ran
      · rename_i taken
        rw [List.cons_append, countAlong, countAlong, taken, ih ran, Nat.add_assoc]
      · cases ran

/-! ### Stages -/

theorem Quiet.waits_associate (quiet : simulation.Quiet) {aid : Aid}
    (valid : Bitmap.isValidAid aid = true) :
    simulation.waits (.associate aid) =
      (!simulation.dispatcher.scheduler.stations.contains aid &&
        simulation.dispatcher.scheduler.enabled) := by
  change decide ((simulation.ask (.associate aid)).2 = .ok (.passNeeded true)) = _
  rw [associate_answer quiet.reachable.sound valid, quiet.consumed.enabledChanged, Bool.or_false]
  cases !simulation.dispatcher.scheduler.stations.contains aid &&
    simulation.dispatcher.scheduler.enabled <;> rfl

theorem Quiet.kept_associated (quiet : simulation.Quiet) {aid : Aid}
    (valid : Bitmap.isValidAid aid = true)
    (stepped : Stepped (.associate aid) (.associate aid) simulation later) :
    later.dispatcher.scheduler.enabled = simulation.dispatcher.scheduler.enabled ∧
      ∀ other, later.dispatcher.scheduler.stations.contains other = false ↔
        other ≠ aid ∧ simulation.dispatcher.scheduler.stations.contains other = false := by
  obtain ⟨enabled, stations⟩ := quiet.kept_stepped stepped
  refine ⟨enabled.trans (Scheduler.switchedTo_takeStations _ _).enabled, ?_⟩
  intro other
  have contains := quiet.reachable.sound.contains_associate aid other
  have known : simulation.dispatcher.scheduler.stations.contains other = true →
      Bitmap.isValidAid other = true :=
    quiet.reachable.sound.stations.valid_of_contains
  rw [stations, ← Bool.not_eq_true, ← Bool.not_eq_true]
  refine (not_congr contains).trans ?_
  constructor
  · intro absent
    refine ⟨?_, fun present => absent ⟨known present, Or.inr present⟩⟩
    rintro rfl
    exact absent ⟨valid, Or.inl rfl⟩
  · rintro ⟨different, absent⟩ ⟨-, same | present⟩
    · exact different same.symm
    · exact absent present

theorem Quiet.waits_associates (quiet : simulation.Quiet) {aids : List Aid}
    (valid : ∀ aid, aid ∈ aids → Bitmap.isValidAid aid = true) :
    countAlong waits simulation (aids.map .associate) =
      if simulation.dispatcher.scheduler.enabled then
        (aids.toFinset.filter (fun aid =>
          simulation.dispatcher.scheduler.stations.contains aid = false)).card
      else 0 := by
  induction aids generalizing simulation with
  | nil => cases simulation.dispatcher.scheduler.enabled <;> rfl
  | cons first rest ih =>
      have validFirst := valid first List.mem_cons_self
      have asks : Step.request? (.associate first) = some (.associate first) := rfl
      obtain ⟨next, taken, stepped⟩ := quiet.step asks
        (fun aid same => by cases same; exact validFirst)
      obtain ⟨enabled, absent⟩ := quiet.kept_associated validFirst stepped
      rw [List.map_cons, countAlong, taken, quiet.waits_associate validFirst,
        ih stepped.quiet (fun aid member => valid aid (List.mem_cons_of_mem first member)), enabled]
      split
      · rename_i on
        have others : rest.toFinset.filter (fun aid =>
            next.dispatcher.scheduler.stations.contains aid = false) =
            ((first :: rest).toFinset.filter (fun aid =>
              simulation.dispatcher.scheduler.stations.contains aid = false)).erase first := by
          ext aid
          rw [Finset.mem_erase, Finset.mem_filter, Finset.mem_filter, List.mem_toFinset,
            List.mem_toFinset, absent, List.mem_cons]
          tauto
        rw [others, on, Bool.and_true]
        cases present : simulation.dispatcher.scheduler.stations.contains first with
        | true =>
            rw [Finset.erase_eq_of_notMem]
            · exact Nat.zero_add _
            · intro member
              have missing := (Finset.mem_filter.mp member).2
              rw [present] at missing
              cases missing
        | false =>
            have member : first ∈ (first :: rest).toFinset.filter (fun aid =>
                simulation.dispatcher.scheduler.stations.contains aid = false) :=
              Finset.mem_filter.mpr ⟨List.mem_toFinset.mpr List.mem_cons_self, present⟩
            rw [← Finset.card_erase_add_one member, Nat.add_comm]
            rfl
      · rename_i off
        rw [(Bool.not_eq_true _).mp off, Bool.and_false]
        rfl

theorem waits_commands (simulation : Simulation) (commands : List Command) :
    countAlong waits simulation (commands.map .command) = commands.length := by
  induction commands generalizing simulation with
  | nil => rfl
  | cons first rest ih =>
      rw [List.map_cons, countAlong, ih, List.length_cons, Nat.add_comm]
      rfl

theorem waits_beacons (simulation : Simulation) (count : Nat) :
    countAlong waits simulation (List.replicate count .beacon) =
      countAlong takesBeacon simulation (List.replicate count .beacon) := by
  induction count generalizing simulation with
  | zero => rfl
  | succ count ih =>
      rw [List.replicate_succ, countAlong, countAlong, ih]
      rfl

theorem takesBeacon_of_none (simulation : Simulation) {steps : List Step}
    (none : .beacon ∉ steps) :
    countAlong takesBeacon simulation steps = 0 := by
  induction steps generalizing simulation with
  | nil => rfl
  | cons first rest ih =>
      have other : first ≠ .beacon := fun same => none (same ▸ List.mem_cons_self)
      rw [countAlong, ih _ (fun member => none (List.mem_cons_of_mem first member))]
      unfold takesBeacon
      rw [decide_eq_false other, Bool.false_and]
      rfl

end RestrictedAccess.Simulation
