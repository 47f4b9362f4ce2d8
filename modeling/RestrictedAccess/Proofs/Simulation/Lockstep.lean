/-
Simulations stay in lockstep with their scheduler. Each wait is for exactly one pass, no delivery is
left over, each beacon carries what the latest pass delivered, and the statistics at the end count
what was waited for. None of this depends on how the simulation and the worker share their time.
-/

import RestrictedAccess.Proofs.Simulation.Sessions

namespace RestrictedAccess.Simulation

open Station

variable {settings : Settings} {scenario : Scenario} {stationCount : Nat}
  {dispatcher : Dispatcher} {simulation : Simulation}

/-! ### The first pass -/

structure Created (enabled : Bool) (scheduler : Scheduler) : Prop where
  enabled : scheduler.enabled = enabled
  unsent : scheduler.pending.beaconSent = false
  stats : scheduler.stats = .zero
  empty : ∀ aid, scheduler.stations.contains aid = false

theorem created_of_create {kind : InterfaceKind} {options : SchedulerOptions}
    {scheduler : Scheduler} (creation : Scheduler.create kind options = .ok scheduler) :
    Created options.enabled scheduler := by
  have empty (aid : Aid) : scheduler.stations.contains aid = false :=
    (Scheduler.contains_afterAll creation [] aid).trans (Bool.and_false _)
  unfold Scheduler.create at creation
  split at creation
  · cases creation
  · split at creation
    · cases creation
    · cases creation
      cases enabled : options.enabled with
      | false =>
          simp only [enabled] at empty
          exact ⟨rfl, rfl, rfl, empty⟩
      | true =>
          simp only [enabled] at empty
          exact ⟨rfl, rfl, rfl, empty⟩

theorem Created.triggerUpdate {enabled : Bool} {scheduler : Scheduler}
    (created : Created enabled scheduler) (refreshAids : Bool) :
    Created enabled (scheduler.triggerUpdate refreshAids).1 := by
  rw [Scheduler.triggerUpdate_eq]
  exact ⟨created.enabled, created.unsent, created.stats, created.empty⟩

theorem awaiting_of_build (built : Dispatcher.build settings [observer] = .ok dispatcher) :
    (ofDispatcher dispatcher).Awaiting ∧
      Created settings.engine.enabledOnStart dispatcher.scheduler := by
  unfold Dispatcher.build at built
  split at built
  · cases built
  · rename_i scheduler created
    cases built
    have fresh := (created_of_create created).triggerUpdate false
    refine ⟨?_, fresh⟩
    exact
      { reachable := .performed (.triggerUpdate false) (.created created)
        observers := rfl
        ahead := Or.inl ⟨rfl, rfl⟩
        nothingLeft := rfl
        passes := congrArg SchedulerStats.passes fresh.stats }

structure Opened (first ready : Simulation) : Prop where
  served : Served first ready
  step : first.step .firstPass = (ready, none)
  unreceived : first.received = []

section Opened

variable {first ready : Simulation}

theorem Opened.run_eq (opened : Opened first ready) (left : List Step) :
    first.run (.firstPass :: left) = ready.run left := by
  rw [run_cons, opened.step]
  rfl

theorem Opened.countAlong_eq (opened : Opened first ready)
    (test : Simulation → Step → Bool) (left : List Step) :
    countAlong test first (.firstPass :: left) =
      (test first .firstPass).toNat + countAlong test ready left := by
  rw [countAlong, opened.step]

theorem Opened.run (opened : Opened first ready) {left : List Step} (fits : AllFit left) :
    ∃ current, first.run (.firstPass :: left) = (current, none) ∧ Ran left ready current ∧
      current.received.length = countAlong waits first (.firstPass :: left) := by
  obtain ⟨current, ran, leaves⟩ := opened.served.quiet.run fits
  refine ⟨current, (opened.run_eq left).trans ran, leaves, ?_⟩
  have one : ready.received.length = 1 := by
    rw [opened.served.received, opened.unreceived]
    rfl
  rw [leaves.waited, one, opened.countAlong_eq]
  rfl

theorem Opened.moment (opened : Opened first ready) {later done rest : List Step}
    (fits : AllFit later) (split : .firstPass :: later = done ++ rest) (begun : done ≠ []) :
    ∃ current, first.run done = (current, none) ∧ current.Quiet ∧
      current.received.length = countAlong waits first done := by
  cases done with
  | nil => exact absurd rfl begun
  | cons step others =>
      obtain ⟨rfl, rfl⟩ := List.cons.inj split
      obtain ⟨current, ran, leaves, received⟩ := opened.run
        (fun step member => fits step (List.mem_append_left rest member))
      exact ⟨current, ran, leaves.quiet, received⟩

theorem Opened.carried (opened : Opened first ready) {later done rest : List Step}
    (fits : AllFit later) (split : .firstPass :: later = done ++ .beacon :: rest) :
    ∃ current payload next, first.run done = (current, none) ∧
      current.received.head? = some (.ok payload) ∧ current.step .beacon = (next, none) ∧
      next.carried = payload :: current.carried := by
  have begun : done ≠ [] := by
    rintro rfl
    cases (List.cons.inj split).1
  obtain ⟨current, ran, quiet, -⟩ := opened.moment fits split begun
  have asks : Step.request? .beacon = some .beaconSent := rfl
  obtain ⟨next, taken, stepped⟩ := quiet.step asks (fun _ same => by cases same)
  exact ⟨current, _, next, ran, quiet.latest, taken, stepped.carried⟩

end Opened

/-! ### Whole simulations -/

structure StationsFit (scenario : Scenario) (stationCount : Nat) : Prop where
  listed : ∀ aid, aid ∈ scenario.stations → 0 < aid.toNat ∧ aid.toNat ≤ maxAid
  counted : scenario.stations = [] → stationCount ≤ maxAid

theorem valid_stationsOf (fits : StationsFit scenario stationCount) :
    ∀ aid, aid ∈ stationsOf scenario stationCount → Bitmap.isValidAid aid = true := by
  intro aid member
  have bounds : 0 < aid.toNat ∧ aid.toNat ≤ maxAid := by
    unfold stationsOf at member
    split at member
    · rename_i none
      obtain ⟨index, below, rfl⟩ := List.mem_map.mp member
      have few := fits.counted none
      have small := List.mem_range.mp below
      have same : (UInt16.ofNat (index + 1)).toNat = index + 1 := by
        unfold maxAid at few
        rw [UInt16.toNat_ofNat']
        omega
      omega
    · exact fits.listed aid member
  simpa only [Bitmap.isValidAid, Bool.and_eq_true, decide_eq_true_eq] using bounds

def laterSteps (scenario : Scenario) (stationCount beaconCount : Nat) : List Step :=
  (stationsOf scenario stationCount).map .associate ++ scenario.commands.map .command
    ++ List.replicate beaconCount .beacon

theorem fits_laterSteps (fits : StationsFit scenario stationCount) (beaconCount : Nat) :
    AllFit (laterSteps scenario stationCount beaconCount) := by
  intro step member
  rcases List.mem_append.mp member with other | beacon
  · rcases List.mem_append.mp other with associates | commands
    · obtain ⟨aid, listed, rfl⟩ := List.mem_map.mp associates
      refine ⟨⟨_, rfl⟩, ?_⟩
      rintro _ same
      cases same
      exact valid_stationsOf fits aid listed
    · obtain ⟨asked, _, rfl⟩ := List.mem_map.mp commands
      exact ⟨⟨_, rfl⟩, fun _ same => by cases same⟩
  · cases List.eq_of_mem_replicate beacon
    exact ⟨⟨_, rfl⟩, fun _ same => by cases same⟩

theorem beacon_notMem (aids : List Aid) (commands : List Command) :
    .beacon ∉ aids.map Step.associate ++ commands.map Step.command := by
  intro member
  rcases List.mem_append.mp member with associates | configures
  · obtain ⟨_, _, same⟩ := List.mem_map.mp associates
    cases same
  · obtain ⟨_, _, same⟩ := List.mem_map.mp configures
    cases same

theorem count_laterSteps (scenario : Scenario) (stationCount beaconCount : Nat) :
    (laterSteps scenario stationCount beaconCount).count .beacon = beaconCount := by
  unfold laterSteps
  rw [List.count_append, List.count_eq_zero_of_not_mem (beacon_notMem _ _),
    List.count_replicate_self, Nat.zero_add]

/-- The waits after the first pass. Each station is waited for once if the scheduler is enabled, and
each command and each beacon that is taken. -/
theorem Quiet.waits_laterSteps (quiet : simulation.Quiet)
    (empty : ∀ aid, simulation.dispatcher.scheduler.stations.contains aid = false)
    (fits : StationsFit scenario stationCount) (beaconCount : Nat) :
    countAlong waits simulation (laterSteps scenario stationCount beaconCount) =
      (if simulation.dispatcher.scheduler.enabled then
          (stationsOf scenario stationCount).toFinset.card
        else 0) + scenario.commands.length +
      countAlong takesBeacon simulation (laterSteps scenario stationCount beaconCount) := by
  have all := fits_laterSteps fits beaconCount
  unfold laterSteps at all ⊢
  have fitAssociates : AllFit ((stationsOf scenario stationCount).map .associate) :=
    fun step member => all step (List.mem_append_left _ (List.mem_append_left _ member))
  have fitCommands : AllFit (scenario.commands.map .command) :=
    fun step member => all step (List.mem_append_left _ (List.mem_append_right _ member))
  obtain ⟨associated, ranAssociates, leftAssociates⟩ := quiet.run fitAssociates
  obtain ⟨configured, ranCommands, _⟩ := leftAssociates.quiet.run fitCommands
  have ran := (run_append ranAssociates (scenario.commands.map .command)).trans ranCommands
  have distinct := quiet.waits_associates (valid_stationsOf fits)
  rw [Finset.filter_true_of_mem (fun aid _ => empty aid)] at distinct
  have noneTaken := takesBeacon_of_none simulation
    (beacon_notMem (stationsOf scenario stationCount) scenario.commands)
  rw [countAlong_append _ ran, countAlong_append _ ranAssociates, countAlong_append _ ran,
    distinct, waits_commands, waits_beacons, noneTaken, Nat.zero_add]

structure Lockstep (settings : Settings) (scenario : Scenario) (stationCount beaconCount : Nat)
    (first last : Simulation) : Prop where
  ran : first.run (steps scenario stationCount beaconCount) = (last, none)
  recorded : record settings scenario stationCount beaconCount =
    ⟨last.carried.reverse, .ok last.dispatcher.scheduler.stats⟩
  /-- Between two steps no pass is ahead and no delivery is left over, and there were as many passes
  as waits. -/
  moments : ∀ done rest, steps scenario stationCount beaconCount = done ++ rest → done ≠ [] →
    ∃ current, first.run done = (current, none) ∧ current.Quiet ∧
      current.received.length = countAlong waits first done
  /-- A beacon carries what the latest pass delivered. -/
  carried : ∀ done rest, steps scenario stationCount beaconCount = done ++ .beacon :: rest →
    ∃ current payload next, first.run done = (current, none) ∧
      current.received.head? = some (.ok payload) ∧ current.step .beacon = (next, none) ∧
      next.carried = payload :: current.carried
  payloads : last.carried.length = beaconCount
  passes : last.dispatcher.scheduler.stats.passes =
    1 + (if settings.engine.enabledOnStart then (stationsOf scenario stationCount).toFinset.card
      else 0) + scenario.commands.length +
    countAlong takesBeacon first (steps scenario stationCount beaconCount)
  beacons : last.dispatcher.scheduler.stats.beacons =
    countAlong takesBeacon first (steps scenario stationCount beaconCount)
  interleaved : ∀ turns, Session.LeadsTo last
    ((Session.begin first.dispatcher (steps scenario stationCount beaconCount)).afterAll turns)

theorem steps_eq (scenario : Scenario) (stationCount beaconCount : Nat) :
    steps scenario stationCount beaconCount =
      .firstPass :: laterSteps scenario stationCount beaconCount :=
  rfl

theorem recorded_of_run (built : Dispatcher.build settings [observer] = .ok dispatcher)
    {beaconCount : Nat} {last : Simulation}
    (ran : (ofDispatcher dispatcher).run (steps scenario stationCount beaconCount) = (last, none)) :
    record settings scenario stationCount beaconCount =
      ⟨last.carried.reverse, .ok last.dispatcher.scheduler.stats⟩ := by
  unfold record
  rw [built]
  simp only [ran]

/-- Whatever its stations and commands are, a simulation runs in lockstep to its end. -/
theorem simulation_in_lockstep (built : Dispatcher.build settings [observer] = .ok dispatcher)
    (fits : StationsFit scenario stationCount) (beaconCount : Nat) :
    ∃ last, Lockstep settings scenario stationCount beaconCount (ofDispatcher dispatcher) last := by
  obtain ⟨awaiting, created⟩ := awaiting_of_build built
  obtain ⟨ready, awaited, served⟩ := awaiting.await
  have opened : Opened (ofDispatcher dispatcher) ready := ⟨served, awaited, rfl⟩
  have allFit := fits_laterSteps fits beaconCount
  obtain ⟨last, ran, left, received⟩ := opened.run allFit
  have taken : countAlong takesBeacon (ofDispatcher dispatcher)
      (.firstPass :: laterSteps scenario stationCount beaconCount) =
        countAlong takesBeacon ready (laterSteps scenario stationCount beaconCount) := by
    rw [opened.countAlong_eq]
    exact Nat.zero_add _
  have sound := awaiting.reachable.sound
  have enabled : ready.dispatcher.scheduler.enabled = settings.engine.enabledOnStart := by
    rw [served.scheduler, sound.kept_runPass.1]
    exact created.enabled
  have empty (aid : Aid) : ready.dispatcher.scheduler.stations.contains aid = false := by
    rw [served.scheduler, sound.stations_runPass]
    exact created.empty aid
  have unconsumed : ready.dispatcher.scheduler.stats.beacons = 0 := by
    rw [served.scheduler, sound.countedPass.beacons]
    change dispatcher.scheduler.stats.beacons +
      (dispatcher.scheduler.enabled && dispatcher.scheduler.pending.beaconSent).toNat = 0
    rw [created.stats, created.unsent, Bool.and_false]
    rfl
  have paced : (Session.begin dispatcher (steps scenario stationCount beaconCount)).Paced :=
    .beginning rfl awaiting.underway ⟨_, rfl, allFit⟩
  refine ⟨last, ?_⟩
  exact
    { ran
      recorded := recorded_of_run built ran
      moments := fun _ _ split begun => opened.moment allFit split begun
      carried := fun _ _ split => opened.carried allFit split
      payloads := by
        rw [left.carried, served.carried, count_laterSteps]
        exact Nat.zero_add _
      passes := by
        rw [left.quiet.passes, received, steps_eq, taken, opened.countAlong_eq,
          served.quiet.waits_laterSteps empty fits, enabled, ← Nat.add_assoc, ← Nat.add_assoc]
        rfl
      beacons := by
        rw [left.beacons, unconsumed, steps_eq, taken, Nat.zero_add]
      interleaved := fun turns => paced.leadsTo ran turns }

/-- One station reports twice, a command names no window, the scheduler is switched off and on, and
the window counts down two beacons before it expires. -/
def mixedScenario : Scenario :=
  { stations := [5, 7, 5, 2007]
    commands :=
      [{ id := engineId
         flags := { enable := false, delete := false, update := false }
         fields := [] },
        { id := 9
          flags := { enable := true, delete := false, update := false }
          fields := [] },
        { id := engineId
          flags := { enable := true, delete := false, update := false }
          fields := [] },
        { id := 1
          flags := { enable := true, delete := false, update := true }
          fields := [.slots 4000 2 false, .group 1 100, .periodic 1 2 0 false] }] }

theorem simulation_in_lockstep_in_mixedScenario :
    ∃ dispatcher last, Dispatcher.build .standard [observer] = .ok dispatcher ∧
      StationsFit mixedScenario 0 ∧
      Lockstep .standard mixedScenario 0 6 (ofDispatcher dispatcher) last ∧
      last.dispatcher.scheduler.stats =
        { passes := 1 + 3 + 4 + 2, beacons := 2, dropped := 0, expired := 1 } := by
  have built : Dispatcher.build .standard [observer] = .ok _ := rfl
  have fits : StationsFit mixedScenario 0 :=
    { listed := List.forall_iff_forall_mem.mp (by decide)
      counted := fun _ => Nat.zero_le maxAid }
  obtain ⟨last, lockstep⟩ := simulation_in_lockstep built fits 6
  have ending : (record .standard mixedScenario 0 6).ending =
      .ok { passes := 1 + 3 + 4 + 2, beacons := 2, dropped := 0, expired := 1 } := by
    decide +kernel
  rw [lockstep.recorded] at ending
  exact ⟨_, last, built, fits, lockstep, Except.ok.inj ending⟩

end RestrictedAccess.Simulation
