/-
The cached slices of spread windows. Activation resolves a window in the station list in use and a
fresh list moves the slices of the plain windows, so plain windows never have the indices of an
older list. A fresh list does not reach the periodic windows: their slices stay where they were,
and become stale exactly in the passes that strand one of them.
-/

import RestrictedAccess.Proofs.Scheduler.Histories
import RestrictedAccess.Proofs.Scheduler.PassWindows

namespace RestrictedAccess

open Station

/-- A window that is not spread, or whose slice is the one that the list gives for its range. -/
def WindowConfig.FreshIn (aids : AidList) (window : WindowConfig) : Prop :=
  window.usesSpreading = true → window.indices = aids.resolve window.startAid window.endAid

namespace WindowConfig

theorem freshIn_of_resting {earlier later : WindowConfig}
    (same : later.resting = earlier.resting) (aids : AidList) :
    later.FreshIn aids ↔ earlier.FreshIn aids := by
  have starts := congrArg WindowConfig.startAid same
  have ends := congrArg WindowConfig.endAid same
  change later.startAid = earlier.startAid at starts
  change later.endAid = earlier.endAid at ends
  unfold FreshIn
  rw [usesSpreading_of_resting same, indices_of_resting same, starts, ends]

theorem freshIn_resolveIndices (aids : AidList) (window : WindowConfig) :
    (window.resolveIndices aids).FreshIn aids := by
  unfold resolveIndices
  split
  · intro _spread
    rfl
  · rename_i unspread
    intro spread
    exact absurd spread unspread

theorem Sound.freshIn_of_internal {window : WindowConfig} (sound : window.Sound)
    (reserved : firstInternalId ≤ window.id) (aids : AidList) : window.FreshIn aids := by
  intro spread
  unfold usesSpreading at spread
  rw [(sound.internal reserved).2] at spread
  cases spread

end WindowConfig

namespace Registry

def FreshOn (ids : List WindowId) (aids : AidList) (registry : Registry) : Prop :=
  ∀ id window, id ∈ ids → registry.find? id = some window → window.FreshIn aids

variable {earlier later : Registry}

theorem RunsTo.freshOn (runs : RunsTo earlier later) {ids : List WindowId} {aids : AidList}
    (fresh : earlier.FreshOn ids aids) : later.FreshOn ids aids := by
  intro id window member found
  obtain ⟨previous, foundPrevious, same⟩ := runs.found found
  exact (WindowConfig.freshIn_of_resting same aids).mpr (fresh id previous member foundPrevious)

theorem FreshOn.of_subset {registry : Registry} {ids fewer : List WindowId} {aids : AidList}
    (fresh : registry.FreshOn ids aids) (subset : ∀ id, id ∈ fewer → id ∈ ids) :
    registry.FreshOn fewer aids :=
  fun id window member found => fresh id window (subset id member) found

/-- Changing one window keeps the slices fresh if that window is fresh afterwards. -/
theorem FreshOn.of_agreeOff {id : WindowId} {before after : List WindowId} {aids : AidList}
    (fresh : earlier.FreshOn before aids) (agree : AgreeOff id earlier later)
    (listed : ∀ other, other ≠ id → other ∈ after → other ∈ before)
    (changed : id ∈ after → ∀ window, later.find? id = some window → window.FreshIn aids) :
    later.FreshOn after aids := by
  intro other window member found
  by_cases same : other = id
  · subst same
    exact changed member window found
  · rw [agree.found other same] at found
    exact fresh other window (listed other same member) found

end Registry

namespace Scheduler

def PlainSlicesFresh (scheduler : Scheduler) : Prop :=
  ∀ aids, scheduler.aidList = some aids →
    scheduler.registry.FreshOn scheduler.registry.plain aids

def SlicesFresh (scheduler : Scheduler) : Prop :=
  ∀ aids, scheduler.aidList = some aids →
    scheduler.registry.FreshOn scheduler.registry.active aids

/-- The next pass makes a fresh list in which the slice of a spread periodic window, which stays
active, is another one than the window has cached. -/
structure StrandsPeriodic (scheduler : Scheduler) : Prop where
  enabled : scheduler.enabled = true
  refresh : scheduler.pending.refreshAids = true
  stranded : ∃ id window, id ∈ scheduler.survivors ∧
    scheduler.registry.find? id = some window ∧
    ¬ window.FreshIn scheduler.stations.members

/-! ### Operations apart from passes -/

section Reconfiguration

variable {earlier later : Registry} {aids : AidList}

theorem Configured.freshOn {command : Command}
    (configured : Configured earlier (some aids) command later)
    (listed : Registry → List WindowId)
    (agreeing : ∀ registry, Registry.AgreeOff command.id earlier registry →
      ∀ other, other ≠ command.id → other ∈ listed registry → other ∈ listed earlier)
    (active : ∀ registry id, id ∈ listed registry → id ∈ registry.active)
    (fresh : earlier.FreshOn (listed earlier) aids) : later.FreshOn (listed later) aids := by
  cases configured with
  | kept _ => exact fresh
  | cleared _ =>
      intro id window _ found
      cases found
  | silenced _ _ agree inactive =>
      apply fresh.of_agreeOff agree (agreeing later agree)
      intro member
      exact absurd (active later command.id member) inactive
  | @activated _ window filed _ activated =>
      have id : (window.resolvedIn (some aids)).id = command.id :=
        (window.id_resolvedIn (some aids)).trans filed
      have agree := activated.agree
      rw [id] at agree
      apply fresh.of_agreeOff agree (agreeing later agree)
      intro _ stored found
      rw [← id, activated.found] at found
      cases found
      exact window.freshIn_resolveIndices aids

/-- A list of active windows that only an operation on a window itself can put it on. -/
theorem Reconfigured.freshOn {operation : Operation}
    (reconfigured : Reconfigured earlier (some aids) operation later)
    (listed : Registry → List WindowId)
    (agreeing : ∀ id registry, Registry.AgreeOff id earlier registry →
      ∀ other, other ≠ id → other ∈ listed registry → other ∈ listed earlier)
    (active : ∀ registry id, id ∈ listed registry → id ∈ registry.active)
    (fresh : earlier.FreshOn (listed earlier) aids) : later.FreshOn (listed later) aids := by
  cases reconfigured with
  | untouched _ => exact fresh
  | forgotten _ =>
      intro id window _ found
      cases found
  | @commanded command _ configured =>
      exact configured.freshOn listed (agreeing command.id) active fresh
  | protection _ sound agree =>
      apply fresh.of_agreeOff agree (agreeing protectionId later agree)
      intro _ window found
      have filed : window.id = protectionId := sound.filed protectionId window found
      refine (sound.windows protectionId window found).freshIn_of_internal ?_ aids
      rw [filed]
      decide

end Reconfiguration

variable {scheduler : Scheduler}

theorem plainSlicesFresh_reconfigured (sound : scheduler.Sound) {operation : Operation}
    (noPass : operation ≠ .pass) (fresh : scheduler.PlainSlicesFresh) :
    (scheduler.after operation).PlainSlicesFresh := by
  intro aids listed
  obtain ⟨later, reconfigured, runs, _, kept⟩ := after_reconfigured sound.registry noPass
  rw [kept] at listed
  rw [listed] at reconfigured
  rw [runs.plain]
  apply runs.freshOn
  apply reconfigured.freshOn Registry.plain
  · intro id registry agree other different member
    exact (agree.plain other different).mp member
  · intro registry id member
    exact List.mem_append_left _ member
  · exact fresh aids listed

theorem slicesFresh_reconfigured (sound : scheduler.Sound) {operation : Operation}
    (noPass : operation ≠ .pass) (fresh : scheduler.SlicesFresh) :
    (scheduler.after operation).SlicesFresh := by
  intro aids listed
  obtain ⟨later, reconfigured, runs, active, kept⟩ := after_reconfigured sound.registry noPass
  rw [kept] at listed
  rw [listed] at reconfigured
  rw [active]
  apply runs.freshOn
  apply reconfigured.freshOn Registry.active
  · intro id registry agree other different member
    exact (agree.mem_active different).mp member
  · intro registry id member
    exact member
  · exact fresh aids listed

/-! ### Passes -/

theorem Sound.freshOn_refreshedRegistry (sound : scheduler.Sound)
    (refresh : scheduler.pending.refreshAids = true) :
    scheduler.refreshedRegistry.FreshOn scheduler.registry.plain scheduler.stations.members := by
  intro id window member found
  rw [sound.find?_refreshedRegistry] at found
  obtain ⟨stored, _, moved⟩ := Option.map_eq_some_iff.mp found
  rw [if_pos ⟨refresh, member⟩] at moved
  rw [← moved]
  exact stored.freshIn_resolveIndices scheduler.stations.members

theorem Sound.find?_refreshed_of_not_plain (sound : scheduler.Sound) {id : WindowId}
    (notPlain : id ∉ scheduler.registry.plain) :
    scheduler.refreshedRegistry.find? id = scheduler.registry.find? id := by
  rw [sound.find?_refreshedRegistry]
  simp only [notPlain, and_false, if_false, Option.map_id']

theorem Sound.not_plain_of_survivor (sound : scheduler.Sound) {id : WindowId}
    (member : id ∈ scheduler.survivors) : id ∉ scheduler.registry.plain :=
  fun inPlain => sound.registry.not_periodic_of_plain inPlain (scheduler.survivors_subset member)

theorem Passed.active {later : Scheduler} (passed : Passed scheduler later)
    (sound : scheduler.Sound) :
    later.registry.active = scheduler.registry.plain ++ scheduler.survivors := by
  unfold Registry.active
  rw [passed.plain sound, passed.periodic sound]

theorem Passed.runsTo_of_no_refresh {later : Scheduler} (passed : Passed scheduler later)
    (sound : scheduler.Sound) (noRefresh : scheduler.pending.refreshAids = false) :
    Registry.RunsTo scheduler.registry later.registry ∧ later.aidList = scheduler.aidList := by
  have runs := passed.runsTo_of_refreshed sound
  have aidList := passed.aidList
  have same : scheduler.refreshedRegistry = scheduler.registry := by
    unfold refreshedRegistry
    rw [noRefresh]
    rfl
  rw [same] at runs
  rw [noRefresh] at aidList
  exact ⟨runs, aidList⟩

theorem plainSlicesFresh_pass (sound : scheduler.Sound) (fresh : scheduler.PlainSlicesFresh) :
    scheduler.runPass.scheduler.PlainSlicesFresh := by
  cases enabled : scheduler.enabled with
  | false =>
      rw [runPass_disabled enabled]
      exact fresh
  | true =>
      obtain ⟨_, passed⟩ := sound.runPass_enabled enabled
      intro aids listed
      rw [passed.plain sound]
      cases refresh : scheduler.pending.refreshAids with
      | false =>
          obtain ⟨runs, kept⟩ := passed.runsTo_of_no_refresh sound refresh
          rw [kept] at listed
          exact runs.freshOn (fresh aids listed)
      | true =>
          rw [passed.aidList, if_pos refresh] at listed
          have same := Option.some.inj listed
          subst same
          have runs := passed.runsTo_of_refreshed sound
          exact runs.freshOn (sound.freshOn_refreshedRegistry refresh)

/-- After a fresh list, the slices of the periodic windows decide. -/
theorem Passed.slicesFresh_iff {later : Scheduler} (passed : Passed scheduler later)
    (sound : scheduler.Sound) (refresh : scheduler.pending.refreshAids = true) :
    later.SlicesFresh ↔
      scheduler.registry.FreshOn scheduler.survivors scheduler.stations.members := by
  have listed := passed.aidList
  rw [if_pos refresh] at listed
  have runs := passed.runsTo_of_refreshed sound
  constructor
  · intro after id window survives found
    have unmoved := sound.find?_refreshed_of_not_plain (sound.not_plain_of_survivor survives)
    have same := runs.resting id
    rw [unmoved, found, Option.map_some] at same
    obtain ⟨current, present, resting⟩ := Option.map_eq_some_iff.mp same
    apply (WindowConfig.freshIn_of_resting resting _).mp
    refine after _ listed id current ?_ present
    rw [passed.active sound]
    exact List.mem_append_right _ survives
  · intro survivors aids current
    rw [listed] at current
    have same := Option.some.inj current
    subst same
    rw [passed.active sound]
    apply runs.freshOn
    intro id window member found
    rcases List.mem_append.mp member with inPlain | survives
    · exact sound.freshOn_refreshedRegistry refresh id window inPlain found
    · rw [sound.find?_refreshed_of_not_plain (sound.not_plain_of_survivor survives)] at found
      exact survivors id window survives found

/-- A pass leaves every slice fresh unless it strands a periodic window. -/
theorem slicesFresh_pass_iff (sound : scheduler.Sound) (fresh : scheduler.SlicesFresh) :
    scheduler.runPass.scheduler.SlicesFresh ↔ ¬ scheduler.StrandsPeriodic := by
  cases enabled : scheduler.enabled with
  | false =>
      have idle : ¬ scheduler.StrandsPeriodic := by
        intro strands
        rw [strands.enabled] at enabled
        cases enabled
      refine iff_of_true ?_ idle
      rw [runPass_disabled enabled]
      exact fresh
  | true =>
      obtain ⟨_, passed⟩ := sound.runPass_enabled enabled
      cases refresh : scheduler.pending.refreshAids with
      | false =>
          have idle : ¬ scheduler.StrandsPeriodic := by
            intro strands
            rw [strands.refresh] at refresh
            cases refresh
          refine iff_of_true ?_ idle
          intro aids listed
          obtain ⟨runs, kept⟩ := passed.runsTo_of_no_refresh sound refresh
          rw [kept] at listed
          apply (runs.freshOn (fresh aids listed)).of_subset
          intro id member
          exact runs.mem_active member
      | true =>
          rw [passed.slicesFresh_iff sound refresh]
          constructor
          · intro survivors strands
            rcases strands.stranded with ⟨id, window, survives, found, stale⟩
            exact stale (survivors id window survives found)
          · intro never id window survives found
            apply Classical.byContradiction
            intro stale
            exact never ⟨enabled, refresh, id, window, survives, found, stale⟩

/-! ### Histories -/

theorem plainSlicesFresh_after (sound : scheduler.Sound) (fresh : scheduler.PlainSlicesFresh)
    (operation : Operation) : (scheduler.after operation).PlainSlicesFresh := by
  by_cases pass : operation = .pass
  · subst pass
    exact plainSlicesFresh_pass sound fresh
  · exact plainSlicesFresh_reconfigured sound pass fresh

theorem slicesFresh_after_iff (sound : scheduler.Sound) (fresh : scheduler.SlicesFresh)
    (operation : Operation) :
    (scheduler.after operation).SlicesFresh ↔
      ¬ (operation = .pass ∧ scheduler.StrandsPeriodic) := by
  by_cases pass : operation = .pass
  · subst pass
    have step := slicesFresh_pass_iff sound fresh
    refine step.trans (not_congr ?_)
    exact (and_iff_right rfl).symm
  · apply iff_of_true (slicesFresh_reconfigured sound pass fresh)
    rintro ⟨same, _⟩
    exact pass same

theorem aidList_of_create {kind : InterfaceKind} {options : SchedulerOptions}
    (creation : create kind options = .ok scheduler) : scheduler.aidList = none :=
  (blank_of_create creation).aidList

/-- Plain windows never have the indices of an older list, and active windows do as soon as a pass
strands a spread periodic one, and not before. -/
theorem slices_fresh_iff_none_stranded {kind : InterfaceKind} {options : SchedulerOptions}
    (creation : create kind options = .ok scheduler) (history : List Operation) :
    Throughout PlainSlicesFresh scheduler history ∧
      (Throughout SlicesFresh scheduler history ↔
        AtNoStep (fun current operation => operation = .pass ∧ current.StrandsPeriodic)
          scheduler history) := by
  have sound := sound_of_create creation
  have unlisted := aidList_of_create creation
  constructor
  · have never : AtNoStep (fun _ _ => False) scheduler history :=
      fun _ _ _ _ impossible => impossible
    refine (throughout_iff_atNoStep ?_ sound ?_).mpr never
    · intro current operation currentSound fresh
      exact iff_of_true (plainSlicesFresh_after currentSound fresh operation) not_false
    · intro aids listed
      rw [unlisted] at listed
      cases listed
  · apply throughout_iff_atNoStep
    · intro current operation currentSound fresh
      exact slicesFresh_after_iff currentSound fresh operation
    · exact sound
    · intro aids listed
      rw [unlisted] at listed
      cases listed

/-- A spread periodic window is activated before the first list of its two stations is made. -/
def strandedHistory : List Operation :=
  [.associate 1, .associate 2,
    .command
      { id := 1
        flags := { enable := true, delete := false, update := true }
        fields := [.slots 4000 4 false, .group 1 2, .periodic 4 2 0 false, .spread 0 1] },
    .pass]

theorem slices_fresh_iff_on_strandedHistory :
    ∃ fresh, create .accessPoint { SchedulerOptions.standard with enabled := true } = .ok fresh ∧
      Throughout PlainSlicesFresh fresh strandedHistory ∧
      (Throughout SlicesFresh fresh strandedHistory ↔
        AtNoStep (fun current operation => operation = .pass ∧ current.StrandsPeriodic)
          fresh strandedHistory) := by
  have creation :
      create .accessPoint { SchedulerOptions.standard with enabled := true } = .ok _ := rfl
  exact ⟨_, creation, slices_fresh_iff_none_stranded creation strandedHistory⟩

private theorem not_slicesFresh_of_cached {aids : AidList} {id start stop : UInt16}
    {indices : IndexPair} (listed : scheduler.aidList = some aids)
    (member : id ∈ scheduler.registry.active)
    (cached : (scheduler.registry.find? id).map (fun window =>
      (window.usesSpreading, window.startAid, window.endAid, window.indices)) =
        some (true, start, stop, indices))
    (stale : indices ≠ aids.resolve start stop) : ¬ scheduler.SlicesFresh := by
  intro fresh
  obtain ⟨window, found, view⟩ := Option.map_eq_some_iff.mp cached
  simp only [Prod.mk.injEq] at view
  rcases view with ⟨spread, starts, ends, same⟩
  have current := fresh aids listed id window member found spread
  rw [starts, ends, same] at current
  exact stale current

/-- Its slice is not found in that list, although the list holds both stations. -/
theorem periodic_window_stranded :
    ∃ fresh, create .accessPoint { SchedulerOptions.standard with enabled := true } = .ok fresh ∧
      (fresh.afterAll strandedHistory).aidList = some ⟨[1, 2]⟩ ∧
      1 ∈ (fresh.afterAll strandedHistory).registry.active ∧
      ((fresh.afterAll strandedHistory).registry.find? 1).map (fun window =>
        (window.usesSpreading, window.startAid, window.endAid, window.indices)) =
          some (true, 1, 2, .unresolved) ∧
      ¬ (fresh.afterAll strandedHistory).SlicesFresh := by
  have creation :
      create .accessPoint { SchedulerOptions.standard with enabled := true } = .ok _ := rfl
  refine ⟨_, creation, ?listed, ?member, ?cached,
    not_slicesFresh_of_cached ?listed ?member ?cached (by decide)⟩
  case listed => decide +kernel
  case member => decide +kernel
  case cached => decide +kernel

end Scheduler

end RestrictedAccess
