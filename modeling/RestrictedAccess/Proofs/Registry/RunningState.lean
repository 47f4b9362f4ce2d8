/-
The running state of the stored windows: the counters of their schedules and the last station of
their spreading. A window at rest has this state cleared, and operations that only touch running
state are those that keep every window at rest as it is. Counting a beacon and realigning the
schedules are of this kind, and counting is described schedule by schedule.
-/

import RestrictedAccess.Proofs.Registry.SingleWindow

namespace RestrictedAccess

namespace PeriodicSchedule

theorem reset_advance (schedule : PeriodicSchedule) :
    schedule.advance.1.reset = schedule.reset := by
  unfold advance
  simp only
  split
  · rfl
  · generalize (if schedule.validityLeft = 0 then 0 else schedule.validityLeft - 1) = left
    split
    · rfl
    · rfl

end PeriodicSchedule

namespace WindowConfig

def resting (window : WindowConfig) : WindowConfig :=
  { window with
    periodic := window.periodic.map PeriodicSchedule.reset
    spreading := window.spreading.map (fun spreading => { spreading with lastAid := 0 }) }

def counted (window : WindowConfig) : WindowConfig :=
  { window with periodic := window.periodic.map (fun schedule => schedule.advance.1) }

def countdownEvent? (window : WindowConfig) : Option CountdownEvent :=
  window.periodic.map (fun schedule => schedule.advance.2)

def realigned (window : WindowConfig) : WindowConfig :=
  { window with
    periodic := window.periodic.map (fun schedule =>
      { schedule with offsetLeft := schedule.startOffset }) }

/-! ### What the window at rest decides -/

theorem resting_counted (window : WindowConfig) : window.counted.resting = window.resting := by
  have cleared : (PeriodicSchedule.reset ∘ fun schedule => schedule.advance.1) =
      PeriodicSchedule.reset := funext PeriodicSchedule.reset_advance
  simp only [resting, counted, Option.map_map, cleared]

theorem resting_realigned (window : WindowConfig) :
    window.realigned.resting = window.resting := by
  simp only [resting, realigned, Option.map_map]
  rfl

section AtRest

variable {earlier later : WindowConfig}

theorem id_of_resting (same : later.resting = earlier.resting) : later.id = earlier.id := by
  have ids := congrArg WindowConfig.id same
  exact ids

theorem indices_of_resting (same : later.resting = earlier.resting) :
    later.indices = earlier.indices := by
  have indices := congrArg WindowConfig.indices same
  exact indices

theorem isPeriodic_resting (window : WindowConfig) :
    window.resting.isPeriodic = window.isPeriodic := by
  unfold isPeriodic resting
  exact Option.isSome_map

theorem isPeriodic_of_resting (same : later.resting = earlier.resting) :
    later.isPeriodic = earlier.isPeriodic := by
  rw [← isPeriodic_resting, same, isPeriodic_resting]

theorem usesSpreading_resting (window : WindowConfig) :
    window.resting.usesSpreading = window.usesSpreading := by
  unfold usesSpreading resting
  cases window.spreading <;> rfl

theorem usesSpreading_of_resting (same : later.resting = earlier.resting) :
    later.usesSpreading = earlier.usesSpreading := by
  rw [← usesSpreading_resting, same, usesSpreading_resting]

theorem isValid_resting (window : WindowConfig) : window.resting.isValid = window.isValid := by
  unfold isValid resting
  cases window.periodic <;> rfl

theorem Sound.of_resting (sound : earlier.Sound) (same : later.resting = earlier.resting) :
    later.Sound := by
  have kinds := congrArg WindowConfig.kind same
  have schedules := congrArg (fun window => window.periodic) same
  have spreadings := congrArg (fun window => window.spreading) same
  refine
    { generic := kinds.trans sound.generic
      ordered := by rw [indices_of_resting same]; exact sound.ordered
      internal := ?_ }
  intro reserved
  rw [id_of_resting same] at reserved
  obtain ⟨unscheduled, unspread⟩ := sound.internal reserved
  simp only [resting, unscheduled, unspread, Option.map_none, Option.map_eq_none_iff] at schedules
  simp only [resting, unspread, Option.map_none, Option.map_eq_none_iff] at spreadings
  exact ⟨schedules, spreadings⟩

end AtRest

end WindowConfig

namespace Registry

/-- A later registry that differs from an earlier one in running state and in schedules that
lapsed, but in nothing else. -/
structure RunsTo (earlier later : Registry) : Prop where
  plain : later.plain = earlier.plain
  periodic : later.periodic.Sublist earlier.periodic
  resting : ∀ id, (later.find? id).map WindowConfig.resting =
    (earlier.find? id).map WindowConfig.resting

theorem RunsTo.refl (registry : Registry) : RunsTo registry registry :=
  { plain := rfl
    periodic := List.Sublist.refl _
    resting := fun _ => rfl }

theorem RunsTo.trans {first second third : Registry} (before : RunsTo first second)
    (after : RunsTo second third) : RunsTo first third :=
  { plain := after.plain.trans before.plain
    periodic := after.periodic.trans before.periodic
    resting := fun id => (after.resting id).trans (before.resting id) }

theorem RunsTo.found {earlier later : Registry} (runs : RunsTo earlier later) {id : WindowId}
    {window : WindowConfig} (found : later.find? id = some window) :
    ∃ previous, earlier.find? id = some previous ∧ window.resting = previous.resting := by
  have same := runs.resting id
  rw [found, Option.map_some] at same
  obtain ⟨previous, foundPrevious, resting⟩ := Option.map_eq_some_iff.mp same.symm
  exact ⟨previous, foundPrevious, resting.symm⟩

theorem RunsTo.find?_eq_none {earlier later : Registry} (runs : RunsTo earlier later)
    {id : WindowId} (absent : earlier.find? id = none) : later.find? id = none := by
  have resting := runs.resting id
  rw [absent, Option.map_none] at resting
  exact Option.map_eq_none_iff.mp resting

theorem RunsTo.mem_active {earlier later : Registry} (runs : RunsTo earlier later)
    {id : WindowId} (member : id ∈ later.active) : id ∈ earlier.active := by
  unfold active at member ⊢
  rw [List.mem_append, runs.plain] at member
  exact List.mem_append.mpr (member.imp_right (fun present => runs.periodic.subset present))

theorem RunsTo.sound {earlier later : Registry} (runs : RunsTo earlier later)
    (sound : earlier.Sound) : later.Sound := by
  apply sound.of_find? runs.plain runs.periodic
  · intro id window found
    obtain ⟨previous, foundPrevious, resting⟩ := runs.found found
    exact ⟨previous, foundPrevious, WindowConfig.id_of_resting resting,
      WindowConfig.isPeriodic_of_resting resting,
      (sound.windows id previous foundPrevious).of_resting resting⟩
  · intro id stored
    have same := congrArg Option.isSome (runs.resting id)
    rw [Option.isSome_map, Option.isSome_map] at same
    exact same.trans stored

theorem runsTo_modifyAll (registry : Registry) {ids : List WindowId} (distinct : ids.Nodup)
    {change : WindowConfig → WindowConfig}
    (keeps : ∀ window, (change window).resting = window.resting) :
    RunsTo registry (registry.modifyAll ids change) := by
  refine
    { plain := plain_modifyAll registry ids change
      periodic := periodic_modifyAll registry ids change ▸ List.Sublist.refl _
      resting := ?_ }
  intro id
  rw [find?_modifyAll registry distinct change]
  split
  · rw [Option.map_map]
    exact congrArg (fun view => (registry.find? id).map view) (funext keeps)
  · rfl

theorem Sound.runsTo_realign {registry : Registry} (sound : registry.Sound) :
    RunsTo registry registry.realign :=
  registry.runsTo_modifyAll (nodup_of_ascending sound.periodicAscending)
    WindowConfig.resting_realigned

theorem active_realign (registry : Registry) : registry.realign.active = registry.active := by
  have plain : registry.realign.plain = registry.plain := plain_modifyAll registry _ _
  have periodic : registry.realign.periodic = registry.periodic := periodic_modifyAll registry _ _
  unfold active
  rw [plain, periodic]

/-! ### Counting a beacon -/

def countdownEvent? (registry : Registry) (id : WindowId) : Option CountdownEvent :=
  (registry.find? id).bind WindowConfig.countdownEvent?

def lapses (registry : Registry) (id : WindowId) : Bool :=
  registry.countdownEvent? id = some .expired

def startsOver (registry : Registry) (id : WindowId) : Bool :=
  registry.countdownEvent? id = some .refreshed

structure CountedFor (ids : List WindowId) (before after : BeaconCount) : Prop where
  found : ∀ id, after.registry.find? id =
    if id ∈ ids then (before.registry.find? id).map WindowConfig.counted
    else before.registry.find? id
  plain : after.registry.plain = before.registry.plain
  periodic : after.registry.periodic =
    before.registry.periodic.filter (fun id => !(decide (id ∈ ids) && before.registry.lapses id))
  expired : after.expired = before.expired ++ ids.filter before.registry.lapses
  refreshed : after.anyRefreshed =
    (before.anyRefreshed || ids.any before.registry.startsOver)

theorem countedFor_nil (count : BeaconCount) : CountedFor [] count count := by
  refine { found := ?_, plain := rfl, periodic := ?_, expired := ?_, refreshed := ?_ }
  · intro id
    rw [if_neg List.not_mem_nil]
  · refine (List.filter_eq_self.mpr ?_).symm
    intro id _member
    rfl
  · exact (List.append_nil _).symm
  · exact (Bool.or_false _).symm

private theorem countBeaconFor_eq {count : BeaconCount} {id : WindowId} {window : WindowConfig}
    (found : count.registry.find? id = some window) (scheduled : window.isPeriodic = true) :
    countBeaconFor count id =
      { registry :=
          if count.registry.lapses id then (count.registry.put id window.counted).deactivate id
          else count.registry.put id window.counted
        expired := count.expired ++ [id].filter count.registry.lapses
        anyRefreshed := count.anyRefreshed || count.registry.startsOver id } := by
  obtain ⟨schedule, present⟩ := Option.isSome_iff_exists.mp scheduled
  have event : count.registry.countdownEvent? id = some schedule.advance.2 := by
    simp only [countdownEvent?, found, Option.bind_some, WindowConfig.countdownEvent?, present,
      Option.map_some]
  have advanced : { window with periodic := some schedule.advance.1 } = window.counted := by
    simp only [WindowConfig.counted, present, Option.map_some]
  unfold countBeaconFor
  simp only [found, present, advanced, lapses, startsOver, event, Option.some.injEq,
    List.filter_cons, List.filter_nil]
  cases schedule.advance.2 <;> simp

/-- One window at a time. The window must not be plain, or it would be taken off the wrong list. -/
theorem countedFor_single {count : BeaconCount} {id : WindowId} {window : WindowConfig}
    (found : count.registry.find? id = some window) (scheduled : window.isPeriodic = true)
    (notPlain : id ∉ count.registry.plain) :
    CountedFor [id] count (countBeaconFor count id) := by
  have stored (other : WindowId) : (count.registry.put id window.counted).find? other =
      if other ∈ [id] then (count.registry.find? other).map WindowConfig.counted
      else count.registry.find? other := by
    rw [find?_put]
    by_cases same : other = id
    · rw [if_pos same.symm, if_pos (List.mem_singleton.mpr same), same, found, Option.map_some]
    · rw [if_neg (Ne.symm same), if_neg (fun member => same (List.mem_singleton.mp member))]
  rw [countBeaconFor_eq found scheduled]
  cases ends : count.registry.lapses id with
  | false =>
      refine { found := stored, plain := rfl, periodic := ?_, expired := rfl, refreshed := ?_ }
      · refine (List.filter_eq_self.mpr ?_).symm
        intro other _member
        by_cases same : other = id
        · simp [same, ends]
        · simp [same]
      · simp
  | true =>
      have unlisted : id ∉ (count.registry.put id window.counted).plain := notPlain
      refine { found := ?_, plain := ?_, periodic := ?_, expired := rfl, refreshed := ?_ }
      · intro other
        rw [← stored other]
        exact find?_deactivate _ id other
      · simp only [if_true, deactivate, if_neg unlisted]
        rfl
      · simp only [if_true, deactivate, if_neg unlisted, periodic_put]
        apply List.filter_congr
        intro other _member
        by_cases same : other = id
        · simp [same, ends]
        · simp [same]
      · simp

theorem CountedFor.cons {id : WindowId} {rest : List WindowId}
    {first second third : BeaconCount} (one : CountedFor [id] first second)
    (others : CountedFor rest second third) (absent : id ∉ rest) :
    CountedFor (id :: rest) first third := by
  have event (other : WindowId) (different : other ≠ id) :
      second.registry.countdownEvent? other = first.registry.countdownEvent? other := by
    unfold countdownEvent?
    rw [one.found other, if_neg (fun member => different (List.mem_singleton.mp member))]
  have ends (other : WindowId) (different : other ≠ id) :
      second.registry.lapses other = first.registry.lapses other := by
    unfold lapses
    rw [event other different]
  have begins (other : WindowId) (different : other ≠ id) :
      second.registry.startsOver other = first.registry.startsOver other := by
    unfold startsOver
    rw [event other different]
  have apart (other : WindowId) (member : other ∈ rest) : other ≠ id :=
    fun same => absent (same ▸ member)
  refine
    { found := ?_
      plain := others.plain.trans one.plain
      periodic := ?_
      expired := ?_
      refreshed := ?_ }
  · intro other
    rw [others.found other, one.found other]
    by_cases same : other = id
    · simp [same, absent]
    · simp [same]
  · rw [others.periodic, one.periodic, List.filter_filter]
    apply List.filter_congr
    intro other _member
    by_cases same : other = id
    · simp [same, absent]
    · simp [same, ends other same]
  · rw [others.expired, one.expired, List.append_assoc]
    congr 1
    rw [List.filter_cons, List.filter_nil, List.filter_cons]
    have same : rest.filter second.registry.lapses = rest.filter first.registry.lapses :=
      List.filter_congr (fun other member => ends other (apart other member))
    rw [same]
    split <;> rfl
  · rw [others.refreshed, one.refreshed, List.any_cons, List.any_nil, List.any_cons]
    have same : rest.any second.registry.startsOver = rest.any first.registry.startsOver := by
      rw [Bool.eq_iff_iff, List.any_eq_true, List.any_eq_true]
      constructor
      · rintro ⟨other, member, restarts⟩
        exact ⟨other, member, begins other (apart other member) ▸ restarts⟩
      · rintro ⟨other, member, restarts⟩
        exact ⟨other, member, (begins other (apart other member)).symm ▸ restarts⟩
    rw [same, Bool.or_false, Bool.or_assoc]

private theorem countedFor_foldl {ids : List WindowId} (distinct : ids.Nodup)
    (count : BeaconCount)
    (stored : ∀ id, id ∈ ids →
      ∃ window, count.registry.find? id = some window ∧ window.isPeriodic = true)
    (notPlain : ∀ id, id ∈ ids → id ∉ count.registry.plain) :
    CountedFor ids count (ids.foldl countBeaconFor count) := by
  induction ids generalizing count with
  | nil => exact countedFor_nil count
  | cons id rest ih =>
      rcases List.nodup_cons.mp distinct with ⟨absent, restDistinct⟩
      obtain ⟨window, found, scheduled⟩ := stored id List.mem_cons_self
      have one := countedFor_single found scheduled (notPlain id List.mem_cons_self)
      refine one.cons (ih restDistinct (countBeaconFor count id) ?_ ?_) absent
      · intro other member
        have different : other ∉ [id] :=
          fun same => absent (List.mem_singleton.mp same ▸ member)
        rw [one.found other, if_neg different]
        exact stored other (List.mem_cons_of_mem id member)
      · intro other member
        rw [one.plain]
        exact notPlain other (List.mem_cons_of_mem id member)

/-- A beacon is counted once for each active schedule, and those that lapse leave the list. -/
theorem Sound.countedFor {registry : Registry} (sound : registry.Sound) :
    CountedFor registry.periodic ⟨registry, [], false⟩ registry.countBeacon :=
  countedFor_foldl (nodup_of_ascending sound.periodicAscending) _ sound.periodicStored
    (fun _ inPeriodic inPlain => sound.not_periodic_of_plain inPlain inPeriodic)

theorem Sound.runsTo_countBeacon {registry : Registry} (sound : registry.Sound) :
    RunsTo registry registry.countBeacon.registry := by
  have counted := sound.countedFor
  refine { plain := counted.plain, periodic := ?_, resting := ?_ }
  · rw [counted.periodic]
    exact List.filter_sublist
  · intro id
    rw [counted.found id]
    split
    · rw [Option.map_map]
      exact congrArg (fun view => (registry.find? id).map view)
        (funext WindowConfig.resting_counted)
    · rfl

end Registry

end RestrictedAccess
