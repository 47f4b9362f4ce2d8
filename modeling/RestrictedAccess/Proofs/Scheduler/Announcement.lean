/-
What the payload of a pass says. A receiver that decodes it finds the scheduled windows, plain ones
first and highest identifiers first, up to the capacity of the element, and for each of them its
slots, its start, the stations whose turn it is and the counters that the pass left.
-/

import Mathlib.Data.List.Forall2
import RestrictedAccess.Proofs.Scheduler.PassWindows

namespace RestrictedAccess

open Station

namespace Element

/-- Assignments stand in the order of the windows they are generated for. -/
theorem forall₂_announcements {relation : WindowId → Assignment → Prop} {registry : Registry}
    {selection : List WindowId} {aids : AidList}
    (each : ∀ id, id ∈ selection → ∃ window,
      registry.find? id = some window ∧ relation id (window.announced aids)) :
    List.Forall₂ relation selection (announcements registry aids selection) := by
  induction selection with
  | nil => exact List.Forall₂.nil
  | cons id rest ih =>
      rcases each id List.mem_cons_self with ⟨window, found, related⟩
      rw [announcements_cons found]
      apply List.Forall₂.cons related
      apply ih
      intro other member
      exact each other (List.mem_cons_of_mem id member)

/-- A payload of generated assignments is short enough to be written again. -/
theorem size_onAir_le (registry : Registry) (aids : AidList) (selection : List WindowId) :
    ParameterSet.size ⟨(announcements registry aids selection).map Assignment.onAir⟩ ≤
      10 * selection.length := by
  have total := totalSize_announcements_le registry aids selection
  rw [← ParameterSet.length_payloadOf, ← ParameterSet.payloadOf_onAir,
    ParameterSet.length_payloadOf] at total
  exact total

end Element

namespace Scheduler

variable {scheduler : Scheduler}

/-- The windows to announce. Periodic ones follow the plain ones, and are announced on their own
only while a beacon finds a burst going on. -/
def announcementOrder (scheduler : Scheduler) : List WindowId :=
  if scheduler.registry.plain.reverse ≠ [] ∨
      (scheduler.pending.beaconSent = true ∧ 0 < scheduler.restartedBurst) then
    scheduler.registry.plain.reverse ++ scheduler.survivors.reverse
  else scheduler.registry.plain.reverse

theorem mem_active_of_announced {id : WindowId} (member : id ∈ scheduler.announcementOrder) :
    id ∈ scheduler.registry.active := by
  unfold announcementOrder at member
  split at member
  · rcases List.mem_append.mp member with inPlain | survives
    · exact List.mem_append_left _ (List.mem_reverse.mp inPlain)
    · exact List.mem_append_right _
        (scheduler.survivors_subset (List.mem_reverse.mp survives))
  · exact List.mem_append_left _ (List.mem_reverse.mp member)

theorem Sound.scheduled_eq (sound : scheduler.Sound) :
    scheduler.scheduled = scheduler.announcementOrder := by
  unfold scheduled candidates announcementOrder burstAnnounces
  rw [sound.plain_passCount, sound.periodic_passCount, sound.burstInForce_eq]
  cases plain : scheduler.registry.plain with
  | nil =>
      by_cases announces : scheduler.pending.beaconSent = true ∧ 0 < scheduler.restartedBurst
      · simp [announces]
      · simp [announces]
  | cons head tail => simp

/-- What a receiver is told about one window by the pass between two schedulers. -/
structure Announces (earlier later : Scheduler) (id : WindowId) (assignment : Assignment)
    (window stored : WindowConfig) (range : AidRange) : Prop where
  found : earlier.passWindow? id = some window
  /-- The range of the window in the station list, which leaves the stored version. -/
  ranged : window.beaconRange later.aids = .ok (stored, range)
  left : later.registry.find? id = some stored
  kind : assignment.kind = .generic
  slot : assignment.slot = SlotDefinition.decode window.slot.encode
  startTime : assignment.startTime =
    if window.startTime = 0 then none else some (startTimeUnits window.startTime)
  group : assignment.group = some ⟨range.first % 2048, range.last % 2048⟩
  channel : assignment.channel = none
  periodic : assignment.periodic = stored.periodic.map (fun schedule =>
    ⟨schedule.periodicity, schedule.validityLeft, schedule.offsetLeft⟩)

theorem Passed.announces {later : Scheduler} (passed : Passed scheduler later)
    (sound : scheduler.Sound) {id : WindowId} (selected : id ∈ scheduler.selection) :
    ∃ window, scheduler.passCount.registry.find? id = some window ∧
      ∃ stored range, Announces scheduler later id (window.announced scheduler.passAids).onAir
        window stored range := by
  obtain ⟨window, found⟩ := sound.stored_of_selected selected
  have windowSound := sound.counted.windows id window found
  have resting := window.resting_advanced scheduler.passAids
  have current : scheduler.passWindow? id = some window := by
    rw [← sound.find?_passCount]
    exact found
  have slot : (window.advanced scheduler.passAids).slot = window.slot := by
    have slots := congrArg WindowConfig.slot resting
    exact slots
  have startTime : (window.advanced scheduler.passAids).startTime = window.startTime := by
    have starts := congrArg WindowConfig.startTime resting
    exact starts
  have kind : (window.advanced scheduler.passAids).kind = .generic := by
    have kinds := congrArg WindowConfig.kind resting
    exact Eq.trans kinds windowSound.generic
  refine ⟨window, found, window.advanced scheduler.passAids,
    (window.announcing scheduler.passAids).2, ?_⟩
  exact
    { found := current
      ranged := by
        rw [passed.aids]
        exact windowSound.beaconRange_eq sound.few_passAids
      left := by
        rw [passed.find?_eq sound, current, Option.map_some, if_pos selected]
      kind := kind
      slot := congrArg (fun definition : SlotDefinition => SlotDefinition.decode definition.encode)
        slot
      startTime := by
        unfold WindowConfig.announced Assignment.ofWindow Assignment.onAir
        simp only [startTime]
      group := congrArg some (AidRange.onAir_eq _)
      channel := rfl
      periodic := rfl }

theorem Passed.decoded {later : Scheduler} (passed : Passed scheduler later)
    (sound : scheduler.Sound) :
    ∃ set, ParameterSet.decode later.payload = .ok set ∧
      List.Forall₂ (fun id assignment => ∃ window stored range,
          Announces scheduler later id assignment window stored range)
        (scheduler.announcementOrder.take scheduler.options.maxAssignments) set.assignments := by
  have decoded := ParameterSet.decode_payloadOf
    (Element.announcements scheduler.passCount.registry scheduler.passAids scheduler.selection)
  rw [← passed.payload] at decoded
  refine ⟨_, decoded, ?_⟩
  rw [← sound.scheduled_eq, List.forall₂_map_right_iff]
  apply Element.forall₂_announcements
  intro id selected
  obtain ⟨window, found, stored, range, announces⟩ := passed.announces sound selected
  exact ⟨window, found, window, stored, range, announces⟩

structure ScheduleAnnounced (earlier later : Scheduler) (set : ParameterSet) : Prop where
  decoded : ParameterSet.decode later.payload = .ok set
  assignments : List.Forall₂
    (fun id assignment => ∃ window stored range,
      Announces earlier later id assignment window stored range)
    (earlier.announcementOrder.take earlier.options.maxAssignments) set.assignments
  dropped : later.stats.dropped = earlier.stats.dropped +
    (earlier.announcementOrder.drop earlier.options.maxAssignments).length
  /-- Writing what was read gives the payload back. -/
  encoded : set.encode = .ok later.payload
  plain : later.registry.plain = earlier.registry.plain
  periodic : later.registry.periodic = earlier.survivors
  plainDescending : earlier.registry.plain.reverse.Pairwise (fun first second => second < first)
  periodicDescending : earlier.survivors.reverse.Pairwise (fun first second => second < first)

/-- The payload of a pass tells a receiver exactly the scheduled windows. -/
theorem payload_announces_schedule (reachable : Reachable scheduler)
    (enabled : scheduler.enabled = true) :
    ∃ set, ScheduleAnnounced scheduler scheduler.runPass.scheduler set := by
  have sound := reachable.sound
  obtain ⟨_, passed⟩ := sound.runPass_enabled enabled
  have order := sound.scheduled_eq
  have decoded := ParameterSet.decode_payloadOf
    (Element.announcements scheduler.passCount.registry scheduler.passAids scheduler.selection)
  have short : scheduler.selection.length ≤ 131072 :=
    Nat.le_trans (List.length_take_le' _ _)
      (sound.counted.length_candidates_le scheduler.burstAnnounces)
  have size := Element.size_onAir_le scheduler.passCount.registry scheduler.passAids
    scheduler.selection
  have encoded := ParameterSet.encode_eq
    ⟨(Element.announcements scheduler.passCount.registry scheduler.passAids
      scheduler.selection).map Assignment.onAir⟩
    (Nat.le_trans size (by unfold Wire.maxAllocation; omega))
  rw [ParameterSet.payloadOf_onAir] at encoded
  rw [← passed.payload] at decoded encoded
  refine ⟨_,
    { decoded := decoded
      assignments := ?_
      dropped := ?_
      encoded := encoded
      plain := passed.plain sound
      periodic := passed.periodic sound
      plainDescending := List.pairwise_reverse.mpr sound.registry.plainAscending
      periodicDescending := ?_ }⟩
  · rw [← order, List.forall₂_map_right_iff]
    apply Element.forall₂_announcements
    intro id selected
    obtain ⟨window, found, stored, range, announces⟩ := passed.announces sound selected
    exact ⟨window, found, window, stored, range, announces⟩
  · rw [← order]
    exact passed.dropped
  · rw [← passed.periodic sound]
    exact List.pairwise_reverse.mpr sound.runPass.registry.periodicAscending

/-- Two plain windows, one of them with a start time, and a spread periodic one, of which an
element with room for two assignments has to leave one out. -/
def crowdedHistory : List Operation :=
  [.associate 1, .associate 2, .pass,
    .command
      { id := 1
        flags := { enable := true, delete := false, update := true }
        fields := [.slots 4000 4 false, .group 1 2, .periodic 4 2 0 false, .spread 0 1] },
    .command
      { id := 3
        flags := { enable := true, delete := false, update := true }
        fields := [.slots 90000 2 true, .group 1 2, .startTime 5000] },
    .command
      { id := 5
        flags := { enable := true, delete := false, update := true }
        fields := [.slots 4000 4 false, .group 1 2, .spread 0 1] },
    .beaconSent]

theorem payload_announces_schedule_crowded :
    ∃ fresh, create .accessPoint
        { SchedulerOptions.standard with enabled := true, maxAssignments := 2 } = .ok fresh ∧
      Reachable (fresh.afterAll crowdedHistory) ∧
      (fresh.afterAll crowdedHistory).enabled = true ∧
      (fresh.afterAll crowdedHistory).announcementOrder = [5, 3, 1] ∧
      ∃ set, ScheduleAnnounced (fresh.afterAll crowdedHistory)
        (fresh.afterAll crowdedHistory).runPass.scheduler set := by
  have creation : create .accessPoint
      { SchedulerOptions.standard with enabled := true, maxAssignments := 2 } = .ok _ := rfl
  have reachable := (Reachable.created creation).afterAll crowdedHistory
  refine ⟨_, creation, reachable, ?_, ?_, payload_announces_schedule reachable ?_⟩
  · decide +kernel
  · decide +kernel
  · decide +kernel

end Scheduler

end RestrictedAccess
