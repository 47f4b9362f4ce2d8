/-
The effect of one pass of an enabled scheduler, as a whole. The stages of the pass are given as
functions of the scheduler it starts from, and on a sound scheduler the pass succeeds and leaves
exactly what the stages say.
-/

import RestrictedAccess.Proofs.Element.Build
import RestrictedAccess.Proofs.Station.Members
import RestrictedAccess.Scheduler.Operation

namespace RestrictedAccess

open Station

namespace Registry

/-! ### Candidates -/

private theorem length_add_le_of_ascending {ids : List WindowId}
    (ascending : ids.Pairwise (fun earlier later => earlier < later)) {first : Nat}
    (bound : first ≤ 65536) (above : ∀ id, id ∈ ids → first ≤ id.toNat) :
    ids.length + first ≤ 65536 := by
  induction ids generalizing first with
  | nil =>
      rw [List.length_nil, Nat.zero_add]
      exact bound
  | cons head tail ih =>
      rcases List.pairwise_cons.mp ascending with ⟨aboveHead, tailAscending⟩
      have least := above head List.mem_cons_self
      have room : head.toNat + 1 ≤ 65536 := head.toNat_lt
      have rest := ih tailAscending room
        (fun id member => UInt16.lt_iff_toNat_lt.mp (aboveHead id member))
      rw [List.length_cons]
      omega

theorem length_le_of_ascending {ids : List WindowId}
    (ascending : ids.Pairwise (fun earlier later => earlier < later)) : ids.length ≤ 65536 :=
  length_add_le_of_ascending ascending (Nat.zero_le _) (fun _ _ => Nat.zero_le _)

variable {registry : Registry}

theorem mem_active_of_candidate {includePeriodic : Bool} {id : WindowId}
    (member : id ∈ Scheduler.candidates registry includePeriodic) : id ∈ registry.active := by
  unfold Scheduler.candidates at member
  unfold active
  rcases List.mem_append.mp member with inPlain | inPeriodic
  · exact List.mem_append_left _ (List.mem_reverse.mp inPlain)
  · split at inPeriodic
    · exact List.mem_append_right _ (List.mem_reverse.mp inPeriodic)
    · cases inPeriodic

theorem Sound.stored_of_active (sound : registry.Sound) {id : WindowId}
    (member : id ∈ registry.active) : ∃ window, registry.find? id = some window := by
  rcases List.mem_append.mp member with inPlain | inPeriodic
  · obtain ⟨window, found, _⟩ := sound.plainStored id inPlain
    exact ⟨window, found⟩
  · obtain ⟨window, found, _⟩ := sound.periodicStored id inPeriodic
    exact ⟨window, found⟩

theorem Sound.nodup_candidates (sound : registry.Sound) (includePeriodic : Bool) :
    (Scheduler.candidates registry includePeriodic).Nodup := by
  have plain : registry.plain.reverse.Nodup :=
    List.pairwise_reverse.mpr
      ((nodup_of_ascending sound.plainAscending).imp (fun different same => different same.symm))
  have periodic : registry.periodic.reverse.Nodup :=
    List.pairwise_reverse.mpr
      ((nodup_of_ascending sound.periodicAscending).imp (fun different same => different same.symm))
  unfold Scheduler.candidates
  refine List.pairwise_append.mpr ⟨plain, ?_, ?_⟩
  · split
    · exact periodic
    · exact List.Pairwise.nil
  · intro id inPlain other inPeriodic same
    subst same
    split at inPeriodic
    · exact sound.not_periodic_of_plain (List.mem_reverse.mp inPlain)
        (List.mem_reverse.mp inPeriodic)
    · cases inPeriodic

theorem Sound.length_candidates_le (sound : registry.Sound) (includePeriodic : Bool) :
    (Scheduler.candidates registry includePeriodic).length ≤ 131072 := by
  have plain := length_le_of_ascending sound.plainAscending
  have periodic := length_le_of_ascending sound.periodicAscending
  unfold Scheduler.candidates
  rw [List.length_append, List.length_reverse]
  split
  · rw [List.length_reverse]
    omega
  · rw [List.length_nil]
    omega

end Registry

namespace Scheduler

structure Sound (scheduler : Scheduler) : Prop where
  registry : scheduler.registry.Sound
  stations : scheduler.stations.Sound
  few : scheduler.aids.size ≤ maxAid + 1

/-! ### The stages of a pass -/

def passAids (scheduler : Scheduler) : AidList :=
  if scheduler.pending.refreshAids then scheduler.stations.members else scheduler.aids

def refreshedRegistry (scheduler : Scheduler) : Registry :=
  if scheduler.pending.refreshAids then
    scheduler.registry.modifyAll scheduler.registry.plain
      (fun window => window.resolveIndices scheduler.stations.members)
  else scheduler.registry

def passCount (scheduler : Scheduler) : Registry.BeaconCount :=
  if scheduler.pending.beaconSent then scheduler.refreshedRegistry.countBeacon
  else ⟨scheduler.refreshedRegistry, [], false⟩

/-- The burst counter before the beacon is taken off it. A fresh list and a schedule that starts
over begin a new burst. -/
def burstInForce (scheduler : Scheduler) : UInt16 :=
  if scheduler.pending.refreshAids || scheduler.passCount.anyRefreshed then scheduler.fullBurst
  else scheduler.burst

def burstAnnounces (scheduler : Scheduler) : Bool :=
  scheduler.pending.beaconSent && decide (0 < scheduler.burstInForce)

def scheduled (scheduler : Scheduler) : List WindowId :=
  candidates scheduler.passCount.registry scheduler.burstAnnounces

def selection (scheduler : Scheduler) : List WindowId :=
  scheduler.scheduled.take scheduler.options.maxAssignments

def prepared (scheduler : Scheduler) : Scheduler :=
  { scheduler with
    registry := scheduler.passCount.registry
    aidList :=
      if scheduler.pending.refreshAids then some scheduler.stations.members
      else scheduler.aidList
    burst :=
      if scheduler.burstAnnounces then scheduler.burstInForce - 1 else scheduler.burstInForce
    pending := .none
    everyBeacon :=
      !scheduler.passCount.registry.periodic.isEmpty ||
        scheduler.passCount.registry.anyPlainSpreading
    stats :=
      if scheduler.pending.beaconSent then
        { scheduler.stats with
          beacons := scheduler.stats.beacons + 1
          expired := scheduler.stats.expired + scheduler.passCount.expired.length }
      else scheduler.stats }

structure Passed (earlier later : Scheduler) : Prop where
  registry : later.registry =
    earlier.passCount.registry.modifyAll earlier.selection
      (WindowConfig.advanced earlier.passAids)
  stations : later.stations = earlier.stations
  aidList : later.aidList =
    if earlier.pending.refreshAids then some earlier.stations.members else earlier.aidList
  payload : later.payload =
    ParameterSet.payloadOf
      (Element.announcements earlier.passCount.registry earlier.passAids earlier.selection)
  burst : later.burst =
    if earlier.burstAnnounces then earlier.burstInForce - 1 else earlier.burstInForce
  dropped : later.stats.dropped =
    earlier.stats.dropped + (earlier.scheduled.drop earlier.options.maxAssignments).length

variable {scheduler : Scheduler}

theorem Sound.few_passAids (sound : scheduler.Sound) : scheduler.passAids.size < 65536 := by
  have limit : maxAid + 1 < 65536 := by decide
  unfold passAids
  split
  · exact Nat.lt_of_le_of_lt scheduler.stations.size_members_le limit
  · exact Nat.lt_of_le_of_lt sound.few limit

theorem Sound.refreshed (sound : scheduler.Sound) :
    scheduler.refreshedRegistry.Sound := by
  unfold refreshedRegistry
  split
  · exact sound.registry.modifyAll (Registry.nodup_of_ascending sound.registry.plainAscending)
      (WindowConfig.id_resolveIndices _) (WindowConfig.isPeriodic_resolveIndices _)
      (fun _ windowSound => windowSound.resolveIndices _)
  · exact sound.registry

theorem Sound.runsTo_passCount (sound : scheduler.Sound) :
    Registry.RunsTo scheduler.refreshedRegistry scheduler.passCount.registry := by
  unfold passCount
  split
  · exact sound.refreshed.runsTo_countBeacon
  · exact Registry.RunsTo.refl _

theorem Sound.counted (sound : scheduler.Sound) : scheduler.passCount.registry.Sound :=
  sound.runsTo_passCount.sound sound.refreshed

theorem Sound.nodup_selection (sound : scheduler.Sound) : scheduler.selection.Nodup :=
  (sound.counted.nodup_candidates scheduler.burstAnnounces).sublist (List.take_sublist _ _)

theorem Sound.stored_of_selected (sound : scheduler.Sound) {id : WindowId}
    (member : id ∈ scheduler.selection) :
    ∃ window, scheduler.passCount.registry.find? id = some window :=
  sound.counted.stored_of_active (Registry.mem_active_of_candidate (List.mem_of_mem_take member))

theorem Sound.build_selection (sound : scheduler.Sound) :
    Element.build scheduler.passCount.registry scheduler.selection scheduler.passAids =
      (scheduler.passCount.registry.modifyAll scheduler.selection
          (WindowConfig.advanced scheduler.passAids),
        .ok (ParameterSet.payloadOf (Element.announcements scheduler.passCount.registry
          scheduler.passAids scheduler.selection))) := by
  refine Element.build_eq sound.counted sound.nodup_selection
    (fun _ member => sound.stored_of_selected member) sound.few_passAids ?_
  exact Nat.le_trans (List.length_take_le' _ _)
    (sound.counted.length_candidates_le scheduler.burstAnnounces)

/-! ### The pass -/

theorem runPass_disabled (disabled : scheduler.enabled = false) :
    scheduler.runPass = ⟨scheduler.disabledPass, .ok (), []⟩ := by
  unfold runPass
  rw [disabled]
  rfl

theorem aids_prepared (scheduler : Scheduler) : scheduler.prepared.aids = scheduler.passAids := by
  unfold prepared aids passAids
  split <;> rfl

private def refreshConsumed (scheduler : Scheduler) : Scheduler :=
  { scheduler with
    registry := scheduler.refreshedRegistry
    aidList :=
      if scheduler.pending.refreshAids then some scheduler.stations.members
      else scheduler.aidList
    burst := if scheduler.pending.refreshAids then scheduler.fullBurst else scheduler.burst }

private theorem consumeRefresh_eq (sound : scheduler.Sound) :
    scheduler.consumeRefresh = .ok scheduler.refreshConsumed := by
  unfold consumeRefresh refreshConsumed refreshedRegistry
  cases wished : scheduler.pending.refreshAids with
  | false => rfl
  | true =>
      unfold refreshAids
      rw [sound.stations.ofBitmap]
      rfl

/-- A burst that a schedule starts over replaces the one a fresh list began. -/
private theorem burst_refreshConsumed (scheduler : Scheduler) (startsOver : Bool) :
    (if startsOver then scheduler.refreshConsumed.fullBurst
      else scheduler.refreshConsumed.burst) =
      if scheduler.pending.refreshAids || startsOver then scheduler.fullBurst
      else scheduler.burst := by
  unfold refreshConsumed
  cases startsOver <;> cases scheduler.pending.refreshAids <;> rfl

theorem Sound.enabledPass_eq (sound : scheduler.Sound) :
    scheduler.enabledPass = scheduler.prepared.generate scheduler.burstAnnounces := by
  unfold enabledPass
  rw [consumeRefresh_eq sound]
  unfold consumeBeacon prepared burstAnnounces burstInForce passCount
  cases sent : scheduler.pending.beaconSent with
  | false =>
      have pending : scheduler.refreshConsumed.pending.beaconSent = false := sent
      simp only [pending, Bool.false_and, Bool.false_eq_true, if_false, Bool.or_false]
      rfl
  | true =>
      have pending : scheduler.refreshConsumed.pending.beaconSent = true := sent
      simp only [pending, if_true, Bool.true_and, burst_refreshConsumed, decide_eq_true_eq]
      rfl

/-- A pass of an enabled scheduler succeeds and does what its stages say. -/
theorem Sound.runPass_enabled (sound : scheduler.Sound) (enabled : scheduler.enabled = true) :
    scheduler.runPass.answer = .ok () ∧ Passed scheduler scheduler.runPass.scheduler := by
  have built : Element.build scheduler.prepared.registry
      ((candidates scheduler.prepared.registry scheduler.burstAnnounces).take
        scheduler.prepared.options.maxAssignments) scheduler.prepared.aids =
      (scheduler.passCount.registry.modifyAll scheduler.selection
          (WindowConfig.advanced scheduler.passAids),
        .ok (ParameterSet.payloadOf (Element.announcements scheduler.passCount.registry
          scheduler.passAids scheduler.selection))) := by
    rw [aids_prepared]
    exact sound.build_selection
  have dropped : scheduler.prepared.stats.dropped = scheduler.stats.dropped := by
    unfold prepared
    simp only
    split <;> rfl
  unfold runPass
  rw [if_pos enabled, sound.enabledPass_eq]
  unfold generate
  simp only [built]
  refine ⟨trivial, ?_⟩
  exact
    { registry := rfl
      stations := rfl
      aidList := rfl
      payload := rfl
      burst := rfl
      dropped := congrArg (fun before => before + _) dropped }

end Scheduler

end RestrictedAccess
