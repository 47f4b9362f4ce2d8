/-
Passes cannot fail. On every scheduler that a history leads to a pass succeeds, each step of the
computation of a range has an answer, also for indices of an older list of stations, and the burst
counter is only taken down from a value above zero.
-/

import RestrictedAccess.Proofs.Scheduler.Reachability
import RestrictedAccess.Proofs.Window.CheckedRange

namespace RestrictedAccess.Scheduler

open Station

variable {scheduler : Scheduler}

def RangeAnswered (window : WindowConfig) (aids : AidList) : Prop :=
  ∃ answer, window.checkedRange? aids = some answer ∧ window.beaconRange aids = .ok answer

theorem Sound.runPass_answer (sound : scheduler.Sound) : scheduler.runPass.answer = .ok () := by
  cases enabled : scheduler.enabled with
  | false => rw [runPass_disabled enabled]
  | true => exact (sound.runPass_enabled enabled).1

theorem burst_of_announces (announces : scheduler.burstAnnounces = true) :
    scheduler.prepared.burst.toNat + 1 = scheduler.burstInForce.toNat := by
  have left : scheduler.prepared.burst = scheduler.burstInForce - 1 := if_pos announces
  have positive : 0 < scheduler.burstInForce :=
    of_decide_eq_true (Bool.and_eq_true_iff.mp announces).2
  have least : (1 : UInt16) ≤ scheduler.burstInForce := by
    rw [UInt16.le_iff_toNat_le]
    exact UInt16.lt_iff_toNat_lt.mp positive
  rw [left, UInt16.toNat_sub_of_le _ _ least]
  exact Nat.sub_add_cancel (UInt16.le_iff_toNat_le.mp least)

structure PassTotal (scheduler : Scheduler) : Prop where
  answer : scheduler.runPass.answer = .ok ()
  /-- The count of the stations is the count the list announces. -/
  stations : AidList.ofBitmap scheduler.stations = .ok scheduler.stations.members
  /-- Selected windows are stored, of a supported kind, and have a range to announce. -/
  selected : ∀ id, id ∈ scheduler.selection → ∃ window,
    scheduler.prepared.registry.find? id = some window ∧ window.kind.isSupported = true ∧
      RangeAnswered window scheduler.prepared.aids
  /-- The element has room for what is written and is full afterwards. -/
  written : ∃ payload, (Element.build scheduler.prepared.registry scheduler.selection
    scheduler.prepared.aids).2 = .ok payload
  /-- Indices of any age can be used with any list. -/
  ranges : ∀ id window aids, scheduler.registry.find? id = some window → aids.size < 65536 →
    RangeAnswered window aids
  burst : scheduler.burstAnnounces = true →
    scheduler.prepared.burst.toNat + 1 = scheduler.burstInForce.toNat

theorem pass_total_of_reachable (reachable : Reachable scheduler) : scheduler.PassTotal := by
  have sound := reachable.sound
  refine
    { answer := sound.runPass_answer
      stations := sound.stations.ofBitmap
      selected := ?_
      written := ?_
      ranges := ?_
      burst := burst_of_announces }
  · intro id member
    obtain ⟨window, found⟩ := sound.stored_of_selected member
    have windowSound := sound.counted.windows id window found
    refine ⟨window, found, ?_, windowSound.checkedRange?_eq ?_⟩
    · rw [windowSound.generic]
      rfl
    · rw [aids_prepared]
      exact sound.few_passAids
  · rw [aids_prepared]
    exact ⟨_, congrArg Prod.snd sound.build_selection⟩
  · intro id window aids found few
    exact (sound.registry.windows id window found).checkedRange?_eq few

/-- A periodic window is spread over two stations and one of them leaves, so that its indices
reach past the list of the next pass. -/
def staleHistory : List Operation :=
  [.associate 1, .associate 2, .pass,
    .command
      { id := 1
        flags := { enable := true, delete := false, update := true }
        fields := [.slots 4000 4 false, .group 1 2, .periodic 4 2 0 false, .spread 0 1] },
    .disassociate 2]

theorem pass_total_of_staleHistory :
    ∃ fresh, create .accessPoint { SchedulerOptions.standard with enabled := true } = .ok fresh ∧
      Reachable (fresh.afterAll staleHistory) ∧
      ((fresh.afterAll staleHistory).prepared.registry.find? 1).map WindowConfig.indices =
        some ⟨0, 1⟩ ∧
      (fresh.afterAll staleHistory).prepared.aids.size = 1 ∧
      (fresh.afterAll staleHistory).PassTotal := by
  have creation :
      create .accessPoint { SchedulerOptions.standard with enabled := true } = .ok _ := rfl
  have reachable := (Reachable.created creation).afterAll staleHistory
  refine ⟨_, creation, reachable, ?_, ?_, pass_total_of_reachable reachable⟩
  · decide +kernel
  · decide +kernel

end RestrictedAccess.Scheduler
