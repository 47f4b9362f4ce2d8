/-
A second pass right after a pass. It finds no work, but it generates the payload anew all the same:
periodic windows are not announced on their own without a beacon, and every spread window goes on
to its next block. So the pass repeats the payload exactly when the first one announced no schedules
on their own and no spread window by a part of its slice.
-/

import RestrictedAccess.Proofs.Scheduler.Announcement
import RestrictedAccess.Proofs.Scheduler.EveryBeacon
import RestrictedAccess.Proofs.Scheduler.Switching
import RestrictedAccess.Proofs.Window.Repetition

namespace RestrictedAccess

open Station

namespace Element

theorem onAir_of_payload {one other : List Assignment}
    (same : ParameterSet.payloadOf one = ParameterSet.payloadOf other) :
    one.map Assignment.onAir = other.map Assignment.onAir := by
  have decoded := congrArg ParameterSet.decode same
  rw [ParameterSet.decode_payloadOf, ParameterSet.decode_payloadOf] at decoded
  exact ParameterSet.mk.inj (Except.ok.inj decoded)

/-- Only an empty selection makes an empty payload. -/
theorem selection_of_payload_nil {registry : Registry} {aids : AidList}
    {selection : List WindowId}
    (stored : ∀ id, id ∈ selection → ∃ window, registry.find? id = some window)
    (empty : ParameterSet.payloadOf (announcements registry aids selection) = []) :
    selection = [] := by
  have none : ParameterSet.payloadOf (announcements registry aids selection) =
      ParameterSet.payloadOf [] := empty
  have nothing : (announcements registry aids selection).map Assignment.onAir = [] :=
    onAir_of_payload none
  cases selection with
  | nil => rfl
  | cons id rest =>
      obtain ⟨window, found⟩ := stored id List.mem_cons_self
      rw [announcements_cons found] at nothing
      cases nothing

/-- Two registries that are announced alike announce each selected window alike. -/
theorem announced_of_onAir {left right : Registry} {aids : AidList} {selection : List WindowId}
    (same : (announcements left aids selection).map Assignment.onAir =
      (announcements right aids selection).map Assignment.onAir)
    (stored : ∀ id, id ∈ selection → ∃ one other,
      left.find? id = some one ∧ right.find? id = some other)
    {id : WindowId} (member : id ∈ selection) :
    ∃ one other, left.find? id = some one ∧ right.find? id = some other ∧
      (one.announced aids).onAir = (other.announced aids).onAir := by
  induction selection with
  | nil => cases member
  | cons head rest ih =>
      obtain ⟨one, other, foundOne, foundOther⟩ := stored head List.mem_cons_self
      rw [announcements_cons foundOne, announcements_cons foundOther] at same
      obtain ⟨first, others⟩ := List.cons.inj same
      rcases List.mem_cons.mp member with isHead | inRest
      · subst isHead
        exact ⟨one, other, foundOne, foundOther, first⟩
      · exact ih others (fun later inside => stored later (List.mem_cons_of_mem head inside)) inRest

end Element

namespace Scheduler

variable {scheduler : Scheduler}

/-! ### The list that windows are announced in -/

theorem Reachable.aids_listed (reachable : Reachable scheduler) :
    ∃ stations : Bitmap, scheduler.aids = stations.members := by
  induction reachable with
  | created creation =>
      refine ⟨.empty, ?_⟩
      unfold aids
      rw [(blank_of_create creation).aidList, Bitmap.members_empty]
      rfl
  | @performed scheduler operation earlier ih =>
      obtain ⟨stations, listed⟩ := ih
      by_cases pass : operation = .pass
      · subst pass
        cases enabled : scheduler.enabled with
        | false =>
            refine ⟨stations, ?_⟩
            change scheduler.runPass.scheduler.aids = stations.members
            rw [runPass_disabled enabled]
            exact listed
        | true =>
            have passed := (earlier.sound.runPass_enabled enabled).2
            change ∃ stations : Bitmap, scheduler.runPass.scheduler.aids = stations.members
            rw [passed.aids]
            unfold passAids
            split
            · exact ⟨scheduler.stations, rfl⟩
            · exact ⟨stations, listed⟩
      · obtain ⟨_, _, _, _, aidList⟩ := after_reconfigured earlier.sound.registry pass
        refine ⟨stations, ?_⟩
        unfold aids
        rw [aidList]
        exact listed

theorem Reachable.passAids_listed (reachable : Reachable scheduler) :
    ∃ stations : Bitmap, scheduler.passAids = stations.members := by
  unfold passAids
  split
  · exact ⟨scheduler.stations, rfl⟩
  · exact reachable.aids_listed

/-! ### A pass without work -/

section Idle

variable (idle : scheduler.pending = .none)

include idle

theorem passAids_of_idle : scheduler.passAids = scheduler.aids := by
  unfold passAids
  rw [idle]
  rfl

theorem passCount_of_idle : scheduler.passCount.registry = scheduler.registry := by
  unfold passCount refreshedRegistry
  rw [idle]
  rfl

theorem passWindow?_of_idle (id : WindowId) :
    scheduler.passWindow? id = scheduler.registry.find? id := by
  unfold passWindow?
  rw [idle]
  simp only [PendingWork.none, Bool.false_eq_true, false_and, if_false, Option.map_id']

theorem burstAnnounces_of_idle : scheduler.burstAnnounces = false := by
  unfold burstAnnounces
  rw [idle]
  rfl

theorem burstInForce_of_idle : scheduler.burstInForce = scheduler.burst := by
  unfold burstInForce passCount
  rw [idle]
  rfl

theorem scheduled_of_idle : scheduler.scheduled =
    if scheduler.registry.plain = [] then []
    else scheduler.registry.plain.reverse ++ scheduler.registry.periodic.reverse := by
  unfold scheduled candidates
  rw [passCount_of_idle idle, burstAnnounces_of_idle idle]
  cases scheduler.registry.plain with
  | nil => rfl
  | cons head tail => simp

end Idle

/-! ### The second pass -/

/-- Two schedulers with the same payload, windows and burst. -/
structure SameOnAir (earlier later : Scheduler) : Prop where
  payload : later.payload = earlier.payload
  found : ∀ id, later.registry.find? id = earlier.registry.find? id
  burst : later.burst = earlier.burst

/-- The next pass announces schedules although no plain window is active. -/
structure AnnouncesSchedulesAlone (scheduler : Scheduler) : Prop where
  noPlain : scheduler.registry.plain = []
  sent : scheduler.pending.beaconSent = true
  burst : 0 < scheduler.restartedBurst
  survivors : scheduler.survivors ≠ []

def AnnouncesSliceInPart (scheduler : Scheduler) : Prop :=
  ∃ id window, id ∈ scheduler.announcementOrder.take scheduler.options.maxAssignments ∧
    scheduler.passWindow? id = some window ∧ window.AnnouncesInPart scheduler.passAids

section Again

variable {first second : Scheduler}

structure PassedIdle (earlier later : Scheduler) : Prop where
  found : ∀ id, later.registry.find? id = (earlier.registry.find? id).map (fun window =>
    if id ∈ earlier.selection then window.advanced earlier.aids else window)
  payload : later.payload = ParameterSet.payloadOf
    (Element.announcements earlier.registry earlier.aids earlier.selection)
  burst : later.burst = earlier.burst

theorem Passed.of_idle (passed : Passed first second) (sound : first.Sound)
    (idle : first.pending = .none) : PassedIdle first second := by
  refine { found := ?_, payload := ?_, burst := ?_ }
  · intro id
    rw [passed.find?_eq sound, passWindow?_of_idle idle, passAids_of_idle idle]
  · rw [passed.payload, passCount_of_idle idle, passAids_of_idle idle]
  · rw [passed.burst, burstAnnounces_of_idle idle, burstInForce_of_idle idle]
    rfl

/-- A scheduler that was just passed, and is passed again. -/
structure PassedTwice (earlier first second : Scheduler) : Prop where
  sound : earlier.Sound
  soundFirst : first.Sound
  once : Passed earlier first
  again : PassedIdle first second
  selection : first.selection =
    if earlier.registry.plain = [] then [] else earlier.selection

theorem Reachable.passedTwice (reachable : Reachable scheduler)
    (enabled : scheduler.enabled = true) :
    PassedTwice scheduler scheduler.runPass.scheduler
      scheduler.runPass.scheduler.runPass.scheduler := by
  have sound := reachable.sound
  have settled := sound.settled enabled
  have once := (sound.runPass_enabled enabled).2
  refine
    { sound := sound
      soundFirst := sound.runPass
      once := once
      again := (sound.runPass.runPass_enabled settled.enabled).2.of_idle sound.runPass
        settled.pending
      selection := ?_ }
  unfold selection
  rw [scheduled_of_idle settled.pending, once.plain sound, once.periodic sound, settled.options,
    sound.scheduled_eq]
  unfold announcementOrder
  split
  · exact List.take_nil
  · rename_i some
    rw [if_pos (Or.inl (fun none => some (List.reverse_eq_nil_iff.mp none)))]

theorem announcementOrder_eq_nil_iff (noPlain : scheduler.registry.plain = []) :
    scheduler.announcementOrder = [] ↔ ¬ AnnouncesSchedulesAlone scheduler := by
  unfold announcementOrder
  rw [noPlain, List.reverse_nil, List.nil_append]
  constructor
  · intro nothing alone
    rw [if_pos (Or.inr ⟨alone.sent, alone.burst⟩), List.reverse_eq_nil_iff] at nothing
    exact alone.survivors nothing
  · intro quiet
    split
    · rename_i announces
      obtain ⟨sent, burst⟩ := announces.resolve_left (fun some => some rfl)
      rw [List.reverse_eq_nil_iff]
      exact Classical.byContradiction (fun survivors => quiet ⟨noPlain, sent, burst, survivors⟩)
    · rfl

/-- A pass without plain windows is only repeated if it announced nothing. -/
theorem PassedTwice.same_iff_of_no_plain (twice : PassedTwice scheduler first second)
    (room : 0 < scheduler.options.maxAssignments) (noPlain : scheduler.registry.plain = []) :
    SameOnAir first second ↔ ¬ AnnouncesSchedulesAlone scheduler := by
  have nothing : first.selection = [] := twice.selection.trans (if_pos noPlain)
  have payload : second.payload = [] := by
    rw [twice.again.payload, nothing]
    rfl
  have same : SameOnAir first second ↔ first.payload = [] := by
    refine ⟨fun same => same.payload.symm.trans payload, fun empty => ?_⟩
    refine
      { payload := payload.trans empty.symm
        found := ?_
        burst := twice.again.burst }
    intro id
    rw [twice.again.found, nothing]
    simp only [List.not_mem_nil, if_false, Option.map_id']
  have selected : scheduler.selection = [] ↔ scheduler.announcementOrder = [] := by
    unfold Scheduler.selection
    rw [twice.sound.scheduled_eq, List.take_eq_nil_iff]
    exact or_iff_right (Nat.ne_of_gt room)
  rw [same, twice.once.payload, ← announcementOrder_eq_nil_iff noPlain, ← selected]
  constructor
  · exact Element.selection_of_payload_nil (fun _ member => twice.sound.stored_of_selected member)
  · intro none
    rw [none]
    rfl

theorem PassedTwice.found (twice : PassedTwice scheduler first second) {id : WindowId}
    (selected : id ∈ scheduler.selection) :
    ∃ window, window.Sound ∧ scheduler.passCount.registry.find? id = some window ∧
      first.registry.find? id = some (window.advanced scheduler.passAids) := by
  obtain ⟨window, found⟩ := twice.sound.stored_of_selected selected
  refine ⟨window, twice.sound.counted.windows id window found, found, ?_⟩
  rw [twice.once.find?_eq twice.sound, ← twice.sound.find?_passCount, found, Option.map_some,
    if_pos selected]

/-- A pass with plain windows is repeated if every window announced its whole slice. -/
theorem PassedTwice.same_iff_of_plain (twice : PassedTwice scheduler first second)
    {stations : Bitmap} (listed : scheduler.passAids = stations.members)
    (plain : scheduler.registry.plain ≠ []) :
    SameOnAir first second ↔ ¬ AnnouncesSliceInPart scheduler := by
  have selection : first.selection = scheduler.selection := twice.selection.trans (if_neg plain)
  have aids : first.aids = scheduler.passAids := twice.once.aids
  have ascending : scheduler.passAids.Ascending := listed ▸ Bitmap.ascending_members stations
  have few := twice.sound.few_passAids
  have order : scheduler.announcementOrder.take scheduler.options.maxAssignments =
      scheduler.selection := by
    unfold Scheduler.selection
    rw [twice.sound.scheduled_eq]
  have payload := twice.again.payload
  rw [selection, aids] at payload
  constructor
  · rintro same ⟨id, window, member, current, inPart⟩
    rw [order] at member
    rw [← twice.sound.find?_passCount] at current
    have payloads := same.payload
    rw [payload, twice.once.payload] at payloads
    obtain ⟨next, previous, foundNext, foundPrevious, alike⟩ :=
      Element.announced_of_onAir (Element.onAir_of_payload payloads)
        (fun other selected => by
          obtain ⟨window, _, before, after⟩ := twice.found selected
          exact ⟨_, _, after, before⟩) member
    obtain ⟨stored, windowSound, before, after⟩ := twice.found member
    cases before.symm.trans current
    cases foundNext.symm.trans after
    cases foundPrevious.symm.trans current
    have small (aid : Aid) (member : aid ∈ scheduler.passAids.aids) : aid.toNat ≤ maxAid :=
      ((Bitmap.mem_members_iff_position stations aid).mp (listed ▸ member)).2
    exact windowSound.announcing_next ascending few small inPart
      (Option.some.inj (congrArg Assignment.group alike))
  · intro whole
    have again {id : WindowId} (selected : id ∈ scheduler.selection) :
        ∃ window, scheduler.passCount.registry.find? id = some window ∧
          first.registry.find? id = some (window.advanced scheduler.passAids) ∧
          (window.advanced scheduler.passAids).announcing scheduler.passAids =
            window.announcing scheduler.passAids := by
      obtain ⟨window, windowSound, before, after⟩ := twice.found selected
      refine ⟨window, before, after, windowSound.announcing_again ascending few ?_⟩
      intro inPart
      exact whole ⟨id, window, order ▸ selected,
        (twice.sound.find?_passCount id) ▸ before, inPart⟩
    refine { payload := ?_, found := ?_, burst := twice.again.burst }
    · rw [payload, twice.once.payload]
      congr 1
      unfold Element.announcements
      apply List.filterMap_congr
      intro id selected
      obtain ⟨window, before, after, repeated⟩ := again selected
      rw [before, after, Option.map_some, Option.map_some]
      exact congrArg (fun answer : WindowConfig × AidRange =>
        some (Assignment.ofWindow answer.1 answer.2)) repeated
    · intro id
      rw [twice.again.found, selection, aids]
      by_cases selected : id ∈ scheduler.selection
      · obtain ⟨window, _, after, repeated⟩ := again selected
        rw [after, Option.map_some, if_pos selected]
        exact congrArg (fun answer : WindowConfig × AidRange => some answer.1) repeated
      · simp only [if_neg selected, Option.map_id']

/-! ### When a second pass is redundant -/

structure Repeated (scheduler first second : Scheduler) : Prop where
  idle : first.pending = .none
  burst : second.burst = first.burst
  plain : second.registry.plain = first.registry.plain
  periodic : second.registry.periodic = first.registry.periodic
  resting : ∀ id, (second.registry.find? id).map WindowConfig.resting =
    (first.registry.find? id).map WindowConfig.resting
  same_iff : SameOnAir first second ↔
    ¬ AnnouncesSchedulesAlone scheduler ∧ ¬ AnnouncesSliceInPart scheduler

/-- A second pass repeats the first one unless that one announced schedules on their own or a spread
window by a part of its slice. -/
theorem second_pass_repeats_iff (reachable : Reachable scheduler)
    (enabled : scheduler.enabled = true) :
    Repeated scheduler (scheduler.after .pass) ((scheduler.after .pass).after .pass) := by
  have twice : PassedTwice scheduler (scheduler.after .pass)
      ((scheduler.after .pass).after .pass) := reachable.passedTwice enabled
  have settled : Settled scheduler (scheduler.after .pass) := reachable.sound.settled enabled
  have again : Passed (scheduler.after .pass) ((scheduler.after .pass).after .pass) :=
    (twice.soundFirst.runPass_enabled settled.enabled).2
  obtain ⟨stations, listed⟩ := reachable.passAids_listed
  have runs := again.runsTo twice.soundFirst
  rw [passCount_of_idle settled.pending] at runs
  refine
    { idle := settled.pending
      burst := twice.again.burst
      plain := runs.plain
      periodic := ?_
      resting := runs.resting
      same_iff := ?_ }
  · rw [again.periodic twice.soundFirst]
    unfold survivors
    rw [settled.pending]
    rfl
  · by_cases noPlain : scheduler.registry.plain = []
    · rw [twice.same_iff_of_no_plain reachable.room noPlain]
      refine ⟨fun quiet => ⟨quiet, ?_⟩, And.left⟩
      rintro ⟨id, window, member, _⟩
      rw [(announcementOrder_eq_nil_iff noPlain).mpr quiet, List.take_nil] at member
      cases member
    · rw [twice.same_iff_of_plain listed noPlain]
      exact ⟨fun whole => ⟨fun alone => noPlain alone.noPlain, whole⟩, And.right⟩

end Again

def soloHistory : List Operation :=
  [.associate 3,
    .command
      { id := 1
        flags := { enable := true, delete := false, update := true }
        fields := [.slots 4000 4 false, .group 3 7, .periodic 4 2 1 false] },
    .pass, .beaconSent]

def companionHistory : List Operation :=
  soloHistory ++
    [.command
      { id := 2
        flags := { enable := true, delete := false, update := true }
        fields := [.slots 4000 4 false, .group 3 7] }]

/-- On its own the schedule is only announced by the first pass, next to a plain window by both. -/
theorem second_pass_repeats_iff_in_soloHistory :
    ∃ fresh, create .accessPoint { SchedulerOptions.standard with enabled := true } = .ok fresh ∧
      Reachable (fresh.afterAll soloHistory) ∧ (fresh.afterAll soloHistory).enabled = true ∧
      ((fresh.afterAll soloHistory).after .pass).payload ≠ [] ∧
      (((fresh.afterAll soloHistory).after .pass).after .pass).payload = [] ∧
      Repeated (fresh.afterAll soloHistory) ((fresh.afterAll soloHistory).after .pass)
        (((fresh.afterAll soloHistory).after .pass).after .pass) ∧
      Reachable (fresh.afterAll companionHistory) ∧
      (fresh.afterAll companionHistory).enabled = true ∧
      ((fresh.afterAll companionHistory).after .pass).payload ≠ [] ∧
      (((fresh.afterAll companionHistory).after .pass).after .pass).payload =
        ((fresh.afterAll companionHistory).after .pass).payload ∧
      Repeated (fresh.afterAll companionHistory) ((fresh.afterAll companionHistory).after .pass)
        (((fresh.afterAll companionHistory).after .pass).after .pass) := by
  have creation :
      create .accessPoint { SchedulerOptions.standard with enabled := true } = .ok _ := rfl
  have solo := (Reachable.created creation).afterAll soloHistory
  have companion := (Reachable.created creation).afterAll companionHistory
  refine ⟨_, creation, solo, ?_, ?_, ?_, second_pass_repeats_iff solo ?_, companion, ?_, ?_, ?_,
    second_pass_repeats_iff companion ?_⟩
  · decide +kernel
  · decide +kernel
  · decide +kernel
  · decide +kernel
  · decide +kernel
  · decide +kernel
  · decide +kernel
  · decide +kernel

/-- A plain window over two stations, of which each beacon is to restrict one. -/
def slicedHistory : List Operation :=
  [.associate 1, .associate 2,
    .command
      { id := 1
        flags := { enable := true, delete := false, update := true }
        fields := [.slots 4000 4 false, .group 1 2, .spread 0 1] }]

/-- The second pass goes on to the second station although no beacon was sent for the first one. -/
theorem second_pass_skips_slice :
    ∃ fresh, create .accessPoint { SchedulerOptions.standard with enabled := true } = .ok fresh ∧
      Reachable (fresh.afterAll slicedHistory) ∧ (fresh.afterAll slicedHistory).enabled = true ∧
      ((((fresh.afterAll slicedHistory).after .pass).registry.find? 1).bind
        WindowConfig.spreading).map Spreading.lastAid = some 1 ∧
      (((((fresh.afterAll slicedHistory).after .pass).after .pass).registry.find? 1).bind
        WindowConfig.spreading).map Spreading.lastAid = some 2 ∧
      ¬ SameOnAir ((fresh.afterAll slicedHistory).after .pass)
        (((fresh.afterAll slicedHistory).after .pass).after .pass) := by
  have creation :
      create .accessPoint { SchedulerOptions.standard with enabled := true } = .ok _ := rfl
  refine ⟨_, creation, (Reachable.created creation).afterAll slicedHistory, ?_, ?_, ?_, ?_⟩
  · decide +kernel
  · decide +kernel
  · decide +kernel
  · intro same
    exact absurd same.payload (by decide +kernel)

end Scheduler

end RestrictedAccess
