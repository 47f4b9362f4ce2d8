/-
The burst in which periodic windows are announced on their own. A command starts a burst, and a
schedule that starts over replaces what is left of it by a new one. Without a plain window, the
payload carries the active periodic windows exactly as long as one of these bursts goes on.
-/

import RestrictedAccess.Proofs.Scheduler.BeaconRounds

namespace RestrictedAccess.Scheduler

variable {scheduler : Scheduler}

def RefreshesIn (scheduler : Scheduler) : Nat → Prop
  | 0 => False
  | round + 1 => ∃ id, id ∈ (scheduler.afterRounds round).registry.periodic ∧
      (scheduler.afterRounds round).registry.startsOver id = true

/-- Whether the burst of a command before the first round, or the one of a schedule that started
over since, reaches a round. -/
def BurstReaches (scheduler : Scheduler) (length round : Nat) : Prop :=
  round ≤ length ∨ ∃ earlier, earlier ≤ round ∧ scheduler.RefreshesIn earlier ∧
    round - earlier < length

/-! ### The counter in one round -/

theorem toNat_fullBurst (scheduler : Scheduler) :
    scheduler.fullBurst.toNat =
      min 65535 (scheduler.options.dtimPeriod.toNat * scheduler.options.announcedDtims.toNat) := by
  unfold fullBurst
  rw [UInt16.toNat_ofNat_of_lt' (by change _ < 65536; omega), Nat.min_comm]

/-- The burst counter of a round before its beacon is taken off it. -/
def roundBurst (scheduler : Scheduler) : UInt16 :=
  if scheduler.registry.periodic.any scheduler.registry.startsOver then scheduler.fullBurst
  else scheduler.burst

/-- A fresh list of stations in the round begins a full burst, so it makes no difference when the
burst is a full one anyway. -/
theorem Running.restartedBurst_beaconSent (running : scheduler.Running)
    (active : scheduler.registry.periodic ≠ [])
    (listed : scheduler.pending.refreshAids = true → scheduler.burst = scheduler.fullBurst) :
    scheduler.beaconSent.scheduler.restartedBurst = scheduler.roundBurst := by
  have notified := notified_beaconSent scheduler
  have full : scheduler.beaconSent.scheduler.fullBurst = scheduler.fullBurst := by
    unfold fullBurst
    rw [notified.options]
  have sent := running.sent_of_periodic active
  unfold restartedBurst roundBurst
  rw [sent, Bool.true_and, notified.refreshAids, notified.undisturbed.registry, full,
    notified.burst]
  cases refresh : scheduler.pending.refreshAids with
  | false => rfl
  | true =>
      rw [listed refresh, Bool.true_or, if_pos rfl, ite_self]

/-- What a round does to the burst counter while a schedule is active. -/
theorem Running.burst_beaconRound (running : scheduler.Running)
    (active : scheduler.registry.periodic ≠ [])
    (listed : scheduler.pending.refreshAids = true → scheduler.burst = scheduler.fullBurst) :
    scheduler.beaconRound.burst.toNat = scheduler.roundBurst.toNat - 1 := by
  have sound := running.afterBeaconSent.reachable.sound
  have sent := running.sent_of_periodic active
  rw [running.passed.burst]
  unfold burstAnnounces
  rw [sound.burstInForce_eq, running.restartedBurst_beaconSent active listed, sent, Bool.true_and]
  split
  · rename_i positive
    have least : (1 : UInt16) ≤ scheduler.roundBurst :=
      UInt16.le_iff_toNat_le.mpr (UInt16.lt_iff_toNat_lt.mp (of_decide_eq_true positive))
    exact UInt16.toNat_sub_of_le _ _ least
  · rename_i spent
    have zero : ¬ (0 : UInt16).toNat < scheduler.roundBurst.toNat :=
      fun positive => spent (decide_eq_true (UInt16.lt_iff_toNat_lt.mpr positive))
    change ¬ 0 < _ at zero
    omega

theorem Running.burst_of_idle (running : scheduler.Running)
    (idle : scheduler.registry.periodic = []) (plain : scheduler.registry.plain = [])
    (settled : scheduler.pending = .none) : scheduler.beaconRound.burst = scheduler.burst := by
  have notified := notified_beaconSent scheduler
  have unneeded : scheduler.registry.needsEveryBeacon = false := by
    unfold Registry.needsEveryBeacon Registry.anyPlainSpreading
    rw [idle, plain]
    rfl
  have same : scheduler.beaconSent.scheduler = scheduler := by
    apply beaconSent_of_refused
    rw [running.reachable.beaconSent_answer running.enabled]
    exact unneeded
  have sound := running.afterBeaconSent.reachable.sound
  rw [running.passed.burst]
  unfold burstAnnounces
  rw [sound.burstInForce_eq, same, settled]
  unfold restartedBurst
  rw [settled]
  rfl

/-! ### The counter in many rounds -/

theorem any_startsOver_iff (scheduler : Scheduler) (round : Nat) :
    (scheduler.afterRounds round).registry.periodic.any
        (scheduler.afterRounds round).registry.startsOver = true ↔
      scheduler.RefreshesIn (round + 1) :=
  List.any_eq_true

theorem Running.fullBurst_afterRounds (running : scheduler.Running) (round : Nat) :
    (scheduler.afterRounds round).fullBurst = scheduler.fullBurst := by
  unfold fullBurst
  rw [running.options_afterRounds]

theorem Running.pending_afterRounds (running : scheduler.Running) (round : Nat) :
    (scheduler.afterRounds (round + 1)).pending = .none :=
  (running.afterRounds round).settled.pending

section Burst

variable (running : scheduler.Running) (full : scheduler.burst = scheduler.fullBurst)

include running full

theorem Running.listed_afterRounds (round : Nat)
    (refresh : (scheduler.afterRounds round).pending.refreshAids = true) :
    (scheduler.afterRounds round).burst = (scheduler.afterRounds round).fullBurst := by
  cases round with
  | zero => exact full
  | succ round =>
      rw [running.pending_afterRounds] at refresh
      cases refresh

omit full in
/-- The counter of a round covers what the counter before it covers, and a full burst from the
round on if a schedule starts over in it. -/
theorem Running.roundBurst_reaches {round left : Nat} (some : 0 < left)
    (before : left ≤ (scheduler.afterRounds round).burst.toNat ↔
      round + left ≤ scheduler.fullBurst.toNat ∨ ∃ earlier, earlier ≤ round ∧
        scheduler.RefreshesIn earlier ∧ round + left - earlier < scheduler.fullBurst.toNat) :
    left ≤ (scheduler.afterRounds round).roundBurst.toNat ↔
      round + left ≤ scheduler.fullBurst.toNat ∨ ∃ earlier, earlier ≤ round + 1 ∧
        scheduler.RefreshesIn earlier ∧ round + left - earlier < scheduler.fullBurst.toNat := by
  unfold roundBurst
  rw [running.fullBurst_afterRounds]
  by_cases refreshes : scheduler.RefreshesIn (round + 1)
  · rw [if_pos ((scheduler.any_startsOver_iff round).mpr refreshes)]
    constructor
    · intro within
      exact Or.inr ⟨round + 1, Nat.le_refl _, refreshes, by omega⟩
    · rintro (within | ⟨earlier, known, _, within⟩)
      · omega
      · omega
  · rw [if_neg (mt (scheduler.any_startsOver_iff round).mp refreshes), before]
    refine or_congr Iff.rfl (exists_congr (fun earlier => ?_))
    constructor
    · rintro ⟨known, refreshed, within⟩
      exact ⟨Nat.le_succ_of_le known, refreshed, within⟩
    · rintro ⟨known, refreshed, within⟩
      have different : earlier ≠ round + 1 := fun same => refreshes (same ▸ refreshed)
      exact ⟨by omega, refreshed, within⟩

/-- A burst goes on for some more rounds if the burst of the command or one of the schedules that
started over goes on for them. -/
theorem Running.burst_reaches {round : Nat}
    (active : ∀ earlier, earlier < round →
      (scheduler.afterRounds earlier).registry.periodic ≠ []) {left : Nat} (some : 0 < left) :
    left ≤ (scheduler.afterRounds round).burst.toNat ↔
      round + left ≤ scheduler.fullBurst.toNat ∨ ∃ earlier, earlier ≤ round ∧
        scheduler.RefreshesIn earlier ∧ round + left - earlier < scheduler.fullBurst.toNat := by
  induction round generalizing left with
  | zero =>
      rw [Nat.zero_add, show scheduler.afterRounds 0 = scheduler from rfl, full]
      refine (or_iff_left ?_).symm
      rintro ⟨earlier, known, refreshed, _⟩
      cases Nat.le_zero.mp known
      exact refreshed
  | succ round ih =>
      have before := ih (fun earlier sooner => active earlier (Nat.lt_succ_of_lt sooner))
        (Nat.succ_pos left)
      have counter := (running.afterRounds round).burst_beaconRound
        (active round (Nat.lt_succ_self round)) (running.listed_afterRounds full round)
      have reaches := running.roundBurst_reaches (Nat.succ_pos left) before
      have same : round + (left + 1) = round + 1 + left := by omega
      rw [same] at reaches
      rw [← reaches, afterRounds_succ, counter]
      omega

/-- The payload of a round announces periodic windows exactly when a burst reaches the round. -/
theorem Running.announces_iff {round : Nat}
    (active : ∀ earlier, earlier ≤ round →
      (scheduler.afterRounds earlier).registry.periodic ≠ []) :
    0 < (scheduler.afterRounds round).roundBurst ↔
      scheduler.BurstReaches scheduler.fullBurst.toNat (round + 1) := by
  have before := running.burst_reaches full
    (fun earlier sooner => active earlier (Nat.le_of_lt sooner)) Nat.one_pos
  rw [UInt16.lt_iff_toNat_lt]
  exact running.roundBurst_reaches Nat.one_pos before

end Burst

/-! ### The payload -/

/-- Active schedules lapse and none comes in, so those that are active have been so before. -/
theorem Running.active_earlier (running : scheduler.Running) {round : Nat}
    (active : (scheduler.afterRounds round).registry.periodic ≠ []) (earlier : Nat)
    (sooner : earlier ≤ round) : (scheduler.afterRounds earlier).registry.periodic ≠ [] := by
  obtain ⟨more, total⟩ := Nat.exists_eq_add_of_le sooner
  intro idle
  have sublist := (running.afterRounds earlier).periodic_afterRounds_sublist more
  rw [← afterRounds_add, ← total, idle] at sublist
  exact active (List.sublist_nil.mp sublist)

theorem Running.announcementOrder_of_no_plain (running : scheduler.Running)
    (plain : scheduler.registry.plain = [])
    (listed : scheduler.pending.refreshAids = true → scheduler.burst = scheduler.fullBurst)
    (active : scheduler.registry.periodic ≠ []) :
    scheduler.beaconSent.scheduler.announcementOrder =
      if 0 < scheduler.roundBurst then scheduler.beaconRound.registry.periodic.reverse else [] := by
  have sound := running.afterBeaconSent.reachable.sound
  have sent := running.sent_of_periodic active
  have registry := (notified_beaconSent scheduler).undisturbed.registry
  unfold announcementOrder
  rw [running.restartedBurst_beaconSent active listed, sent, registry, plain,
    running.passed.periodic sound]
  simp

theorem Running.announcementOrder_of_idle (running : scheduler.Running)
    (plain : scheduler.registry.plain = []) (idle : scheduler.registry.periodic = []) :
    scheduler.beaconSent.scheduler.announcementOrder = [] ∧
      scheduler.beaconRound.registry.periodic = [] := by
  have sound := running.afterBeaconSent.reachable.sound
  have registry := (notified_beaconSent scheduler).undisturbed.registry
  have survivors : scheduler.beaconRound.registry.periodic = [] := by
    rw [running.periodic_beaconRound, idle]
    rfl
  refine ⟨?_, survivors⟩
  unfold announcementOrder
  rw [registry, plain, ← running.passed.periodic sound, survivors]
  simp

theorem Running.payload_of_nothing (running : scheduler.Running)
    (nothing : scheduler.beaconSent.scheduler.announcementOrder = []) :
    scheduler.beaconRound.payload = [] := by
  have sound := running.afterBeaconSent.reachable.sound
  rw [running.passed.payload]
  unfold selection
  rw [sound.scheduled_eq, nothing, List.take_nil]
  rfl

structure CountsBurst (scheduler : Scheduler) (length : Nat) : Prop where
  begins : scheduler.burst.toNat = length
  /-- A schedule that starts over puts a full burst in the place of what is left. -/
  restarts : ∀ round, scheduler.RefreshesIn (round + 1) →
    (scheduler.afterRounds (round + 1)).burst.toNat = length - 1
  /-- Otherwise a beacon takes one off the counter, down to zero. -/
  continues : ∀ round, ¬ scheduler.RefreshesIn (round + 1) →
    (scheduler.afterRounds round).registry.periodic ≠ [] →
    (scheduler.afterRounds (round + 1)).burst.toNat = (scheduler.afterRounds round).burst.toNat - 1
  idle : ∀ round, (scheduler.afterRounds round).registry.periodic = [] →
    (scheduler.afterRounds (round + 1)).burst = (scheduler.afterRounds round).burst

theorem CountsBurst.burst_le {length : Nat} (counts : scheduler.CountsBurst length)
    (round : Nat) : (scheduler.afterRounds round).burst.toNat ≤ length := by
  induction round with
  | zero => exact Nat.le_of_eq counts.begins
  | succ round ih =>
      by_cases listed : (scheduler.afterRounds round).registry.periodic = []
      · rw [counts.idle round listed]
        exact ih
      · by_cases refreshes : scheduler.RefreshesIn (round + 1)
        · rw [counts.restarts round refreshes]
          exact Nat.sub_le _ _
        · rw [counts.continues round refreshes listed]
          exact Nat.le_trans (Nat.sub_le _ _) ih

structure BurstExact (scheduler : Scheduler) (length : Nat) : Prop where
  /-- A round that a burst reaches announces the windows that are still active after it. -/
  announced : ∀ round, scheduler.BurstReaches length (round + 1) →
    ∃ set, ParameterSet.decode (scheduler.afterRounds (round + 1)).payload = .ok set ∧
      List.Forall₂ (fun id assignment => ∃ window stored range,
          Announces (scheduler.afterRounds round).beaconSent.scheduler
            (scheduler.afterRounds (round + 1)) id assignment window stored range)
        ((scheduler.afterRounds (round + 1)).registry.periodic.reverse.take
          scheduler.options.maxAssignments)
        set.assignments
  silent : ∀ round, ¬ scheduler.BurstReaches length (round + 1) →
    (scheduler.afterRounds (round + 1)).payload = []
  descending : ∀ round, (scheduler.afterRounds round).registry.periodic.reverse.Pairwise
    (fun first second => second < first)
  counts : scheduler.CountsBurst length
  bounded : ∀ round, (scheduler.afterRounds round).burst.toNat ≤ length

section Exact

variable (running : scheduler.Running) (full : scheduler.burst = scheduler.fullBurst)
  (plain : scheduler.registry.plain = []) (active : scheduler.registry.periodic ≠ [])

include running full plain active

theorem Running.countsBurst : scheduler.CountsBurst scheduler.fullBurst.toNat := by
  have counter (round : Nat) (listed : (scheduler.afterRounds round).registry.periodic ≠ []) :=
    (running.afterRounds round).burst_beaconRound listed (running.listed_afterRounds full round)
  refine
    { begins := congrArg UInt16.toNat full
      restarts := ?_
      continues := ?_
      idle := ?_ }
  · intro round refreshes
    have listed : (scheduler.afterRounds round).registry.periodic ≠ [] := by
      obtain ⟨id, member, _⟩ := refreshes
      exact List.ne_nil_of_mem member
    rw [afterRounds_succ, counter round listed]
    unfold roundBurst
    rw [if_pos ((scheduler.any_startsOver_iff round).mpr refreshes), running.fullBurst_afterRounds]
  · intro round quiet listed
    rw [afterRounds_succ, counter round listed]
    unfold roundBurst
    rw [if_neg (mt (scheduler.any_startsOver_iff round).mp quiet)]
  · intro round listed
    cases round with
    | zero => exact absurd listed active
    | succ round =>
        exact (running.afterRounds (round + 1)).burst_of_idle listed
          ((running.plain_afterRounds (round + 1)).trans plain) (running.pending_afterRounds round)

theorem Running.burstExact : scheduler.BurstExact scheduler.fullBurst.toNat := by
  have plainAfter (round : Nat) : (scheduler.afterRounds round).registry.plain = [] :=
    (running.plain_afterRounds round).trans plain
  have order (round : Nat) (listed : (scheduler.afterRounds round).registry.periodic ≠ []) :=
    (running.afterRounds round).announcementOrder_of_no_plain (plainAfter round)
      (running.listed_afterRounds full round) listed
  have counts := running.countsBurst full plain active
  refine
    { announced := ?_
      silent := ?_
      descending := ?_
      counts := counts
      bounded := counts.burst_le }
  · intro round reaches
    have current := running.afterRounds round
    obtain ⟨set, decoded, assignments⟩ := current.decoded_beaconRound
    refine ⟨set, decoded, ?_⟩
    rw [running.options_afterRounds] at assignments
    by_cases listed : (scheduler.afterRounds round).registry.periodic = []
    · obtain ⟨nothing, gone⟩ := current.announcementOrder_of_idle (plainAfter round) listed
      rw [afterRounds_succ, gone, List.reverse_nil]
      rw [nothing] at assignments
      exact assignments
    · have announces := (running.announces_iff full (running.active_earlier listed)).mpr reaches
      rw [order round listed, if_pos announces] at assignments
      exact assignments
  · intro round ends
    have current := running.afterRounds round
    apply current.payload_of_nothing
    by_cases listed : (scheduler.afterRounds round).registry.periodic = []
    · exact (current.announcementOrder_of_idle (plainAfter round) listed).1
    · have quiet := mt (running.announces_iff full (running.active_earlier listed)).mp ends
      rw [order round listed, if_neg quiet]
  · intro round
    exact List.pairwise_reverse.mpr
      (running.afterRounds round).reachable.sound.registry.periodicAscending

end Exact

theorem burst_processCommand (earlier : Scheduler) (command : Command)
    (active : (earlier.processCommand command).scheduler.registry.periodic ≠ []) :
    (earlier.processCommand command).scheduler.burst =
      (earlier.processCommand command).scheduler.fullBurst := by
  have triggered (current : Scheduler) : (current.triggerUpdate false).1.burst = current.burst ∧
      (current.triggerUpdate false).1.options = current.options := by
    rw [triggerUpdate_eq]
    exact ⟨rfl, rfl⟩
  have undisturbed := undisturbed_triggerUpdate
    (earlier.applyCommand command).1.settleConfiguration false
  unfold processCommand at active ⊢
  simp only [undisturbed.registry] at active
  unfold fullBurst
  simp only [(triggered _).1, (triggered _).2]
  unfold settleConfiguration at active ⊢
  split at active
  · rename_i idle
    exact absurd (List.isEmpty_iff.mp idle) active
  · rename_i listed
    rw [if_neg listed]
    rfl

/-- After a command that leaves only periodic windows active, they are announced exactly while its
burst, or the burst of one that started over since, goes on. -/
theorem periodic_burst_exact {earlier : Scheduler} (reachable : Reachable earlier)
    (command : Command) (enabled : (earlier.processCommand command).scheduler.enabled = true)
    (plain : (earlier.processCommand command).scheduler.registry.plain = [])
    (active : (earlier.processCommand command).scheduler.registry.periodic ≠ []) :
    (earlier.processCommand command).scheduler.BurstExact
      (min 65535 ((earlier.processCommand command).scheduler.options.dtimPeriod.toNat *
        (earlier.processCommand command).scheduler.options.announcedDtims.toNat)) := by
  have running : (earlier.processCommand command).scheduler.Running :=
    ⟨Reachable.performed (.command command) reachable, enabled⟩
  rw [← toNat_fullBurst]
  exact running.burstExact (burst_processCommand earlier command active) plain active

/-- One window that starts over is announced, and a command is about to add one that lapses. The
list of stations is out of date. -/
def burstHistory : List Operation :=
  [.associate 1, .pass,
    .command
      { id := 1
        flags := { enable := true, delete := false, update := true }
        fields := [.slots 4000 4 false, .group 1 2, .periodic 4 1 0 true] },
    .beaconSent, .pass, .associate 2]

def addLapsingCommand : Command :=
  { id := 2
    flags := { enable := true, delete := false, update := true }
    fields := [.slots 4000 4 false, .group 1 2, .periodic 3 1 1 false] }

theorem periodic_burst_exact_of_two :
    ∃ fresh, create .accessPoint
        { SchedulerOptions.standard with enabled := true, announcedDtims := 2 } = .ok fresh ∧
      Reachable (fresh.afterAll burstHistory) ∧
      ((fresh.afterAll burstHistory).processCommand addLapsingCommand).scheduler.enabled = true ∧
      ((fresh.afterAll burstHistory).processCommand addLapsingCommand).scheduler.registry.plain =
        [] ∧
      ((fresh.afterAll burstHistory).processCommand addLapsingCommand).scheduler.registry.periodic =
        [1, 2] ∧
      ((fresh.afterAll burstHistory).processCommand addLapsingCommand).scheduler.BurstExact 2 := by
  have creation : create .accessPoint
      { SchedulerOptions.standard with enabled := true, announcedDtims := 2 } = .ok _ := rfl
  have reachable := (Reachable.created creation).afterAll burstHistory
  refine ⟨_, creation, reachable, ?enabled, ?plain, ?active,
    periodic_burst_exact reachable addLapsingCommand ?enabled ?plain ?some⟩
  case enabled => decide +kernel
  case plain => decide +kernel
  case active => decide +kernel
  case some => decide +kernel

end RestrictedAccess.Scheduler
