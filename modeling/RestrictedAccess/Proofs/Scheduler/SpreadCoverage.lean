/-
Rounds of a spread plain window. The groups that successive payloads assign to it are the blocks of
a sweep over the associated stations of its range, so a cycle and one beacon more bring each of
these stations its turn, wherever the window was left before.
-/

import RestrictedAccess.Proofs.Scheduler.BeaconRounds
import RestrictedAccess.Proofs.Scheduler.ListFreshness
import RestrictedAccess.Proofs.Window.Sweep

namespace RestrictedAccess

open Station

namespace Registry

/-- The active plain windows above an identifier, which are announced before it. -/
def plainAbove (registry : Registry) (id : WindowId) : List WindowId :=
  registry.plain.filter (fun other => decide (id < other))

theorem Sound.getElem?_reverse_plain {registry : Registry} (sound : registry.Sound) {id : WindowId}
    (member : id ∈ registry.plain) :
    registry.plain.reverse[(registry.plainAbove id).length]? = some id := by
  have ascending := sound.plainAscending
  obtain ⟨below, above, split⟩ := List.append_of_mem member
  rw [split] at ascending
  rcases List.pairwise_append.mp ascending with ⟨_, behind, before⟩
  have none : below.filter (fun other => decide (id < other)) = [] := by
    apply List.filter_eq_nil_iff.mpr
    intro other earlier
    rw [decide_eq_true_iff]
    exact UInt16.lt_asymm (before other earlier id List.mem_cons_self)
  have all : above.filter (fun other => decide (id < other)) = above := by
    apply List.filter_eq_self.mpr
    intro other later
    exact decide_eq_true ((List.pairwise_cons.mp behind).1 other later)
  have count : (registry.plainAbove id).length = above.length := by
    unfold plainAbove
    rw [split, List.filter_append, none, List.nil_append,
      List.filter_cons_of_neg (by simp), all]
  rw [count, split, List.reverse_append, List.reverse_cons, List.append_assoc,
    List.getElem?_append_right (Nat.le_of_eq List.length_reverse), List.length_reverse, Nat.sub_self]
  rfl

end Registry

namespace Scheduler

variable {scheduler : Scheduler} {id : WindowId} {window : WindowConfig} {spreading : Spreading}

/-! ### The group of a window -/

/-- The group that a receiver finds for an active plain window in the payload. -/
def groupOf? (scheduler : Scheduler) (id : WindowId) : Option AidRange :=
  match ParameterSet.decode scheduler.payload with
  | .error _ => none
  | .ok set =>
      (set.assignments[(scheduler.registry.plainAbove id).length]?).bind Assignment.group

theorem Running.plainAbove_beaconRound (running : scheduler.Running) (id : WindowId) :
    scheduler.beaconRound.registry.plainAbove id = scheduler.registry.plainAbove id := by
  unfold Registry.plainAbove
  rw [running.plain_beaconRound]

/-- An active plain window for which the element has room is announced in every round. -/
theorem Running.groupOf?_beaconRound (running : scheduler.Running)
    (member : id ∈ scheduler.registry.plain)
    (room : (scheduler.registry.plainAbove id).length < scheduler.options.maxAssignments) :
    ∃ assignment window stored range,
      Announces scheduler.beaconSent.scheduler scheduler.beaconRound id assignment window stored
        range ∧
      scheduler.beaconRound.groupOf? id = assignment.group := by
  have registry := (notified_beaconSent scheduler).undisturbed.registry
  have place : (scheduler.beaconSent.scheduler.announcementOrder.take
      scheduler.options.maxAssignments)[(scheduler.registry.plainAbove id).length]? = some id := by
    have reversed := running.reachable.sound.registry.getElem?_reverse_plain member
    rw [List.getElem?_take, if_pos room]
    unfold announcementOrder
    rw [registry]
    split
    · obtain ⟨inside, _⟩ := List.getElem?_eq_some_iff.mp reversed
      rw [List.getElem?_append_left inside]
      exact reversed
    · exact reversed
  obtain ⟨set, decoded, assignments⟩ := running.decoded_beaconRound
  obtain ⟨inside, same⟩ := List.getElem?_eq_some_iff.mp place
  rcases List.forall₂_iff_get.mp assignments with ⟨length, related⟩
  obtain ⟨window, stored, range, announces⟩ := related _ inside (length ▸ inside)
  simp only [List.get_eq_getElem, same] at announces
  refine ⟨_, window, stored, range, announces, ?_⟩
  unfold groupOf?
  rw [decoded, running.plainAbove_beaconRound]
  simp only [List.getElem?_eq_getElem (length ▸ inside), Option.bind_some]

/-! ### One round of a sweep -/

def stationsOf (scheduler : Scheduler) (window : WindowConfig) : List Aid :=
  scheduler.stations.members.between window.startAid window.endAid

theorem ascending_stationsOf (scheduler : Scheduler) (window : WindowConfig) :
    (scheduler.stationsOf window).Pairwise (fun earlier later => earlier < later) :=
  scheduler.stations.ascending_members.between window.startAid window.endAid

theorem Sound.mem_stationsOf (sound : scheduler.Sound) {aid : Aid} :
    aid ∈ scheduler.stationsOf window ↔
      scheduler.stations.contains aid = true ∧ window.startAid ≤ aid ∧ aid ≤ window.endAid := by
  unfold stationsOf
  rw [AidList.mem_between, sound.stations.mem_members]

/-- A spread plain window that the element has room for, with a range that starts at a station. -/
structure Sweeping (scheduler : Scheduler) (id : WindowId) (window : WindowConfig)
    (spreading : Spreading) : Prop where
  standing : Standing scheduler
  enabled : scheduler.enabled = true
  plain : id ∈ scheduler.registry.plain
  found : scheduler.registry.find? id = some window
  configured : window.spreading = some spreading
  spread : spreading.isEnabled = true
  starts : scheduler.stations.contains window.startAid = true
  ordered : window.startAid ≤ window.endAid
  room : (scheduler.registry.plainAbove id).length < scheduler.options.maxAssignments

theorem Sweeping.running (sweeping : scheduler.Sweeping id window spreading) : scheduler.Running :=
  ⟨sweeping.standing.reachable, sweeping.enabled⟩

theorem Sweeping.stationsOf_ne_nil (sweeping : scheduler.Sweeping id window spreading) :
    scheduler.stationsOf window ≠ [] := by
  apply List.ne_nil_of_mem
  apply sweeping.running.reachable.sound.mem_stationsOf.mpr
  exact ⟨sweeping.starts, UInt16.le_refl window.startAid, sweeping.ordered⟩

theorem Sound.announced_station (sound : scheduler.Sound) {aid : Aid}
    (member : aid ∈ scheduler.stationsOf window) : aid % 2048 = aid := by
  have inside := (sound.stations.inRange aid.toNat (sound.mem_stationsOf.mp member).1).2
  have limit : maxAid = 2007 := rfl
  apply UInt16.toNat_inj.mp
  rw [UInt16.toNat_mod]
  exact Nat.mod_eq_of_lt (Nat.lt_of_le_of_lt inside (by rw [limit]; decide))

/-- When the turn of the window comes in a round, its range is the block at its position in the
associated stations. -/
theorem Sweeping.beaconRange (sweeping : scheduler.Sweeping id window spreading) :
    ∃ moved range, scheduler.beaconSent.scheduler.passWindow? id = some moved ∧
      moved.startAid = window.startAid ∧ moved.endAid = window.endAid ∧
      spreading.BlockAt (scheduler.stationsOf window)
        (spreading.position (scheduler.stationsOf window)) range ∧
      moved.beaconRange scheduler.beaconRound.aids =
        .ok ({ moved with spreading := some { spreading with lastAid := range.last } },
          range) := by
  have running := sweeping.running
  have undisturbed := (notified_beaconSent scheduler).undisturbed
  have upright : Operation.beaconSent ≠ .teardown := nofun
  have standing : Standing scheduler.beaconSent.scheduler :=
    Standing.performed upright sweeping.standing
  have aids : scheduler.beaconRound.aids = scheduler.stations.members := by
    rw [running.passed.aids, standing.passAids_eq, undisturbed.stations]
  obtain ⟨moved, turn, starts, ends, configured, fresh⟩ := standing.passWindow?_of_plain
    (undisturbed.registry.symm ▸ sweeping.plain) (undisturbed.registry.symm ▸ sweeping.found)
    (undisturbed.stations.symm ▸ sweeping.starts)
  rw [undisturbed.stations] at fresh
  rw [sweeping.configured] at configured
  have spread : moved.usesSpreading = true := by
    unfold WindowConfig.usesSpreading
    rw [configured]
    exact sweeping.spread
  have listed : moved.startAid ∈ scheduler.stations.members.aids := by
    rw [starts, running.reachable.sound.stations.mem_members]
    exact sweeping.starts
  have sliced : scheduler.stationsOf window =
      scheduler.stations.members.between moved.startAid moved.endAid := by
    rw [starts, ends]
    rfl
  obtain ⟨range, block, ranged⟩ := WindowConfig.beaconRange_of_resolved
    scheduler.stations.ascending_members listed (starts ▸ ends ▸ sweeping.ordered)
    (Nat.lt_of_le_of_lt scheduler.stations.size_members_le (by decide))
    (fresh spread) configured sweeping.spread sliced
  exact ⟨moved, range, turn, starts, ends, block, aids ▸ ranged⟩

/-- A round announces the block at the position of the window, and the window sweeps on. -/
theorem Sweeping.beaconRound (sweeping : scheduler.Sweeping id window spreading) :
    ∃ later range,
      scheduler.beaconRound.Sweeping id later { spreading with lastAid := range.last } ∧
      scheduler.beaconRound.stationsOf later = scheduler.stationsOf window ∧
      scheduler.beaconRound.groupOf? id = some range ∧
      spreading.BlockAt (scheduler.stationsOf window)
        (spreading.position (scheduler.stationsOf window)) range := by
  have running := sweeping.running
  have sound := running.reachable.sound
  have stations : scheduler.beaconRound.stations = scheduler.stations :=
    running.passed.stations.trans (notified_beaconSent scheduler).undisturbed.stations
  have standing : Standing scheduler.beaconRound :=
    sweeping.standing.afterAll (by decide)
  obtain ⟨moved, block, turn, starts, ends, blockAt, ranged⟩ := sweeping.beaconRange
  obtain ⟨assignment, announced, stored, range, announces, group⟩ :=
    running.groupOf?_beaconRound sweeping.plain sweeping.room
  have same : announced = moved := Option.some.inj (announces.found.symm.trans turn)
  subst same
  have result := Except.ok.inj (announces.ranged.symm.trans ranged)
  rcases Prod.mk.inj result with ⟨rfl, rfl⟩
  refine ⟨{ announced with spreading := some { spreading with lastAid := range.last } }, range,
    ?_, ?_, ?_, blockAt⟩
  · exact
      { standing := standing
        enabled := running.settled.enabled
        plain := running.plain_beaconRound.symm ▸ sweeping.plain
        found := announces.left
        configured := rfl
        spread := sweeping.spread
        starts := stations.symm ▸ starts.symm ▸ sweeping.starts
        ordered := starts.symm ▸ ends.symm ▸ sweeping.ordered
        room := by
          rw [running.plainAbove_beaconRound, running.options_beaconRound]
          exact sweeping.room }
  · unfold stationsOf
    rw [stations, ← starts, ← ends]
  · rw [group, announces.group, sound.announced_station (List.mem_of_getElem? blockAt.first),
      sound.announced_station (List.mem_of_getElem? blockAt.last)]

/-! ### Many rounds of a sweep -/

theorem Sweeping.afterRounds (sweeping : scheduler.Sweeping id window spreading) (rounds : Nat) :
    ∃ later last,
      (scheduler.afterRounds rounds).Sweeping id later { spreading with lastAid := last } ∧
      (scheduler.afterRounds rounds).stationsOf later = scheduler.stationsOf window ∧
      ({ spreading with lastAid := last } : Spreading).position (scheduler.stationsOf window) =
        spreading.positionAfter (scheduler.stationsOf window).length
          (spreading.position (scheduler.stationsOf window)) rounds := by
  induction rounds with
  | zero => exact ⟨window, spreading.lastAid, sweeping, rfl, rfl⟩
  | succ rounds ih =>
      obtain ⟨current, previous, swept, stations, position⟩ := ih
      obtain ⟨later, range, next, kept, _, block⟩ := swept.beaconRound
      rw [stations] at block kept
      refine ⟨later, range.last, next, kept, ?_⟩
      have moved := block.position_eq (scheduler.ascending_stationsOf window)
      rw [position] at moved
      exact moved

/-- The groups of successive rounds are the blocks of the sweep. -/
theorem Sweeping.groupOf?_afterRounds (sweeping : scheduler.Sweeping id window spreading)
    (round : Nat) :
    ∃ range, (scheduler.afterRounds (round + 1)).groupOf? id = some range ∧
      spreading.BlockAt (scheduler.stationsOf window)
        (spreading.positionAfter (scheduler.stationsOf window).length
          (spreading.position (scheduler.stationsOf window)) round) range := by
  obtain ⟨later, previous, swept, stations, position⟩ := sweeping.afterRounds round
  obtain ⟨_, range, _, _, group, block⟩ := swept.beaconRound
  rw [stations, position] at block
  exact ⟨range, group, block.first, block.last⟩

structure SpreadCovers (scheduler : Scheduler) (id : WindowId) (window : WindowConfig)
    (spreading : Spreading) : Prop where
  stations : ∀ aid, aid ∈ scheduler.stationsOf window ↔
    scheduler.stations.contains aid = true ∧ window.startAid ≤ aid ∧ aid ≤ window.endAid
  /-- No station is listed twice, so the length of the list counts them. -/
  ascending : (scheduler.stationsOf window).Pairwise (fun earlier later => earlier < later)
  /-- The beacons of a cycle. The nominal size decides unless the limit on the spread is smaller. -/
  cycle : spreading.cycleLength (scheduler.stationsOf window).length =
    if 0 < spreading.maxSpread.toNat ∧ spreading.maxSpread.toNat <
        (scheduler.stationsOf window).length / spreading.nominal.toNat then
      spreading.maxSpread.toNat
    else
      ((scheduler.stationsOf window).length + spreading.nominal.toNat - 1) /
        spreading.nominal.toNat
  accepted : ∀ round, (scheduler.afterRounds round).beaconSent.answer = true
  announced : ∀ round, ∃ group, (scheduler.afterRounds (round + 1)).groupOf? id = some group ∧
    group.first ∈ scheduler.stationsOf window ∧ group.last ∈ scheduler.stationsOf window
  covered : ∀ aid, aid ∈ scheduler.stationsOf window →
    ∃ round, round ≤ spreading.cycleLength (scheduler.stationsOf window).length ∧
      ∃ group, (scheduler.afterRounds (round + 1)).groupOf? id = some group ∧
        group.first ≤ aid ∧ aid ≤ group.last

/-- A cycle and one round more announce every associated station of a spread plain window. -/
theorem spread_window_covers_its_stations (sweeping : scheduler.Sweeping id window spreading) :
    scheduler.SpreadCovers id window spreading := by
  have ascending := scheduler.ascending_stationsOf window
  have some := List.length_pos_of_ne_nil sweeping.stationsOf_ne_nil
  refine
    { stations := fun _ => sweeping.running.reachable.sound.mem_stationsOf
      ascending := ascending
      cycle := Spreading.cycleLength_eq sweeping.spread some
      accepted := ?_
      announced := ?_
      covered := ?_ }
  · intro round
    obtain ⟨later, _, swept, _⟩ := sweeping.afterRounds round
    rw [swept.running.reachable.beaconSent_answer swept.enabled]
    apply Registry.needsEveryBeacon_of_spread swept.plain swept.found
    unfold WindowConfig.usesSpreading
    rw [swept.configured]
    exact swept.spread
  · intro round
    obtain ⟨range, group, block⟩ := sweeping.groupOf?_afterRounds round
    exact ⟨range, group, List.mem_of_getElem? block.first, List.mem_of_getElem? block.last⟩
  · intro aid member
    obtain ⟨station, placed⟩ := List.mem_iff_getElem?.mp member
    obtain ⟨listed, _⟩ := List.getElem?_eq_some_iff.mp placed
    obtain ⟨round, inCycle, reached, within⟩ :=
      spreading.passes_all (spreading.position_lt sweeping.stationsOf_ne_nil) listed
    obtain ⟨range, group, block⟩ := sweeping.groupOf?_afterRounds round
    exact ⟨round, inCycle, range, group,
      AidList.le_of_ascending ascending reached block.first placed,
      AidList.le_of_ascending ascending within placed block.last⟩

/-- A window swept its first three stations before one of them left and another one came, beside a
plain window that is announced first. -/
def midCycleHistory : List Operation :=
  [.associate 10, .associate 11, .associate 12, .associate 13, .associate 20, .associate 21, .pass,
    .command
      { id := 1
        flags := { enable := true, delete := false, update := true }
        fields := [.slots 4000 4 false, .group 10 100, .spread 2 2] },
    .command
      { id := 3
        flags := { enable := true, delete := false, update := true }
        fields := [.slots 4000 4 false, .group 10 100] },
    .beaconSent, .pass, .disassociate 11, .associate 30]

def midCycleWindow : WindowConfig :=
  { WindowConfig.generic 1 10 100 ⟨4, 1000, false⟩ with
    indices := ⟨0, 5⟩
    spreading := some ⟨2, 2, 12⟩ }

theorem spread_window_covers_its_stations_midCycle :
    ∃ fresh, create .accessPoint
        { SchedulerOptions.standard with enabled := true, maxAssignments := 2 } = .ok fresh ∧
      (fresh.afterAll midCycleHistory).stationsOf midCycleWindow = [10, 12, 13, 20, 21, 30] ∧
      (fresh.afterAll midCycleHistory).registry.plainAbove 1 = [3] ∧
      (fresh.afterAll midCycleHistory).Sweeping 1 midCycleWindow ⟨2, 2, 12⟩ ∧
      (fresh.afterAll midCycleHistory).SpreadCovers 1 midCycleWindow ⟨2, 2, 12⟩ := by
  have creation : create .accessPoint
      { SchedulerOptions.standard with enabled := true, maxAssignments := 2 } = .ok _ := rfl
  refine ⟨_, creation, ?stations, ?above, ?sweeping, spread_window_covers_its_stations ?sweeping⟩
  case stations => decide +kernel
  case above => decide +kernel
  case sweeping =>
    exact
      { standing := (Standing.created creation).afterAll (by decide)
        enabled := by decide +kernel
        plain := by decide +kernel
        found := by decide +kernel
        configured := rfl
        spread := rfl
        starts := by decide +kernel
        ordered := by decide
        room := by decide +kernel }

end Scheduler

end RestrictedAccess
