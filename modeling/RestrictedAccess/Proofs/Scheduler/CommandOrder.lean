/-
Commands for different windows can be processed in either order. Every command realigns whatever
is active at that moment, so the orders differ in between, but patches and checks do not see where
a schedule stands, and the last command realigns what is active in the end. What remains is the
offset of schedules that end up inactive, which no pass looks at.
-/

import Mathlib.Data.List.Sort
import RestrictedAccess.Proofs.Scheduler.Announcement
import RestrictedAccess.Proofs.Scheduler.CommandEffect
import RestrictedAccess.Proofs.Window.Patches

namespace RestrictedAccess

open Station

theorem WindowConfig.resolvedIn_realigned (aidList : Option AidList) (window : WindowConfig) :
    window.realigned.resolvedIn aidList = (window.resolvedIn aidList).realigned := by
  cases aidList with
  | none => rfl
  | some aids => exact WindowConfig.resolveIndices_realigned aids window

/-! ### Entries up to alignment -/

namespace Registry

namespace Entry

def aligned (entry : Entry) : Entry :=
  { entry with window := entry.window.map WindowConfig.realigned }

theorem realigned_eq_aligned {entry : Entry} (active : entry.membership = .periodic) :
    entry.realigned = entry.aligned :=
  if_pos active

theorem aligned_realigned (entry : Entry) : entry.realigned.aligned = entry.aligned := by
  have twice : WindowConfig.realigned ∘ WindowConfig.realigned = WindowConfig.realigned :=
    funext WindowConfig.realigned_realigned
  unfold realigned aligned
  split
  · simp only [Option.map_map, twice]
  · rfl

theorem realigned_realigned (entry : Entry) : entry.realigned.realigned = entry.realigned := by
  by_cases active : entry.membership = .periodic
  · have still : entry.realigned.membership = .periodic :=
      entry.membership_realigned.trans active
    rw [realigned_eq_aligned still, aligned_realigned, realigned_eq_aligned active]
  · have idle : entry.realigned = entry := if_neg active
    rw [idle, idle]

theorem aligned_listed (window : WindowConfig) :
    (listed window).aligned = listed window.realigned := by
  unfold listed aligned
  rw [WindowConfig.isPeriodic_realigned]
  rfl

end Entry

theorem Sound.aligned_of_active {registry : Registry} (sound : registry.Sound) {id : WindowId}
    (settled : (registry.entry id).realigned = registry.entry id)
    (active : id ∈ registry.active) : (registry.entry id).aligned = registry.entry id := by
  rcases List.mem_append.mp active with inPlain | inPeriodic
  · obtain ⟨window, found, plain⟩ := sound.plainStored id inPlain
    unfold entry Entry.aligned
    rw [found, Option.map_some, WindowConfig.realigned_of_plain plain]
  · have listed : (registry.entry id).membership = .periodic :=
      (sound.membership_eq_periodic_iff id).mpr inPeriodic
    rw [← Entry.realigned_eq_aligned listed, settled]

/-- The lists of a sound registry are determined by where each window is. -/
theorem Sound.lists_of_membership {left right : Registry} (leftSound : left.Sound)
    (rightSound : right.Sound) (same : ∀ id, left.membership id = right.membership id) :
    left.plain = right.plain ∧ left.periodic = right.periodic := by
  have irreflexive : Std.Irrefl (fun earlier later : WindowId => earlier < later) :=
    ⟨UInt16.lt_irrefl⟩
  constructor
  · apply leftSound.plainAscending.eq_of_mem_iff rightSound.plainAscending
    intro id
    rw [← membership_eq_plain_iff, same, membership_eq_plain_iff]
  · apply leftSound.periodicAscending.eq_of_mem_iff rightSound.periodicAscending
    intro id
    rw [← leftSound.membership_eq_periodic_iff, same, rightSound.membership_eq_periodic_iff]

theorem needsEveryBeacon_of_lists {left right : Registry} (plain : left.plain = right.plain)
    (periodic : left.periodic = right.periodic)
    (found : ∀ id, id ∈ left.plain → left.find? id = right.find? id) :
    left.needsEveryBeacon = right.needsEveryBeacon := by
  have spreading : left.anyPlainSpreading = right.anyPlainSpreading := by
    unfold anyPlainSpreading
    rw [← plain, Bool.eq_iff_iff, List.any_eq_true, List.any_eq_true]
    refine exists_congr (fun id => and_congr_right (fun member => ?_))
    rw [found id member]
  unfold needsEveryBeacon
  rw [spreading, periodic]

end Registry

namespace Command

open Registry

variable (command : Command) (aidList : Option AidList) (entry : Entry)

theorem current_aligned : command.current entry.aligned = (command.current entry).realigned := by
  unfold current Entry.aligned
  cases entry.window <;> rfl

theorem effectOfUpdate_aligned :
    command.effectOfUpdate aidList entry.aligned =
      ((command.effectOfUpdate aidList entry).1.aligned,
        (command.effectOfUpdate aidList entry).2) := by
  unfold effectOfUpdate
  rw [current_aligned, applyTo_realigned]
  cases command.applyTo (command.current entry) with
  | error fault => rfl
  | ok updated =>
      simp only [Except.map, WindowConfig.isValid_realigned]
      split
      · cases command.flags.enable with
        | false => rfl
        | true => simp only [if_true, Entry.aligned_listed, WindowConfig.resolvedIn_realigned]
      · rfl

theorem effectWithoutUpdate_aligned :
    command.effectWithoutUpdate aidList entry.aligned =
      ((command.effectWithoutUpdate aidList entry).1.aligned,
        (command.effectWithoutUpdate aidList entry).2) := by
  have stored : entry.aligned.window = entry.window.map WindowConfig.realigned := rfl
  unfold effectWithoutUpdate
  rw [stored]
  cases entry.window with
  | none => rfl
  | some window =>
      cases command.flags.delete with
      | true => rfl
      | false =>
          cases command.flags.enable with
          | false => rfl
          | true =>
              simp only [Option.map_some, if_true, Bool.false_eq_true, if_false,
                Entry.aligned_listed, WindowConfig.resolvedIn_realigned]

theorem effect_aligned :
    command.effect aidList entry.aligned =
      ((command.effect aidList entry).1.aligned, (command.effect aidList entry).2) := by
  unfold effect
  split
  · rfl
  · split
    · exact command.effectOfUpdate_aligned aidList entry
    · exact command.effectWithoutUpdate_aligned aidList entry

/-- A command does not see whether its window was realigned, and says nothing of it either. -/
theorem effect_realigned :
    (command.effect aidList entry.realigned).1.aligned = (command.effect aidList entry).1.aligned ∧
      (command.effect aidList entry.realigned).2 = (command.effect aidList entry).2 := by
  have same := congrArg (command.effect aidList) entry.aligned_realigned
  rw [effect_aligned, effect_aligned] at same
  exact Prod.mk.inj same

end Command

namespace Scheduler

/-! ### Schedulers that do the same from here on -/

/-- Two schedulers that only differ in the offsets of inactive schedules, and in a burst that has
nothing to announce. -/
structure Alike (left right : Scheduler) : Prop where
  plain : left.registry.plain = right.registry.plain
  periodic : left.registry.periodic = right.registry.periodic
  found : ∀ id, (left.registry.find? id).map WindowConfig.realigned =
    (right.registry.find? id).map WindowConfig.realigned
  foundActive : ∀ id, id ∈ left.registry.active →
    left.registry.find? id = right.registry.find? id
  burst : left.registry.periodic ≠ [] → left.burst = right.burst
  enabled : left.enabled = right.enabled
  pending : left.pending = right.pending
  everyBeacon : left.everyBeacon = right.everyBeacon
  options : left.options = right.options
  stations : left.stations = right.stations
  aidList : left.aidList = right.aidList
  payload : left.payload = right.payload
  stats : left.stats = right.stats

section Alike

variable {left right : Scheduler}

theorem Alike.beaconSent (alike : Alike left right) :
    Alike left.beaconSent.scheduler right.beaconSent.scheduler := by
  rw [beaconSent_eq, beaconSent_eq]
  exact
    { alike with
      pending := by rw [alike.pending, alike.enabled, alike.everyBeacon] }

theorem Alike.passWindow? (alike : Alike left right) {id : WindowId}
    (active : id ∈ left.registry.active) : left.passWindow? id = right.passWindow? id := by
  unfold Scheduler.passWindow?
  rw [alike.foundActive id active, alike.pending, alike.plain, alike.periodic, alike.stations]

theorem Alike.countdownEvent? (alike : Alike left right) {id : WindowId}
    (active : id ∈ left.registry.periodic) :
    left.registry.countdownEvent? id = right.registry.countdownEvent? id := by
  unfold Registry.countdownEvent?
  rw [alike.foundActive id (List.mem_append_right _ active)]

theorem Alike.survivors (alike : Alike left right) : left.survivors = right.survivors := by
  have surviving : left.registry.periodic.filter (fun id => !left.registry.lapses id) =
      left.registry.periodic.filter (fun id => !right.registry.lapses id) := by
    apply List.filter_congr
    intro id active
    unfold Registry.lapses
    rw [alike.countdownEvent? active]
  unfold Scheduler.survivors
  rw [surviving, alike.periodic, alike.pending]

theorem Alike.restartedBurst (alike : Alike left right) (active : left.registry.periodic ≠ []) :
    left.restartedBurst = right.restartedBurst := by
  have starting : left.registry.periodic.any left.registry.startsOver =
      left.registry.periodic.any right.registry.startsOver := by
    rw [Bool.eq_iff_iff, List.any_eq_true, List.any_eq_true]
    refine exists_congr (fun id => and_congr_right (fun member => ?_))
    unfold Registry.startsOver
    rw [alike.countdownEvent? member]
  have full : left.fullBurst = right.fullBurst := by
    unfold fullBurst
    rw [alike.options]
  unfold Scheduler.restartedBurst
  rw [starting, alike.periodic, alike.pending, alike.burst active, full]

theorem Alike.announcementOrder (alike : Alike left right) :
    left.announcementOrder = right.announcementOrder := by
  by_cases idle : left.registry.periodic = []
  · -- The bursts may differ, but no schedule is left that they could announce.
    have none (scheduler : Scheduler) (idle : scheduler.registry.periodic = []) :
        scheduler.announcementOrder = scheduler.registry.plain.reverse := by
      have lapsed : scheduler.survivors = [] := by
        unfold Scheduler.survivors
        rw [idle]
        split <;> rfl
      unfold Scheduler.announcementOrder
      rw [lapsed, List.reverse_nil, List.append_nil]
      split <;> rfl
    rw [none left idle, none right (alike.periodic ▸ idle), alike.plain]
  · unfold Scheduler.announcementOrder
    rw [alike.plain, alike.pending, alike.restartedBurst idle, alike.survivors]

/-- A pass generates the same payload for both. -/
theorem Alike.payload_runPass (alike : Alike left right) (leftSound : left.Sound)
    (rightSound : right.Sound) (enabled : left.enabled = true) :
    left.runPass.scheduler.payload = right.runPass.scheduler.payload := by
  obtain ⟨_, leftPassed⟩ := leftSound.runPass_enabled enabled
  obtain ⟨_, rightPassed⟩ := rightSound.runPass_enabled (alike.enabled ▸ enabled)
  have aids : left.passAids = right.passAids := by
    unfold passAids aids
    rw [alike.pending, alike.stations, alike.aidList]
  have selection : left.selection = right.selection := by
    unfold Scheduler.selection
    rw [leftSound.scheduled_eq, rightSound.scheduled_eq, alike.announcementOrder, alike.options]
  have announced : Element.announcements left.passCount.registry left.passAids left.selection =
      Element.announcements right.passCount.registry right.passAids right.selection := by
    rw [← selection, ← aids]
    unfold Element.announcements
    apply List.filterMap_congr
    intro id selected
    unfold Scheduler.selection at selected
    rw [leftSound.scheduled_eq] at selected
    have active := mem_active_of_announced (List.mem_of_mem_take selected)
    rw [leftSound.find?_passCount, rightSound.find?_passCount, alike.passWindow? active]
  rw [leftPassed.payload, rightPassed.payload, announced]

end Alike

/-! ### Two commands -/

section Order

variable {scheduler : Scheduler} {first second : Command}

structure CommandedBoth (first second : Command) (earlier later : Scheduler) : Prop where
  sound : later.registry.Sound
  settled : ∀ id, (later.registry.entry id).realigned = later.registry.entry id
  entry : ∀ id, (later.registry.entry id).aligned =
    (if id = first.id then
        (first.effect earlier.aidList (earlier.registry.entry first.id)).1
      else if id = second.id then
        (second.effect earlier.aidList (earlier.registry.entry second.id)).1
      else earlier.registry.entry id).aligned
  options : later.options = earlier.options
  stations : later.stations = earlier.stations
  aidList : later.aidList = earlier.aidList
  payload : later.payload = earlier.payload
  enabled : later.enabled = earlier.enabled
  stats : later.stats = earlier.stats
  pending : later.pending =
    { earlier.pending with
      refreshAids := earlier.pending.refreshAids || (earlier.enabled && earlier.aidList.isNone) }
  burst : later.registry.periodic ≠ [] → later.burst = earlier.fullBurst
  everyBeacon : later.everyBeacon = later.registry.needsEveryBeacon

theorem Commanded.both {earlier between later : Scheduler}
    (one : Commanded first earlier between) (two : Commanded second between later)
    (different : first.id ≠ second.id) : CommandedBoth first second earlier later := by
  refine
    { sound := two.sound
      settled := ?_
      entry := ?_
      options := two.options.trans one.options
      stations := two.stations.trans one.stations
      aidList := two.aidList.trans one.aidList
      payload := two.payload.trans one.payload
      enabled := two.enabled.trans one.enabled
      stats := two.stats.trans one.stats
      pending := ?_
      burst := ?_
      everyBeacon := two.everyBeacon }
  · intro id
    rw [two.entry, Registry.Entry.realigned_realigned]
  · intro id
    rw [two.entry, Registry.Entry.aligned_realigned, one.entry second.id, one.entry id,
      one.aidList, if_neg different.symm]
    by_cases isSecond : id = second.id
    · have notFirst : id ≠ first.id := fun same => different (same.symm.trans isSecond)
      rw [if_pos isSecond, if_neg notFirst, if_pos isSecond]
      exact (second.effect_realigned _ _).1
    · rw [if_neg isSecond, if_neg isSecond, Registry.Entry.aligned_realigned]
  · rw [two.pending, one.pending, one.enabled, one.aidList]
    simp only [Bool.or_assoc, Bool.or_self]
  · intro active
    rw [two.burst, if_neg active]
    unfold fullBurst
    rw [one.options]

theorem CommandedBoth.aligned_eq {earlier left right : Scheduler}
    (forth : CommandedBoth first second earlier left)
    (back : CommandedBoth second first earlier right) (different : first.id ≠ second.id)
    (id : WindowId) :
    (left.registry.entry id).aligned = (right.registry.entry id).aligned := by
  rw [forth.entry, back.entry]
  by_cases isFirst : id = first.id
  · have notSecond : id ≠ second.id := fun same => different (isFirst.symm.trans same)
    rw [if_pos isFirst, if_neg notSecond, if_pos isFirst]
  · rw [if_neg isFirst, if_neg isFirst]

theorem CommandedBoth.alike {earlier left right : Scheduler}
    (forth : CommandedBoth first second earlier left)
    (back : CommandedBoth second first earlier right) (different : first.id ≠ second.id) :
    Alike left right := by
  have same := forth.aligned_eq back different
  have membership (id : WindowId) : left.registry.membership id = right.registry.membership id :=
    congrArg Registry.Entry.membership (same id)
  obtain ⟨plain, periodic⟩ := forth.sound.lists_of_membership back.sound membership
  have foundActive (id : WindowId) (active : id ∈ left.registry.active) :
      left.registry.find? id = right.registry.find? id := by
    have activeToo : id ∈ right.registry.active := by
      unfold Registry.active at active ⊢
      rw [← plain, ← periodic]
      exact active
    have entries := same id
    rw [forth.sound.aligned_of_active (forth.settled id) active,
      back.sound.aligned_of_active (back.settled id) activeToo] at entries
    exact congrArg Registry.Entry.window entries
  exact
    { plain := plain
      periodic := periodic
      found := fun id => congrArg Registry.Entry.window (same id)
      foundActive := foundActive
      burst := by
        intro active
        rw [forth.burst active, back.burst (periodic ▸ active)]
      enabled := forth.enabled.trans back.enabled.symm
      pending := forth.pending.trans back.pending.symm
      everyBeacon := by
        rw [forth.everyBeacon, back.everyBeacon]
        exact Registry.needsEveryBeacon_of_lists plain periodic (fun id member =>
          foundActive id (List.mem_append_left _ member))
      options := forth.options.trans back.options.symm
      stations := forth.stations.trans back.stations.symm
      aidList := forth.aidList.trans back.aidList.symm
      payload := forth.payload.trans back.payload.symm
      stats := forth.stats.trans back.stats.symm }

structure Commute (first second : Command) (scheduler : Scheduler) : Prop where
  firstAnswer : (scheduler.processCommand first).answer =
    ((scheduler.processCommand second).scheduler.processCommand first).answer
  secondAnswer : ((scheduler.processCommand first).scheduler.processCommand second).answer =
    (scheduler.processCommand second).answer
  alike : Alike ((scheduler.processCommand first).scheduler.processCommand second).scheduler
    ((scheduler.processCommand second).scheduler.processCommand first).scheduler
  payload : scheduler.enabled = true →
    (scheduler.afterAll [.command first, .command second, .pass]).payload =
      (scheduler.afterAll [.command second, .command first, .pass]).payload
  payloadAtBeacon : scheduler.enabled = true →
    (scheduler.afterAll [.command first, .command second, .beaconSent, .pass]).payload =
      (scheduler.afterAll [.command second, .command first, .beaconSent, .pass]).payload

/-- The answer to a command does not depend on commands for other windows. -/
theorem answer_processCommand_after (sound : scheduler.Sound) (different : first.id ≠ second.id)
    (firstNamed : first.id ≠ engineId) (secondNamed : second.id ≠ engineId) :
    ((scheduler.processCommand first).scheduler.processCommand second).answer =
      (scheduler.processCommand second).answer := by
  obtain ⟨_, one⟩ := commanded_processCommand sound.registry firstNamed
  obtain ⟨answer, _⟩ := commanded_processCommand sound.registry secondNamed
  obtain ⟨answerAfter, _⟩ := commanded_processCommand one.sound secondNamed
  rw [answerAfter, answer, one.entry, if_neg different.symm, one.aidList]
  exact (second.effect_realigned _ _).2

/-- Commands for different windows commute. -/
theorem commands_commute (reachable : Reachable scheduler) (different : first.id ≠ second.id)
    (firstNamed : first.id ≠ engineId) (secondNamed : second.id ≠ engineId) :
    Commute first second scheduler := by
  have sound := reachable.sound
  have both {one two : Command} (apart : one.id ≠ two.id) (oneNamed : one.id ≠ engineId)
      (twoNamed : two.id ≠ engineId) : CommandedBoth one two scheduler
        ((scheduler.processCommand one).scheduler.processCommand two).scheduler := by
    obtain ⟨_, commanded⟩ := commanded_processCommand sound.registry oneNamed
    obtain ⟨_, commandedThen⟩ := commanded_processCommand commanded.sound twoNamed
    exact commanded.both commandedThen apart
  have forth := both different firstNamed secondNamed
  have back := both different.symm secondNamed firstNamed
  have alike := forth.alike back different
  have left := sound.afterAll [.command first, .command second]
  have right := sound.afterAll [.command second, .command first]
  refine
    { firstAnswer :=
        (answer_processCommand_after sound different.symm secondNamed firstNamed).symm
      secondAnswer := answer_processCommand_after sound different firstNamed secondNamed
      alike := alike
      payload := ?_
      payloadAtBeacon := ?_ }
  · intro enabled
    exact alike.payload_runPass left right (forth.enabled.trans enabled)
  · intro enabled
    refine alike.beaconSent.payload_runPass (left.after .beaconSent) (right.after .beaconSent) ?_
    rw [beaconSent_eq]
    exact forth.enabled.trans enabled

end Order

/-- Two schedules of different pace, with the first of them past its offset. -/
def pacedHistory : List Operation :=
  [.associate 3,
    .command
      { id := 1
        flags := { enable := true, delete := false, update := true }
        fields := [.slots 4000 4 false, .group 3 7, .periodic 4 2 1 false] },
    .command
      { id := 2
        flags := { enable := true, delete := false, update := true }
        fields := [.slots 4000 4 false, .group 3 7, .periodic 3 2 0 true] },
    .pass, .beaconSent, .pass]

def silencingCommand : Command :=
  { id := 1
    flags := { enable := false, delete := false, update := false }
    fields := [] }

def slowingCommand : Command :=
  { id := 2
    flags := { enable := true, delete := false, update := true }
    fields := [.periodic 5 2 0 true] }

/-- In one order the first schedule is realigned before it is silenced, in the other it is not. -/
theorem commands_commute_after_pacedHistory :
    ∃ fresh, create .accessPoint { SchedulerOptions.standard with enabled := true } = .ok fresh ∧
      silencingCommand.id ≠ slowingCommand.id ∧ silencingCommand.id ≠ engineId ∧
      slowingCommand.id ≠ engineId ∧ (fresh.afterAll pacedHistory).enabled = true ∧
      ((((fresh.afterAll pacedHistory).afterAll
          [.command silencingCommand, .command slowingCommand]).registry.find? 1).bind
        WindowConfig.periodic).map PeriodicSchedule.offsetLeft = some 0 ∧
      ((((fresh.afterAll pacedHistory).afterAll
          [.command slowingCommand, .command silencingCommand]).registry.find? 1).bind
        WindowConfig.periodic).map PeriodicSchedule.offsetLeft = some 1 ∧
      Commute silencingCommand slowingCommand (fresh.afterAll pacedHistory) := by
  have creation :
      create .accessPoint { SchedulerOptions.standard with enabled := true } = .ok _ := rfl
  have reachable := (Reachable.created creation).afterAll pacedHistory
  have different : silencingCommand.id ≠ slowingCommand.id := by decide
  have silencingNamed : silencingCommand.id ≠ engineId := by decide
  have slowingNamed : slowingCommand.id ≠ engineId := by decide
  refine ⟨_, creation, different, silencingNamed, slowingNamed, ?_, ?_, ?_,
    commands_commute reachable different silencingNamed slowingNamed⟩
  · decide +kernel
  · decide +kernel
  · decide +kernel

end Scheduler

end RestrictedAccess
