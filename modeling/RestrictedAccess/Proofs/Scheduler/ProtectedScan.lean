/-
The protection of a scan in the payload. The window that protects a station has the highest
identifier of all windows, so every pass announces it first, whatever else is configured and however
little room the element has. As long as nothing ends the protection or switches the scheduler off,
the payload begins with it from the first pass on.
-/

import RestrictedAccess.Proofs.Scheduler.Announcement
import RestrictedAccess.Proofs.Scheduler.InternalWindows
import RestrictedAccess.Proofs.Scheduler.Switching

namespace RestrictedAccess

open Station

/-- What a receiver reads of the window that protects a station. The duration of the slot is rounded
down to a whole step. -/
def protectionAssignment (aid : Aid) : Assignment :=
  { kind := .generic
    slot := { count := 1, duration := 32660, crossesBoundary := false }
    startTime := none
    group := some ⟨aid, aid⟩
    channel := none
    periodic := none }

theorem onAir_announced_protectionWindow (aids : AidList) {aid : Aid} (announceable : aid ≤ 2047) :
    ((protectionWindow aid).announced aids).onAir = protectionAssignment aid := by
  have reduced : aid % 2048 = aid := by
    apply UInt16.toNat_inj.mp
    rw [UInt16.toNat_mod]
    exact Nat.mod_eq_of_lt (Nat.lt_succ_of_le (UInt16.le_iff_toNat_le.mp announceable))
  have group : AidRange.onAir ⟨aid, aid⟩ = ⟨aid, aid⟩ := by
    rw [AidRange.onAir_eq, reduced]
  have slot : SlotDefinition.decode (SlotDefinition.encode ⟨1, protectionDuration, false⟩) =
      ⟨1, 32660, false⟩ := by decide
  unfold Assignment.onAir protectionAssignment
  rw [← group, ← slot]
  rfl

namespace Registry

/-- An active plain window with the highest identifier comes first when they are read from the
top. -/
theorem Sound.reverse_plain_of_greatest {registry : Registry} (sound : registry.Sound)
    {id : WindowId} (member : id ∈ registry.plain)
    (greatest : ∀ other, other ∈ registry.plain → other ≤ id) :
    ∃ others, registry.plain.reverse = id :: others := by
  have ascending := sound.plainAscending
  obtain ⟨below, above, split⟩ := List.append_of_mem member
  rw [split] at ascending greatest
  have none : above = [] := by
    rw [List.eq_nil_iff_forall_not_mem]
    intro other later
    have higher : id < other :=
      (List.pairwise_cons.mp (List.pairwise_append.mp ascending).2.1).1 other later
    have lower : other ≤ id :=
      greatest other (List.mem_append_right below (List.mem_cons_of_mem id later))
    exact UInt16.not_lt.mpr lower higher
  refine ⟨below.reverse, ?_⟩
  rw [split, none, List.reverse_append]
  rfl

end Registry

namespace Scheduler

variable {scheduler : Scheduler} {aid : Aid}

/-! ### The window in a pass -/

structure Scanning (scheduler : Scheduler) (aid : Aid) : Prop where
  reachable : Reachable scheduler
  enabled : scheduler.enabled = true
  protects : scheduler.Protects aid

theorem Scanning.greatest (scanning : scheduler.Scanning aid) {other : WindowId}
    (member : other ∈ scheduler.registry.plain) : other ≤ protectionId := by
  have stored := scanning.reachable.allStored WindowConfig.lasting_inReachOrProtection
  obtain ⟨window, found, _⟩ := scanning.reachable.sound.registry.plainStored other member
  have filed : window.id = other := scanning.reachable.sound.registry.filed other window found
  by_cases reserved : firstInternalId ≤ other
  · have known := stored other window found reserved
    rw [known] at filed
    rw [← filed]
    exact UInt16.le_refl protectionId
  · have below : firstInternalId ≤ protectionId := by decide
    exact UInt16.le_trans (UInt16.le_of_lt (UInt16.not_le.mp reserved)) below

theorem Scanning.selection (scanning : scheduler.Scanning aid) :
    ∃ others, scheduler.selection = protectionId :: others := by
  have sound := scanning.reachable.sound
  obtain ⟨others, order⟩ := sound.registry.reverse_plain_of_greatest
    (of_decide_eq_true scanning.protects.active) (fun _ member => scanning.greatest member)
  obtain ⟨further, scheduled⟩ :
      ∃ further, scheduler.announcementOrder = protectionId :: further := by
    unfold announcementOrder
    rw [order]
    split <;> exact ⟨_, rfl⟩
  obtain ⟨room, positive⟩ := Nat.exists_eq_succ_of_ne_zero
    (Nat.pos_iff_ne_zero.mp scanning.reachable.room)
  refine ⟨further.take room, ?_⟩
  unfold Scheduler.selection
  rw [sound.scheduled_eq, scheduled, positive, List.take_succ_cons]

theorem Scanning.passWindow?_eq (scanning : scheduler.Scanning aid) :
    scheduler.passWindow? protectionId = some (protectionWindow aid) := by
  have reserved : firstInternalId ≤ protectionId := by decide
  have notPeriodic := not_periodic_of_internal scanning.reachable.sound.registry reserved
  have fixed := (sound_protectionWindow aid).resolveIndices_of_internal reserved
    scheduler.stations.members
  unfold passWindow?
  simp only [scanning.protects.stored, Option.map_some, notPeriodic, and_false, if_false, fixed,
    ite_self]

def BeginsWithProtection (scheduler : Scheduler) (aid : Aid) : Prop :=
  ∃ others, ParameterSet.decode scheduler.payload = .ok ⟨protectionAssignment aid :: others⟩

theorem Scanning.beginsWithProtection_pass (scanning : scheduler.Scanning aid)
    (announceable : aid ≤ 2047) : (scheduler.after .pass).BeginsWithProtection aid := by
  have sound := scanning.reachable.sound
  obtain ⟨_, passed⟩ := sound.runPass_enabled scanning.enabled
  obtain ⟨others, selection⟩ := scanning.selection
  have found : scheduler.passCount.registry.find? protectionId = some (protectionWindow aid) :=
    (sound.find?_passCount protectionId).trans scanning.passWindow?_eq
  have payload := passed.payload
  rw [selection, Element.announcements_cons found] at payload
  have decoded := ParameterSet.decode_payloadOf
    ((protectionWindow aid).announced scheduler.passAids ::
      Element.announcements scheduler.passCount.registry scheduler.passAids others)
  rw [← payload, List.map_cons, onAir_announced_protectionWindow _ announceable] at decoded
  exact ⟨_, decoded⟩

/-! ### Traffic during a scan -/

/-- The operations that neither end the protection of a station nor switch the scheduler off. A
command may do what it likes to the window it names. -/
inductive KeepsScan (aid : Aid) : Operation → Prop
  | command {command : Command} (named : command.id ≠ engineId) : KeepsScan aid (.command command)
  | associate (station : Aid) : KeepsScan aid (.associate station)
  | disassociate (station : Aid) : KeepsScan aid (.disassociate station)
  | beaconSent : KeepsScan aid .beaconSent
  | triggerUpdate (refreshAids : Bool) : KeepsScan aid (.triggerUpdate refreshAids)
  | pass : KeepsScan aid .pass
  | enable : KeepsScan aid .enable
  | setDtimPeriod (period : UInt8) : KeepsScan aid (.setDtimPeriod period)
  | installProtection : KeepsScan aid (.installProtection aid)

theorem KeepsScan.lasts {operation : Operation} (keeps : KeepsScan aid operation) :
    ¬ EndsProtection aid operation := by
  intro ends
  cases ends with
  | removed => cases keeps
  | tornDown => cases keeps
  | moved different =>
      cases keeps
      exact different rfl
  | deleted engine _ =>
      cases keeps with
      | command named => exact named engine

theorem KeepsScan.staysOn {operation : Operation} (keeps : KeepsScan aid operation) :
    operation.switchesTo?.getD true = true := by
  cases keeps with
  | command named =>
      unfold Operation.switchesTo?
      simp only [if_neg named, Option.getD_none]
  | associate station => rfl
  | disassociate station => rfl
  | beaconSent => rfl
  | triggerUpdate refreshAids => rfl
  | pass => rfl
  | enable => rfl
  | setDtimPeriod period => rfl
  | installProtection => rfl

theorem scanning_installProtection (reachable : Reachable scheduler) (aid : Aid) :
    (scheduler.after (.installProtection aid)).Scanning aid :=
  { reachable := .performed _ reachable
    enabled := reachable.sound.enabled_after (.installProtection aid)
    protects := protects_installProtection reachable.sound
      (reachable.allStored WindowConfig.lasting_inReachOrProtection) aid }

theorem Scanning.after (scanning : scheduler.Scanning aid) {operation : Operation}
    (keeps : KeepsScan aid operation) : (scheduler.after operation).Scanning aid := by
  have sound := scanning.reachable.sound
  have known := scanning.reachable.allStored WindowConfig.lasting_inReachOrProtection
  refine
    { reachable := .performed operation scanning.reachable
      enabled := ?_
      protects := (protects_after_iff sound known scanning.protects operation).mpr keeps.lasts }
  rw [sound.enabled_after, scanning.enabled]
  exact keeps.staysOn

theorem Scanning.afterAll (scanning : scheduler.Scanning aid) {history : List Operation}
    (keeps : ∀ operation, operation ∈ history → KeepsScan aid operation) :
    (scheduler.afterAll history).Scanning aid := by
  have kept (current : Scheduler) (operation : Operation) (keeps : KeepsScan aid operation)
      (earlier : current.Scanning aid) : (current.after operation).Scanning aid :=
    earlier.after keeps
  exact afterAll_kept_while kept scanning keeps

theorem BeginsWithProtection.after (begins : scheduler.BeginsWithProtection aid)
    (scanning : scheduler.Scanning aid) (announceable : aid ≤ 2047) {operation : Operation}
    (keeps : KeepsScan aid operation) : (scheduler.after operation).BeginsWithProtection aid := by
  by_cases pass : operation = .pass
  · subst pass
    exact scanning.beginsWithProtection_pass announceable
  · have upright : operation ≠ .teardown := by
      rintro rfl
      cases keeps
    unfold BeginsWithProtection
    rw [(scheduler.switchedTo_after pass upright).payload]
    exact begins

theorem BeginsWithProtection.afterAll (begins : scheduler.BeginsWithProtection aid)
    (scanning : scheduler.Scanning aid) (announceable : aid ≤ 2047) {history : List Operation}
    (keeps : ∀ operation, operation ∈ history → KeepsScan aid operation) :
    (scheduler.afterAll history).BeginsWithProtection aid := by
  have kept (current : Scheduler) (operation : Operation) (keeps : KeepsScan aid operation)
      (holds : current.Scanning aid ∧ current.BeginsWithProtection aid) :=
    And.intro (holds.1.after keeps) (holds.2.after holds.1 announceable keeps)
  exact (afterAll_kept_while kept ⟨scanning, begins⟩ keeps).2

structure ScanProtected (scheduler : Scheduler) (aid : Aid) : Prop where
  installed : (scheduler.installProtection aid).2 = .ok true
  passes : ∀ past, (∀ operation, operation ∈ past → KeepsScan aid operation) →
    ((scheduler.after (.installProtection aid)).afterAll past).runPass.answer = .ok ()
  /-- Every pass puts the protection first, and what comes later leaves it there. -/
  announced : ∀ past rest,
    (∀ operation, operation ∈ past ++ .pass :: rest → KeepsScan aid operation) →
    ((scheduler.after (.installProtection aid)).afterAll
      (past ++ .pass :: rest)).BeginsWithProtection aid

/-- Neither the windows that are configured nor the room of the element displace the protection of a
scan from the payload. -/
theorem scan_protected (reachable : Reachable scheduler) (announceable : aid ≤ 2047) :
    scheduler.ScanProtected aid := by
  have start := scanning_installProtection reachable aid
  refine { installed := ?_, passes := ?_, announced := ?_ }
  · obtain ⟨active, _, installed⟩ := scheduler.installProtection_eq aid
    rw [installed]
  · intro past keeps
    have scanning := start.afterAll keeps
    exact (scanning.reachable.sound.runPass_enabled scanning.enabled).1
  · intro past rest keeps
    have before : (Scheduler.afterAll _ past).Scanning aid := start.afterAll
      (fun operation member => keeps operation (List.mem_append_left _ member))
    have passed := before.beginsWithProtection_pass announceable
    have split : (scheduler.after (.installProtection aid)).afterAll (past ++ .pass :: rest) =
        (((scheduler.after (.installProtection aid)).afterAll past).after .pass).afterAll rest :=
      List.foldl_append
    rw [split]
    exact passed.afterAll (before.after .pass) announceable
      (fun operation member => keeps operation
        (List.mem_append_right past (List.mem_cons_of_mem _ member)))

def scanWindows : List Operation :=
  [.command
      { id := 0x7FFF
        flags := { enable := true, delete := false, update := true }
        fields := [.slots 4000 4 false, .group 3 7, .spread 0 1] },
    .command
      { id := 1
        flags := { enable := true, delete := false, update := true }
        fields := [.slots 4000 4 false, .group 3 7, .periodic 4 2 0 false] },
    .associate 3]

def scanTraffic : List Operation :=
  [.associate 7, .pass,
    .command
      { id := 0x7FFE
        flags := { enable := true, delete := false, update := true }
        fields := [.slots 90000 2 true, .group 1 2, .startTime 5000] },
    .command
      { id := protectionId
        flags := { enable := false, delete := true, update := false }
        fields := [] },
    .beaconSent, .setDtimPeriod 3, .disassociate 3, .installProtection 7, .triggerUpdate true]

theorem scan_protected_with_room_for_one :
    ∃ fresh, create .accessPoint { SchedulerOptions.standard with maxAssignments := 1 } =
        .ok fresh ∧
      Reachable (fresh.afterAll scanWindows) ∧ (7 : Aid) ≤ 2047 ∧
      (∀ operation, operation ∈ scanTraffic → KeepsScan 7 operation) ∧
      (((fresh.afterAll scanWindows).after (.installProtection 7)).afterAll
        scanTraffic).announcementOrder = [protectionId, 0x7FFF, 0x7FFE, 1] ∧
      (fresh.afterAll scanWindows).ScanProtected 7 := by
  have creation : create .accessPoint { SchedulerOptions.standard with maxAssignments := 1 } =
      .ok _ := rfl
  have reachable := (Reachable.created creation).afterAll scanWindows
  refine ⟨_, creation, reachable, by decide, ?_, by decide +kernel,
    scan_protected reachable (by decide)⟩
  intro operation member
  simp only [scanTraffic, List.mem_cons, List.not_mem_nil, or_false] at member
  rcases member with rfl | rfl | rfl | rfl | rfl | rfl | rfl | rfl | rfl
  · exact .associate 7
  · exact .pass
  · exact .command (by decide)
  · exact .command (by decide)
  · exact .beaconSent
  · exact .setDtimPeriod 3
  · exact .disassociate 3
  · exact .installProtection
  · exact .triggerUpdate true

end Scheduler

end RestrictedAccess
