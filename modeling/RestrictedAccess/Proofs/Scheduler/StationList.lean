/-
The list of the associated stations. The last notice about a station decides whether it is
associated. A change of the set of stations is remembered until an enabled pass has listed it,
however long the scheduler is disabled meanwhile, and the list in use is exact whenever no change
is remembered.
-/

import Mathlib.Data.List.Induction
import RestrictedAccess.Proofs.Scheduler.ListFreshness

namespace RestrictedAccess

open Station

namespace Scheduler

variable {scheduler : Scheduler} {history : List Operation}

/-! ### Associated stations -/

/-- Whether the last notice about a station is that it associated. Notices about identifiers that no
station can hold are refused. -/
def associatedIn (history : List Operation) (aid : Aid) : Bool :=
  Bitmap.isValidAid aid && (history.reverse.findSome? (Operation.reports? aid)).getD false

theorem stations_takeStations_of_ok (scheduler : Scheduler) (stations : Bitmap) (changed : Bool) :
    (scheduler.takeStations (.ok (stations, changed))).1.stations =
      if changed then stations else scheduler.stations := by
  cases changed with
  | false => rfl
  | true =>
      rw [takeStations_changed]
      rfl

theorem Sound.contains_associate (sound : scheduler.Sound) (station aid : Aid) :
    (scheduler.stationAssociated station).1.stations.contains aid = true ↔
      Bitmap.isValidAid aid = true ∧
        (station = aid ∨ scheduler.stations.contains aid = true) := by
  unfold stationAssociated
  by_cases valid : Bitmap.isValidAid station = true
  · obtain ⟨next, inserted, contains⟩ := sound.stations.insert_eq valid
    have added : next.contains aid = true ↔ Bitmap.isValidAid aid = true ∧
        (station = aid ∨ scheduler.stations.contains aid = true) := by
      rw [contains, Bool.or_eq_true, decide_eq_true_iff, eq_comm]
      refine ⟨fun present => ⟨?_, present⟩, And.right⟩
      rcases present with same | already
      · exact same ▸ valid
      · exact sound.stations.valid_of_contains already
    rw [inserted, stations_takeStations_of_ok]
    cases present : scheduler.stations.contains station with
    | false => exact added
    | true =>
        -- The station was there already, so the set with it added is the same set.
        rw [← added, contains]
        by_cases same : aid = station
        · simp [same, present]
        · simp [same]
  · have refused : scheduler.stations.insert station = .error (.aidOutOfRange station) :=
      if_neg valid
    rw [refused]
    constructor
    · intro present
      exact ⟨sound.stations.valid_of_contains present, Or.inr present⟩
    · rintro ⟨validAid, same | present⟩
      · exact absurd (same ▸ validAid) valid
      · exact present

theorem Sound.contains_disassociate (sound : scheduler.Sound) (station aid : Aid) :
    (scheduler.stationDisassociated station).1.stations.contains aid = true ↔
      station ≠ aid ∧ scheduler.stations.contains aid = true := by
  unfold stationDisassociated
  by_cases valid : Bitmap.isValidAid station = true
  · obtain ⟨next, erased, contains⟩ := sound.stations.erase_eq valid
    have removed : next.contains aid = true ↔
        station ≠ aid ∧ scheduler.stations.contains aid = true := by
      rw [contains, Bool.and_eq_true, Bool.not_eq_true', decide_eq_false_iff_not, ne_comm]
    rw [erased, stations_takeStations_of_ok]
    cases present : scheduler.stations.contains station with
    | true => exact removed
    | false =>
        rw [← removed, contains]
        by_cases same : aid = station
        · simp [same, present]
        · simp [same]
  · have refused : scheduler.stations.erase station = .error (.aidOutOfRange station) :=
      if_neg valid
    rw [refused]
    refine ⟨fun present => ⟨?_, present⟩, And.right⟩
    intro same
    exact valid (same ▸ sound.stations.valid_of_contains present)

/-- An operation that reports a station decides whether it is associated. -/
theorem Sound.contains_after (sound : scheduler.Sound) (operation : Operation) (aid : Aid) :
    (scheduler.after operation).stations.contains aid = true ↔
      Bitmap.isValidAid aid = true ∧
        (operation.reports? aid).getD (scheduler.stations.contains aid) = true := by
  have unreported {next : Scheduler} (kept : next.stations = scheduler.stations) :
      next.stations.contains aid = true ↔
        Bitmap.isValidAid aid = true ∧ scheduler.stations.contains aid = true := by
    rw [kept]
    exact ⟨fun present => ⟨sound.stations.valid_of_contains present, present⟩, And.right⟩
  cases operation with
  | associate station =>
      refine (sound.contains_associate station aid).trans (and_congr_right (fun _ => ?_))
      unfold Operation.reports?
      by_cases same : station = aid
      · simp [same]
      · simp [same]
  | disassociate station =>
      refine (sound.contains_disassociate station aid).trans ?_
      unfold Operation.reports?
      by_cases same : station = aid
      · simp [same]
      · simp only [same, if_false, Option.getD_none, ne_eq, not_false_eq_true, true_and]
        exact unreported rfl
  | _ =>
      apply unreported
      apply sound.stations_after_of_unreported
      exact fun _ => rfl

theorem associatedIn_concat (history : List Operation) (operation : Operation) (aid : Aid) :
    associatedIn (history ++ [operation]) aid =
      (Bitmap.isValidAid aid &&
        (operation.reports? aid).getD
          ((history.reverse.findSome? (Operation.reports? aid)).getD false)) := by
  unfold associatedIn
  rw [List.reverse_concat, List.findSome?_cons]
  cases operation.reports? aid with
  | none => rfl
  | some associated => rfl

theorem contains_afterAll {kind : InterfaceKind} {options : SchedulerOptions} {fresh : Scheduler}
    (creation : create kind options = .ok fresh) (history : List Operation) (aid : Aid) :
    (fresh.afterAll history).stations.contains aid = associatedIn history aid := by
  have blank := blank_of_create creation
  have sound := sound_of_create creation
  induction history using List.reverseRecOn with
  | nil =>
      have none : Bitmap.empty.contains aid = false := by
        apply eq_false_of_ne_true
        intro present
        have listed := (Bitmap.sound_empty.mem_members aid).mpr present
        rw [Bitmap.members_empty] at listed
        cases listed
      have silent : associatedIn [] aid = false := Bool.and_false _
      rw [silent]
      exact blank.stations ▸ none
  | append_singleton past operation ih =>
      have last := (sound.afterAll past).contains_after operation aid
      rw [afterAll_concat, Bool.eq_iff_iff, last, associatedIn_concat, Bool.and_eq_true]
      refine and_congr_right (fun valid => ?_)
      rw [ih]
      unfold associatedIn
      rw [valid, Bool.true_and]

/-! ### Changes that are remembered -/

/-- A change of the set of stations asks for a fresh list. -/
theorem Sound.wished_of_changed (sound : scheduler.Sound) {operation : Operation}
    (changed : (scheduler.after operation).stations ≠ scheduler.stations) :
    (scheduler.after operation).pending.refreshAids = true := by
  have taken (change : Except Fault (Bitmap × Bool))
      (changed : (scheduler.takeStations change).1.stations ≠ scheduler.stations) :
      (scheduler.takeStations change).1.pending.refreshAids = true := by
    cases change with
    | error fault => exact absurd rfl changed
    | ok pair =>
        rcases pair with ⟨stations, effective⟩
        cases effective with
        | false => exact absurd rfl changed
        | true => rw [takeStations_changed]
  cases operation with
  | associate aid => exact taken _ changed
  | disassociate aid => exact taken _ changed
  | _ =>
      refine absurd (sound.stations_after_of_unreported ?_) changed
      exact fun _ => rfl

def RefreshingPass (scheduler : Scheduler) (operation : Operation) : Prop :=
  operation = .pass ∧ scheduler.enabled = true

theorem refreshAids_after_of_none (wished : scheduler.pending.refreshAids = true)
    {operation : Operation} (upright : operation ≠ .teardown)
    (none : ¬ RefreshingPass scheduler operation) :
    (scheduler.after operation).pending.refreshAids = true := by
  by_cases pass : operation = .pass
  · subst pass
    have disabled : scheduler.enabled = false :=
      eq_false_of_ne_true (fun enabled => none ⟨rfl, enabled⟩)
    change scheduler.runPass.scheduler.pending.refreshAids = true
    rw [runPass_disabled disabled]
    exact wished
  · exact scheduler.refreshAids_after pass upright wished

theorem refreshAids_afterAll (wished : scheduler.pending.refreshAids = true)
    (upright : .teardown ∉ history) (none : AtNoStep RefreshingPass scheduler history) :
    (scheduler.afterAll history).pending.refreshAids = true := by
  induction history generalizing scheduler with
  | nil => exact wished
  | cons operation rest ih =>
      have first : operation ≠ .teardown := fun same => upright (same ▸ List.mem_cons_self)
      have next := refreshAids_after_of_none wished first (none [] operation rest rfl)
      apply ih next (fun later => upright (List.mem_cons_of_mem operation later))
      intro past event later split
      exact none (operation :: past) event later (congrArg (List.cons operation) split)

/-! ### The list -/

/-- The list holds exactly the associated stations of a history, in ascending order. -/
structure ListsStations (history : List Operation) (aids : AidList) : Prop where
  ascending : aids.aids.Pairwise (fun earlier later => earlier < later)
  exact : ∀ aid, aid ∈ aids.aids ↔ associatedIn history aid = true

structure FollowsStations (fresh : Scheduler) (history : List Operation) : Prop where
  associated : ∀ aid,
    (fresh.afterAll history).stations.contains aid = associatedIn history aid
  listed : (fresh.afterAll history).pending.refreshAids = false →
    ListsStations history (fresh.afterAll history).aids
  /-- An enabled pass makes the payload from an exact list. -/
  passed : (fresh.afterAll history).enabled = true →
    (fresh.afterAll history).runPass.answer = .ok () ∧
      ListsStations history (fresh.afterAll history).runPass.scheduler.aids ∧
      (fresh.afterAll history).runPass.scheduler.payload = ParameterSet.payloadOf
        (Element.announcements (fresh.afterAll history).passCount.registry
          (fresh.afterAll history).runPass.scheduler.aids (fresh.afterAll history).selection)
  /-- A change of the stations is remembered until an enabled pass lists it. -/
  remembered : ∀ past change rest, history = past ++ change :: rest →
    ((fresh.afterAll past).after change).stations ≠ (fresh.afterAll past).stations →
    AtNoStep RefreshingPass ((fresh.afterAll past).after change) rest →
    (fresh.afterAll history).pending.refreshAids = true

/-- Without a teardown no change of the stations is lost on the way to the payload. -/
theorem stations_followed {kind : InterfaceKind} {options : SchedulerOptions} {fresh : Scheduler}
    (creation : create kind options = .ok fresh) (upright : .teardown ∉ history) :
    fresh.FollowsStations history := by
  have standing : Standing (fresh.afterAll history) := (Standing.created creation).afterAll upright
  have sound := standing.reachable.sound
  have members : ListsStations history (fresh.afterAll history).stations.members := by
    refine { ascending := Bitmap.ascending_members _, exact := ?_ }
    intro aid
    rw [sound.stations.mem_members, contains_afterAll creation]
  refine
    { associated := contains_afterAll creation history
      listed := ?_
      passed := ?_
      remembered := ?_ }
  · intro unwished
    rw [standing.listExact unwished]
    exact members
  · intro enabled
    obtain ⟨answer, passed⟩ := sound.runPass_enabled enabled
    rw [passed.aids]
    exact ⟨answer, standing.passAids_eq ▸ members, passed.payload⟩
  · rintro past change rest rfl changed none
    have before := (sound_of_create creation).afterAll past
    have split : fresh.afterAll (past ++ change :: rest) =
        ((fresh.afterAll past).after change).afterAll rest := List.foldl_append
    rw [split]
    refine refreshAids_afterAll (before.wished_of_changed changed) ?_ none
    exact fun later => upright (List.mem_append_right past (List.mem_cons_of_mem change later))

/-- Two stations are listed before the scheduler is disabled. Until it is enabled again one of them
leaves and another one comes, and notices are repeated and refused. -/
def absentHistory : List Operation :=
  [.associate 9, .associate 4, .pass, .disable, .associate 4, .associate 0, .disassociate 9, .pass,
    .associate 2, .disassociate 3000, .disassociate 9, .pass, .enable]

theorem stations_followed_in_absentHistory :
    ∃ fresh, create .accessPoint { SchedulerOptions.standard with enabled := true } = .ok fresh ∧
      .teardown ∉ absentHistory ∧
      (fresh.afterAll absentHistory).aids.aids = [4, 9] ∧
      (fresh.afterAll absentHistory).enabled = true ∧
      (fresh.afterAll absentHistory).pending.refreshAids = true ∧
      (fresh.afterAll absentHistory).runPass.scheduler.aids.aids = [2, 4] ∧
      fresh.FollowsStations absentHistory := by
  have creation :
      create .accessPoint { SchedulerOptions.standard with enabled := true } = .ok _ := rfl
  refine ⟨_, creation, by decide, ?_, ?_, ?_, ?_, stations_followed creation (by decide)⟩
  · decide +kernel
  · decide +kernel
  · decide +kernel
  · decide +kernel

end Scheduler

end RestrictedAccess
