/-
The operations of a registry by searches of its active lists. A search can be trusted with
ascending lists only: the operations are done right because the lists are well kept, and the lists
are well kept because the operations are done right. So a registry lives the same life by any
search, and at any time its lists can be relied on.
-/

import Mathlib.Data.List.Nodup
import RestrictedAccess.Proofs.Registry.Actions
import RestrictedAccess.Proofs.Registry.BinarySearch

namespace RestrictedAccess

namespace Search

variable (search : Search)

def contains (ids : List WindowId) (id : WindowId) : Bool :=
  match search.locate ids id with
  | .ok _ => true
  | .error _ => false

def insert (id : WindowId) (ids : List WindowId) : List WindowId :=
  match search.locate ids id with
  | .ok _ => ids
  | .error position => ids.insertIdx position id

def remove? (id : WindowId) (ids : List WindowId) : Option (List WindowId) :=
  match search.locate ids id with
  | .ok position => some (ids.eraseIdx position)
  | .error _ => none

section Lists

variable {search} {ids : List WindowId} {id : WindowId}

variable (ascending : ids.Pairwise (fun earlier later => earlier < later))
include ascending

theorem contains_eq (id : WindowId) : search.contains ids id = decide (id ∈ ids) := by
  unfold contains
  cases located : search.locate ids id with
  | ok position =>
      have member := List.mem_of_getElem? (search.found ascending located)
      exact (decide_eq_true member).symm
  | error position =>
      have absent := (search.missing ascending located).not_mem
      exact (decide_eq_false absent).symm

theorem insert_eq (id : WindowId) (absent : id ∉ ids) :
    search.insert id ids = insertAscending id ids := by
  unfold insert
  cases located : search.locate ids id with
  | ok position => exact absurd (List.mem_of_getElem? (search.found ascending located)) absent
  | error position => exact (search.missing ascending located).insertIdx_eq

theorem remove?_eq (id : WindowId) :
    search.remove? id ids =
      if id ∈ ids then some (ids.filter (fun other => other ≠ id)) else none := by
  unfold remove?
  cases located : search.locate ids id with
  | ok position =>
      have present := search.found ascending located
      obtain ⟨inside, same⟩ := List.getElem?_eq_some_iff.mp present
      have distinct := Registry.nodup_of_ascending ascending
      change some (ids.eraseIdx position) = _
      rw [if_pos (List.mem_of_getElem? present), ← distinct.erase_getElem position inside, same,
        distinct.erase_eq_filter]
      congr 1
      apply List.filter_congr
      intro other _member
      by_cases equal : other = id
      · simp [equal]
      · simp [equal]
  | error position =>
      rw [if_neg ((search.missing ascending located).not_mem)]

end Lists

/-! ### The operations of a registry by a search -/

def membership (registry : Registry) (id : WindowId) : Membership :=
  if search.contains registry.plain id then .plain
  else if search.contains registry.periodic id then .periodic
  else .inactive

def deactivate (registry : Registry) (id : WindowId) : Registry :=
  match search.remove? id registry.plain with
  | some plain => { registry with plain }
  | none =>
      match search.remove? id registry.periodic with
      | some periodic => { registry with periodic }
      | none => registry

def enlist (registry : Registry) (id : WindowId) (window : WindowConfig) : Registry :=
  let cleared := search.deactivate registry id
  if window.isPeriodic then
    { cleared with periodic := search.insert id cleared.periodic }
  else
    { cleared with plain := search.insert id cleared.plain }

def activate (registry : Registry) (id : WindowId) : Except Fault Registry :=
  match registry.find? id with
  | none => .error (.windowNotFound id)
  | some window =>
      match search.membership registry id, window.isPeriodic with
      | .plain, false => .ok registry
      | .periodic, true => .ok registry
      | _, _ => .ok (search.enlist registry id window)

def replace (registry : Registry) (window : WindowConfig) : Except Fault Registry :=
  if window.id = engineId then .error .engineIdStored
  else
    let stored := (search.deactivate registry window.id).put window.id window
    if search.membership registry window.id = .inactive then .ok stored
    else search.activate stored window.id

def delete (registry : Registry) (id : WindowId) : Registry :=
  let cleared := search.deactivate registry id
  { cleared with table := cleared.table.erase id }

def countBeaconFor (count : Registry.BeaconCount) (id : WindowId) : Registry.BeaconCount :=
  match (count.registry.find? id).bind WindowConfig.countdownEvent? with
  | some .expired =>
      { count with
        registry := search.deactivate (count.registry.modify id WindowConfig.counted) id
        expired := count.expired ++ [id] }
  | some .refreshed =>
      { count with
        registry := count.registry.modify id WindowConfig.counted
        anyRefreshed := true }
  | some _ => { count with registry := count.registry.modify id WindowConfig.counted }
  | none => count

def countBeacon (registry : Registry) : Registry.BeaconCount :=
  registry.periodic.foldl search.countBeaconFor ⟨registry, [], false⟩

open Registry (Action)

def attempt (registry : Registry) : Action → Except Fault Registry
  | .edit id change _ => registry.edit id change
  | .replace window => search.replace registry window
  | .activate id => search.activate registry id
  | .deactivate id => .ok (search.deactivate registry id)
  | .delete id => .ok (search.delete registry id)
  | .deleteAll => .ok .empty
  | .countBeacon => .ok (search.countBeacon registry).registry
  | .realign => .ok registry.realign

def after (registry : Registry) (action : Action) : Registry :=
  match search.attempt registry action with
  | .ok later => later
  | .error _ => registry

def afterAll (registry : Registry) (actions : List Action) : Registry :=
  actions.foldl search.after registry

/-! ### Agreement on well kept lists -/

section Agreement

variable {search} {registry : Registry} (listed : registry.WellListed)
include listed

theorem membership_eq (id : WindowId) :
    search.membership registry id = registry.membership id := by
  unfold membership Registry.membership
  simp only [contains_eq listed.plainAscending, contains_eq listed.periodicAscending,
    decide_eq_true_eq]

theorem deactivate_eq (id : WindowId) : search.deactivate registry id = registry.deactivate id := by
  unfold deactivate Registry.deactivate
  rw [remove?_eq listed.plainAscending, remove?_eq listed.periodicAscending]
  by_cases inPlain : id ∈ registry.plain
  · rw [if_pos inPlain, if_pos inPlain]
  · rw [if_neg inPlain, if_neg inPlain]
    by_cases inPeriodic : id ∈ registry.periodic
    · rw [if_pos inPeriodic]
    · -- Nothing is removed, and nothing would be filtered out.
      have kept : registry.periodic.filter (fun other => other ≠ id) = registry.periodic := by
        refine List.filter_eq_self.mpr ?_
        intro other member
        exact decide_eq_true (fun same => inPeriodic (same ▸ member))
      rw [if_neg inPeriodic, kept]

theorem enlist_eq (id : WindowId) (window : WindowConfig) :
    search.enlist registry id window = registry.enlist id window := by
  have cleared := listed.deactivate id
  have absent := listed.not_active_deactivate id
  rw [Registry.active, List.mem_append, not_or] at absent
  unfold enlist Registry.enlist
  simp only [deactivate_eq listed]
  split
  · rw [insert_eq cleared.periodicAscending id absent.2]
  · rw [insert_eq cleared.plainAscending id absent.1]

theorem activate_eq (id : WindowId) : search.activate registry id = registry.activate id := by
  have same : search.membership registry id = registry.membership id := membership_eq listed id
  unfold activate Registry.activate
  cases registry.find? id with
  | none => rfl
  | some window =>
      have enlisted : search.enlist registry id window = registry.enlist id window :=
        enlist_eq listed id window
      cases member : registry.membership id <;> cases scheduled : window.isPeriodic <;>
        simp only [same, enlisted, member, scheduled]

theorem replace_eq (window : WindowConfig) :
    search.replace registry window = registry.replace window := by
  unfold replace Registry.replace
  simp only [deactivate_eq listed, membership_eq listed,
    activate_eq ((listed.deactivate window.id).put window.id window)]

theorem delete_eq (id : WindowId) : search.delete registry id = registry.delete id := by
  unfold delete Registry.delete
  simp only [deactivate_eq listed]

omit listed in
theorem countBeaconFor_eq {count : Registry.BeaconCount} (listed : count.registry.WellListed)
    (id : WindowId) : search.countBeaconFor count id = Registry.countBeaconFor count id := by
  unfold countBeaconFor Registry.countBeaconFor Registry.modify
  cases found : count.registry.find? id with
  | none => rfl
  | some window =>
      cases scheduled : window.periodic with
      | none => simp [WindowConfig.countdownEvent?, scheduled]
      | some schedule =>
          have advanced : { window with periodic := some schedule.advance.1 } = window.counted := by
            simp only [WindowConfig.counted, scheduled, Option.map_some]
          simp only [Option.bind_some, WindowConfig.countdownEvent?, scheduled, Option.map_some,
            advanced]
          cases schedule.advance.2 with
          | running => rfl
          | periodElapsed => rfl
          | refreshed => rfl
          | expired => simp only [deactivate_eq (listed.put id window.counted)]

theorem countBeacon_eq : search.countBeacon registry = registry.countBeacon := by
  have counted (ids : List WindowId) (count : Registry.BeaconCount)
      (before : count.registry.WellListed) :
      ids.foldl search.countBeaconFor count = ids.foldl Registry.countBeaconFor count := by
    induction ids generalizing count with
    | nil => rfl
    | cons id rest ih =>
        rw [List.foldl_cons, List.foldl_cons, countBeaconFor_eq before]
        exact ih _ (Registry.wellListed_countBeaconFor before id)
  exact counted registry.periodic ⟨registry, [], false⟩ listed

theorem attempt_eq (action : Action) :
    search.attempt registry action = registry.attempt action := by
  cases action with
  | edit id change keepsId => rfl
  | replace window => exact replace_eq listed window
  | activate id => exact activate_eq listed id
  | deactivate id => exact congrArg Except.ok (deactivate_eq listed id)
  | delete id => exact congrArg Except.ok (delete_eq listed id)
  | deleteAll => rfl
  | countBeacon => exact congrArg (fun count => Except.ok count.registry) (countBeacon_eq listed)
  | realign => rfl

theorem after_eq (action : Action) : search.after registry action = registry.after action := by
  have same : search.attempt registry action = registry.attempt action := attempt_eq listed action
  unfold after Registry.after
  cases attempted : registry.attempt action with
  | ok later => simp only [same, attempted]
  | error fault => simp only [same, attempted]

omit listed in
theorem afterAll_eq (lived : registry.Lived) (actions : List Action) :
    search.afterAll registry actions = registry.afterAll actions := by
  unfold afterAll Registry.afterAll
  induction actions generalizing registry with
  | nil => rfl
  | cons action rest ih =>
      rw [List.foldl_cons, List.foldl_cons, after_eq lived.listed]
      exact ih (lived.acted_after action).lived

end Agreement

structure Serves (search : Search) (registry : Registry) : Prop where
  membership : ∀ id, search.membership registry id = registry.membership id
  attempt : ∀ action, search.attempt registry action = registry.attempt action

/-- Whatever is done to a registry, any search does it alike, and the lists can be relied on. -/
theorem registry_reliable (search : Search) (actions : List Action) :
    search.afterAll .empty actions = Registry.empty.afterAll actions ∧
      search.Serves (Registry.empty.afterAll actions) ∧
      (Registry.empty.afterAll actions).Reliable := by
  have lived := Registry.lived_empty.afterAll actions
  refine ⟨afterAll_eq Registry.lived_empty actions, ?_, lived.reliable⟩
  exact
    { membership := membership_eq lived.listed
      attempt := attempt_eq lived.listed }

/-- Two active windows that change where they are stored. One gets a schedule and stays on the
plain list, and the other is put on the periodic list before it loses its schedule. -/
def turningActions : List Action :=
  let schedule (periodic : Option PeriodicSchedule) (window : WindowConfig) : WindowConfig :=
    { window with periodic }
  let pace := PeriodicSchedule.new 4 2 0 false
  [.edit 5 (schedule none) (fun _ same => same), .activate 5,
    .edit 5 (schedule (some pace)) (fun _ same => same),
    .edit 3 (schedule none) (fun _ same => same), .activate 3,
    .edit 3 (schedule (some pace)) (fun _ same => same), .activate 3, .countBeacon,
    .edit 3 (schedule none) (fun _ same => same), .countBeacon, .realign]

theorem registry_reliable_after_turningActions :
    (Registry.empty.afterAll turningActions).plain = [5] ∧
      (Registry.empty.afterAll turningActions).periodic = [3] ∧
      ((Registry.empty.afterAll turningActions).find? 5).map WindowConfig.isPeriodic = some true ∧
      ((Registry.empty.afterAll turningActions).find? 3).map WindowConfig.isPeriodic = some false ∧
      halving.afterAll .empty turningActions = Registry.empty.afterAll turningActions ∧
      (Registry.empty.afterAll turningActions).Reliable := by
  obtain ⟨same, _, reliable⟩ := registry_reliable halving turningActions
  refine ⟨?_, ?_, ?_, ?_, same, reliable⟩
  · decide +kernel
  · decide +kernel
  · decide +kernel
  · decide +kernel

end Search

end RestrictedAccess
