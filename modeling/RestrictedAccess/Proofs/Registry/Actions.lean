/-
The life of a registry of its own, apart from any scheduler. Its operations are taken as data, and
among them is the change of a window where it is stored, after which the window may be active on
the list that does not match it. The lists are well kept throughout, every window carries the key it
is filed under, and an action that names a window leaves every other window where it was and as it
was.
-/

import RestrictedAccess.Proofs.Registry.RunningState

namespace RestrictedAccess.Registry

inductive Action
  /-- Change a window where it is stored. It is stored empty first if it was not there. The change
  may write over the whole window, but not by one with another identifier. -/
  | edit (id : WindowId) (change : WindowConfig → WindowConfig)
      (keepsId : ∀ window, window.id = id → (change window).id = id)
  | replace (window : WindowConfig)
  | activate (id : WindowId)
  | deactivate (id : WindowId)
  | delete (id : WindowId)
  | deleteAll
  | countBeacon
  | realign

def Action.target? : Action → Option WindowId
  | .edit id _ _ => some id
  | .replace window => some window.id
  | .activate id => some id
  | .deactivate id => some id
  | .delete id => some id
  | .deleteAll => none
  | .countBeacon => none
  | .realign => none

def edit (registry : Registry) (id : WindowId) (change : WindowConfig → WindowConfig) :
    Except Fault Registry :=
  match registry.findOrCreate id with
  | .error fault => .error fault
  | .ok (stored, window) => .ok (stored.put id (change window))

def attempt (registry : Registry) : Action → Except Fault Registry
  | .edit id change _ => registry.edit id change
  | .replace window => registry.replace window
  | .activate id => registry.activate id
  | .deactivate id => .ok (registry.deactivate id)
  | .delete id => .ok (registry.delete id)
  | .deleteAll => .ok .empty
  | .countBeacon => .ok registry.countBeacon.registry
  | .realign => .ok registry.realign

/-- An action that fails changes nothing. -/
def after (registry : Registry) (action : Action) : Registry :=
  match registry.attempt action with
  | .ok later => later
  | .error _ => registry

def afterAll (registry : Registry) (actions : List Action) : Registry :=
  actions.foldl after registry

/-! ### One action -/

structure Lived (registry : Registry) : Prop where
  listed : registry.WellListed
  filed : registry.Filed
  named : registry.find? engineId = none

theorem lived_empty : Registry.empty.Lived :=
  { listed := wellListed_empty
    filed := allStored_empty _
    named := rfl }

structure Acted (action : Action) (earlier later : Registry) : Prop where
  lived : later.Lived
  confined : ∀ id, action.target? = some id → AgreeOff id earlier later

/-- An action on one window says nothing of the engine's identifier unless it is about that. -/
theorem Acted.of_agreeOff {action : Action} {id : WindowId} {earlier later : Registry}
    (lived : earlier.Lived) (target : action.target? = some id) (listed : later.WellListed)
    (filed : later.Filed) (agree : AgreeOff id earlier later)
    (named : id = engineId → later.find? engineId = none) : Acted action earlier later := by
  refine { lived := { listed := listed, filed := filed, named := ?_ }, confined := ?_ }
  · by_cases engine : id = engineId
    · exact named engine
    · rw [agree.found engineId (Ne.symm engine)]
      exact lived.named
  · intro other same
    rw [target] at same
    cases same
    exact agree

section OneAction

variable {registry later : Registry}

theorem Lived.acted_edit (lived : registry.Lived) {id : WindowId}
    {change : WindowConfig → WindowConfig}
    (keepsId : ∀ window, window.id = id → (change window).id = id)
    (edited : registry.edit id change = .ok later) :
    Acted (.edit id change keepsId) registry later := by
  unfold edit findOrCreate at edited
  by_cases engine : id = engineId
  · rw [if_pos engine] at edited
    cases edited
  · rw [if_neg engine] at edited
    have written {stored : Registry} (listed : stored.WellListed) (filed : stored.Filed)
        (agree : AgreeOff id registry stored) {window : WindowConfig}
        (carried : window.id = id) :
        Acted (.edit id change keepsId) registry (stored.put id (change window)) :=
      .of_agreeOff lived rfl (listed.put id _) (filed.put (keepsId window carried))
        (agree.trans (agreeOff_put stored id _)) (fun same => absurd same engine)
    cases found : registry.find? id with
    | none =>
        rw [found] at edited
        cases edited
        have carried : (WindowConfig.empty id).id = id := rfl
        exact written (lived.listed.put id _) (lived.filed.put carried)
          (agreeOff_put registry id _) carried
    | some window =>
        rw [found] at edited
        cases edited
        exact written lived.listed lived.filed (AgreeOff.refl id registry)
          (lived.filed id window found)

theorem Lived.acted_replace (lived : registry.Lived) {window : WindowConfig}
    (replaced : registry.replace window = .ok later) :
    Acted (.replace window) registry later := by
  by_cases engine : window.id = engineId
  · unfold Registry.replace at replaced
    rw [if_pos engine] at replaced
    cases replaced
  · have filed : later.Filed := lived.filed.replace rfl replaced
    obtain ⟨_, outcome, listed, agree, _⟩ := lived.listed.replace engine
    cases outcome.symm.trans replaced
    exact .of_agreeOff lived rfl listed filed agree (fun same => absurd same engine)

theorem Lived.activate (lived : registry.Lived) {id : WindowId} {window : WindowConfig}
    (found : registry.find? id = some window) :
    window.id = id ∧ ∃ later, registry.activate id = .ok later ∧ later.WellListed ∧
      Matched window later ∧ AgreeOff id registry later := by
  have carried : window.id = id := lived.filed id window found
  subst carried
  exact ⟨rfl, lived.listed.activate found⟩

theorem Lived.acted_activate (lived : registry.Lived) {id : WindowId}
    (activated : registry.activate id = .ok later) : Acted (.activate id) registry later := by
  obtain ⟨window, found⟩ := stored_of_activate activated
  obtain ⟨_, _, outcome, listed, _, agree⟩ := lived.activate found
  cases outcome.symm.trans activated
  refine .of_agreeOff lived rfl listed (lived.filed.activate activated) agree ?_
  intro engine
  rw [engine, lived.named] at found
  cases found

theorem Lived.acted_countBeacon (lived : registry.Lived) :
    Acted .countBeacon registry registry.countBeacon.registry := by
  refine
    { lived :=
        { listed := lived.listed.countBeacon
          filed := lived.filed.countBeacon (fun _ _ carried => carried)
          named := ?_ }
      confined := nofun }
  have stored := isSome_find?_countBeacon registry engineId
  rw [lived.named] at stored
  exact Option.isNone_iff_eq_none.mp (Option.isSome_eq_false_iff.mp stored)

theorem Lived.acted_realign (lived : registry.Lived) :
    Acted .realign registry registry.realign := by
  have distinct := nodup_of_ascending lived.listed.periodicAscending
  have whole : registry.realign = registry.modifyAll registry.periodic WindowConfig.realigned := rfl
  rw [whole]
  refine
    { lived :=
        { listed := lived.listed.modifyAll distinct WindowConfig.realigned
          filed := lived.filed.modifyAll registry.periodic (fun _ _ carried => carried)
          named := ?_ }
      confined := nofun }
  rw [find?_modifyAll registry distinct WindowConfig.realigned, lived.named]
  split <;> rfl

theorem Lived.acted (lived : registry.Lived) {action : Action}
    (attempted : registry.attempt action = .ok later) : Acted action registry later := by
  cases action with
  | edit id change keepsId => exact lived.acted_edit keepsId attempted
  | replace window => exact lived.acted_replace attempted
  | activate id => exact lived.acted_activate attempted
  | deactivate id =>
      cases attempted
      refine .of_agreeOff lived rfl (lived.listed.deactivate id) (lived.filed.deactivate id)
        (lived.listed.agreeOff_deactivate id) ?_
      intro _
      rw [find?_deactivate]
      exact lived.named
  | delete id =>
      cases attempted
      refine .of_agreeOff lived rfl (lived.listed.delete id) (lived.filed.delete id)
        (lived.listed.agreeOff_delete id) ?_
      intro engine
      rw [find?_delete, if_pos engine]
  | deleteAll =>
      cases attempted
      exact { lived := lived_empty, confined := nofun }
  | countBeacon =>
      cases attempted
      exact lived.acted_countBeacon
  | realign =>
      cases attempted
      exact lived.acted_realign

theorem Lived.acted_after (lived : registry.Lived) (action : Action) :
    Acted action registry (registry.after action) := by
  unfold after
  cases attempted : registry.attempt action with
  | ok later => exact lived.acted attempted
  | error fault =>
      exact { lived := lived, confined := fun id _ => AgreeOff.refl id registry }

end OneAction

/-! ### All actions -/

theorem Lived.afterAll {registry : Registry} (lived : registry.Lived) (actions : List Action) :
    (registry.afterAll actions).Lived := by
  unfold Registry.afterAll
  induction actions generalizing registry with
  | nil => exact lived
  | cons action rest ih => exact ih (lived.acted_after action).lived

structure Reliable (registry : Registry) : Prop where
  listed : registry.WellListed
  filed : registry.Filed
  silences : ∀ id, (registry.deactivate id).membership id = .inactive
  activates : ∀ id, (∃ later, registry.activate id = .ok later) ↔
    ∃ window, registry.find? id = some window
  activated : ∀ id later, registry.activate id = .ok later →
    ∃ window, registry.find? id = some window ∧ window.id = id ∧ Matched window later
  /-- An active window can always be replaced. -/
  replaced : ∀ window, registry.membership window.id ≠ .inactive →
    ∃ later, registry.replace window = .ok later ∧ Matched window later
  confined : ∀ action id, action.target? = some id → ∀ other, other ≠ id →
    (registry.after action).find? other = registry.find? other ∧
      (registry.after action).membership other = registry.membership other

theorem Lived.reliable {registry : Registry} (lived : registry.Lived) : registry.Reliable := by
  have listed := lived.listed
  refine
    { listed := listed
      filed := lived.filed
      silences := ?_
      activates := ?_
      activated := ?_
      replaced := ?_
      confined := ?_ }
  · intro id
    have inactive := listed.not_active_deactivate id
    rw [mem_active_iff, Classical.not_not] at inactive
    exact inactive
  · intro id
    constructor
    · rintro ⟨later, activated⟩
      exact stored_of_activate activated
    · rintro ⟨window, found⟩
      obtain ⟨_, later, activated, _⟩ := lived.activate found
      exact ⟨later, activated⟩
  · intro id later activated
    obtain ⟨window, found⟩ := stored_of_activate activated
    obtain ⟨carried, _, outcome, _, matched, _⟩ := lived.activate found
    cases outcome.symm.trans activated
    exact ⟨window, found, carried, matched⟩
  · intro window active
    have stored := listed.stored window.id ((mem_active_iff registry window.id).mpr active)
    have named : window.id ≠ engineId := by
      intro engine
      rw [engine, lived.named] at stored
      cases stored
    obtain ⟨later, outcome, _, _, _, matched, _⟩ := listed.replace named
    exact ⟨later, outcome, matched active⟩
  · intro action id target other different
    have agree := (lived.acted_after action).confined id target
    exact ⟨agree.found other different, agree.membership different⟩

end RestrictedAccess.Registry
