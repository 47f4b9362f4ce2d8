/-
Operations on one window leave every other window alone. `AgreeOff` is the frame; activation and
replacement get one statement each that says where the window itself ends up.
-/

import RestrictedAccess.Proofs.Registry.Soundness

namespace RestrictedAccess.Registry

structure AgreeOff (id : WindowId) (earlier later : Registry) : Prop where
  found : ∀ other, other ≠ id → later.find? other = earlier.find? other
  plain : ∀ other, other ≠ id → (other ∈ later.plain ↔ other ∈ earlier.plain)
  periodic : ∀ other, other ≠ id → (other ∈ later.periodic ↔ other ∈ earlier.periodic)

theorem AgreeOff.refl (id : WindowId) (registry : Registry) : AgreeOff id registry registry :=
  { found := fun _ _ => rfl
    plain := fun _ _ => Iff.rfl
    periodic := fun _ _ => Iff.rfl }

theorem AgreeOff.trans {id : WindowId} {first second third : Registry}
    (before : AgreeOff id first second) (after : AgreeOff id second third) :
    AgreeOff id first third :=
  { found := fun other different =>
      (after.found other different).trans (before.found other different)
    plain := fun other different =>
      (after.plain other different).trans (before.plain other different)
    periodic := fun other different =>
      (after.periodic other different).trans (before.periodic other different) }

theorem AgreeOff.mem_active {id other : WindowId} {earlier later : Registry}
    (agree : AgreeOff id earlier later) (different : other ≠ id) :
    other ∈ later.active ↔ other ∈ earlier.active := by
  simp only [active, List.mem_append, agree.plain other different,
    agree.periodic other different]

theorem AgreeOff.membership {id other : WindowId} {earlier later : Registry}
    (agree : AgreeOff id earlier later) (different : other ≠ id) :
    later.membership other = earlier.membership other := by
  unfold Registry.membership
  simp only [agree.plain other different, agree.periodic other different]

section Operations

variable {registry : Registry}

theorem agreeOff_put (registry : Registry) (id : WindowId) (window : WindowConfig) :
    AgreeOff id registry (registry.put id window) := by
  refine { found := ?_, plain := fun _ _ => Iff.rfl, periodic := fun _ _ => Iff.rfl }
  intro other different
  rw [find?_put, if_neg (Ne.symm different)]

theorem agreeOff_modify (registry : Registry) (id : WindowId)
    (change : WindowConfig → WindowConfig) :
    AgreeOff id registry (registry.modify id change) := by
  refine { found := ?_, plain := ?_, periodic := ?_ }
  · intro other different
    rw [find?_modify registry id change, if_neg (Ne.symm different)]
  · intro other _different
    rw [plain_modify]
  · intro other _different
    rw [periodic_modify]

theorem WellListed.agreeOff_deactivate (listed : registry.WellListed) (id : WindowId) :
    AgreeOff id registry (registry.deactivate id) := by
  refine { found := ?_, plain := ?_, periodic := ?_ }
  · intro other _different
    exact find?_deactivate registry id other
  · intro other different
    rw [mem_plain_deactivate, and_iff_left different]
  · intro other different
    rw [listed.mem_periodic_deactivate, and_iff_left different]

theorem WellListed.agreeOff_delete (listed : registry.WellListed) (id : WindowId) :
    AgreeOff id registry (registry.delete id) := by
  have cleared := listed.agreeOff_deactivate id
  refine { found := ?_, plain := cleared.plain, periodic := cleared.periodic }
  intro other different
  rw [find?_delete, if_neg (Ne.symm different)]

theorem WellListed.agreeOff_enlist (listed : registry.WellListed) (id : WindowId)
    (window : WindowConfig) : AgreeOff id registry (registry.enlist id window) := by
  refine { found := ?_, plain := ?_, periodic := ?_ }
  · intro other _different
    exact find?_enlist registry id window other
  · intro other different
    rw [mem_plain_enlist, if_neg different]
  · intro other different
    rw [listed.mem_periodic_enlist, if_neg different]

theorem Sound.agreeOff_deactivate (sound : registry.Sound) (id : WindowId) :
    AgreeOff id registry (registry.deactivate id) :=
  sound.wellListed.agreeOff_deactivate id

theorem Sound.agreeOff_delete (sound : registry.Sound) (id : WindowId) :
    AgreeOff id registry (registry.delete id) :=
  sound.wellListed.agreeOff_delete id

theorem Sound.not_active_deactivate (sound : registry.Sound) (id : WindowId) :
    id ∉ (registry.deactivate id).active :=
  sound.wellListed.not_active_deactivate id

structure Activated (window : WindowConfig) (earlier later : Registry) : Prop where
  sound : later.Sound
  agree : AgreeOff window.id earlier later
  found : later.find? window.id = some window
  plain : window.id ∈ later.plain ↔ window.isPeriodic = false
  periodic : window.id ∈ later.periodic ↔ window.isPeriodic = true

theorem Activated.mem_active {window : WindowConfig} {earlier later : Registry}
    (activated : Activated window earlier later) : window.id ∈ later.active := by
  cases scheduled : window.isPeriodic with
  | false => exact List.mem_append_left _ (activated.plain.mpr scheduled)
  | true => exact List.mem_append_right _ (activated.periodic.mpr scheduled)

theorem mem_active_iff (registry : Registry) (id : WindowId) :
    id ∈ registry.active ↔ registry.membership id ≠ .inactive := by
  unfold active membership
  rw [List.mem_append]
  by_cases inPlain : id ∈ registry.plain
  · simp [inPlain]
  · by_cases inPeriodic : id ∈ registry.periodic
    · simp [inPlain, inPeriodic]
    · simp [inPlain, inPeriodic]

theorem membership_eq_plain_iff (registry : Registry) (id : WindowId) :
    registry.membership id = .plain ↔ id ∈ registry.plain := by
  unfold membership
  by_cases inPlain : id ∈ registry.plain
  · simp [inPlain]
  · by_cases inPeriodic : id ∈ registry.periodic
    · simp [inPlain, inPeriodic]
    · simp [inPlain, inPeriodic]

theorem WellListed.membership_eq_periodic_iff (listed : registry.WellListed) (id : WindowId) :
    registry.membership id = .periodic ↔ id ∈ registry.periodic := by
  unfold membership
  by_cases inPlain : id ∈ registry.plain
  · simp [inPlain, listed.disjoint id inPlain]
  · by_cases inPeriodic : id ∈ registry.periodic
    · simp [inPlain, inPeriodic]
    · simp [inPlain, inPeriodic]

theorem Sound.membership_eq_periodic_iff (sound : registry.Sound) (id : WindowId) :
    registry.membership id = .periodic ↔ id ∈ registry.periodic :=
  sound.wellListed.membership_eq_periodic_iff id

/-! ### Activation and replacement -/

structure Matched (window : WindowConfig) (registry : Registry) : Prop where
  found : registry.find? window.id = some window
  plain : window.id ∈ registry.plain ↔ window.isPeriodic = false
  periodic : window.id ∈ registry.periodic ↔ window.isPeriodic = true

theorem WellListed.matched_enlist (listed : registry.WellListed) {window : WindowConfig}
    (found : registry.find? window.id = some window) :
    (registry.enlist window.id window).Matched window :=
  { found := (find?_enlist registry window.id window window.id).trans found
    plain := by rw [mem_plain_enlist, if_pos rfl]
    periodic := by rw [listed.mem_periodic_enlist, if_pos rfl] }

/-- A stored window can always be activated, and ends up on the list that matches it, whichever
list it was on. -/
theorem WellListed.activate (listed : registry.WellListed) {window : WindowConfig}
    (found : registry.find? window.id = some window) :
    ∃ later, registry.activate window.id = .ok later ∧ later.WellListed ∧
      Matched window later ∧ AgreeOff window.id registry later := by
  unfold Registry.activate
  rw [found]
  simp only
  split
  · rename_i isPlain unscheduled
    have member := (membership_eq_plain_iff registry window.id).mp isPlain
    refine ⟨registry, rfl, listed, { found := found, plain := ?_, periodic := ?_ },
      AgreeOff.refl window.id registry⟩
    · exact iff_of_true member unscheduled
    · exact iff_of_false (listed.disjoint window.id member) (unscheduled ▸ Bool.noConfusion)
  · rename_i isPeriodic scheduled
    have member := (listed.membership_eq_periodic_iff window.id).mp isPeriodic
    refine ⟨registry, rfl, listed, { found := found, plain := ?_, periodic := ?_ },
      AgreeOff.refl window.id registry⟩
    · exact iff_of_false (fun inPlain => listed.disjoint window.id inPlain member)
        (scheduled ▸ Bool.noConfusion)
    · exact iff_of_true member scheduled
  · exact ⟨registry.enlist window.id window, rfl,
      listed.enlist (Option.isSome_iff_exists.mpr ⟨window, found⟩) window,
      listed.matched_enlist found, listed.agreeOff_enlist window.id window⟩

/-- A replaced window ends up on the list that matches its new version if it was active, and is
inactive if it was not. -/
theorem WellListed.replace (listed : registry.WellListed) {window : WindowConfig}
    (named : window.id ≠ engineId) :
    ∃ later, registry.replace window = .ok later ∧ later.WellListed ∧
      AgreeOff window.id registry later ∧ later.find? window.id = some window ∧
      (registry.membership window.id ≠ .inactive → Matched window later) ∧
      (registry.membership window.id = .inactive → window.id ∉ later.active) := by
  have stored := (listed.deactivate window.id).put window.id window
  have agree : AgreeOff window.id registry
      ((registry.deactivate window.id).put window.id window) :=
    (listed.agreeOff_deactivate window.id).trans (agreeOff_put _ window.id window)
  have found : ((registry.deactivate window.id).put window.id window).find? window.id =
      some window := by
    rw [find?_put, if_pos rfl]
  unfold Registry.replace
  rw [if_neg named]
  simp only
  split
  · rename_i inactive
    exact ⟨_, rfl, stored, agree, found, fun active => absurd inactive active,
      fun _ => listed.not_active_deactivate window.id⟩
  · rename_i active
    obtain ⟨later, activated, laterListed, matched, confined⟩ := stored.activate found
    exact ⟨later, activated, laterListed, agree.trans confined, matched.found,
      fun _ => matched, fun inactive => absurd inactive active⟩

/-- A registry stays sound if the one window that changes is sound and on no wrong list. -/
theorem Sound.of_agreeOff {later : Registry} (sound : registry.Sound) (listed : later.WellListed)
    {window : WindowConfig} (agree : AgreeOff window.id registry later)
    (found : later.find? window.id = some window) (windowSound : window.Sound)
    (plain : window.id ∈ later.plain → window.isPeriodic = false)
    (periodic : window.id ∈ later.periodic → window.isPeriodic = true) : later.Sound := by
  refine
    { plainAscending := listed.plainAscending
      periodicAscending := listed.periodicAscending
      plainStored := ?_
      periodicStored := ?_
      filed := ?_
      windows := ?_ }
  · intro id member
    by_cases same : id = window.id
    · subst same
      exact ⟨window, found, plain member⟩
    · rw [agree.found id same]
      exact sound.plainStored id ((agree.plain id same).mp member)
  · intro id member
    by_cases same : id = window.id
    · subst same
      exact ⟨window, found, periodic member⟩
    · rw [agree.found id same]
      exact sound.periodicStored id ((agree.periodic id same).mp member)
  · intro id stored foundStored
    by_cases same : id = window.id
    · subst same
      rw [found] at foundStored
      cases foundStored
      rfl
    · rw [agree.found id same] at foundStored
      exact sound.filed id stored foundStored
  · intro id stored foundStored
    by_cases same : id = window.id
    · subst same
      rw [found] at foundStored
      cases foundStored
      exact windowSound
    · rw [agree.found id same] at foundStored
      exact sound.windows id stored foundStored

theorem Sound.activate (sound : registry.Sound) {id : WindowId} {window : WindowConfig}
    (found : registry.find? id = some window) :
    ∃ later, registry.activate id = .ok later ∧ Activated window registry later := by
  have carried : window.id = id := sound.filed id window found
  subst carried
  obtain ⟨later, activated, listed, matched, agree⟩ := sound.wellListed.activate found
  refine ⟨later, activated, ?_⟩
  exact
    { sound := sound.of_agreeOff listed agree matched.found
        (sound.windows window.id window found) matched.plain.mp matched.periodic.mp
      agree := agree
      found := matched.found
      plain := matched.plain
      periodic := matched.periodic }

theorem Sound.of_activate (sound : registry.Sound) {id : WindowId} {later : Registry}
    (activated : registry.activate id = .ok later) :
    later.Sound ∧ AgreeOff id registry later := by
  obtain ⟨window, found⟩ := stored_of_activate activated
  have carried : window.id = id := sound.filed id window found
  subst carried
  obtain ⟨_, outcome, result⟩ := sound.activate found
  cases outcome.symm.trans activated
  exact ⟨result.sound, result.agree⟩

/-- Replacement stores the new version and keeps the registry sound. Where the window ends up is
left to the operation that follows. -/
theorem Sound.replace (sound : registry.Sound) {window : WindowConfig}
    (windowSound : window.Sound) (named : window.id ≠ engineId) :
    ∃ later, registry.replace window = .ok later ∧ later.Sound ∧
      AgreeOff window.id registry later ∧ later.find? window.id = some window := by
  obtain ⟨later, replaced, listed, agree, found, active, inactive⟩ :=
    sound.wellListed.replace named
  refine ⟨later, replaced, ?_, agree, found⟩
  by_cases was : registry.membership window.id = .inactive
  · have absent := inactive was
    rw [Registry.active, List.mem_append, not_or] at absent
    exact sound.of_agreeOff listed agree found windowSound
      (fun member => absurd member absent.1) (fun member => absurd member absent.2)
  · have matched := active was
    exact sound.of_agreeOff listed agree found windowSound matched.plain.mp matched.periodic.mp

end Operations

end RestrictedAccess.Registry
