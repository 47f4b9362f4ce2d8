/-
The two lists of active windows. They are well kept when both are ascending, no window is on both
and every listed window is stored. Operations on single windows rely on no more than that: a window
that was edited where it is stored may be on the list that does not match it any longer.
-/

import RestrictedAccess.Proofs.Registry.Lookup

namespace RestrictedAccess.Registry

/-! ### Ascending lists -/

theorem nodup_of_ascending {ids : List WindowId}
    (ascending : ids.Pairwise (fun earlier later => earlier < later)) : ids.Nodup := by
  apply ascending.imp
  intro earlier later below same
  subst later
  exact UInt16.lt_irrefl earlier below

theorem mem_insertAscending {id other : WindowId} {ids : List WindowId} :
    other ∈ insertAscending id ids ↔ other = id ∨ other ∈ ids := by
  induction ids with
  | nil => simp [insertAscending]
  | cons head tail ih =>
      simp only [insertAscending]
      split
      · exact List.mem_cons
      · split
        · rename_i same
          rw [List.mem_cons, same]
          exact ⟨Or.inr, fun either => either.elim Or.inl (fun present => present)⟩
        · rw [List.mem_cons, ih, List.mem_cons]
          exact or_left_comm

theorem ascending_insertAscending (id : WindowId) {ids : List WindowId}
    (ascending : ids.Pairwise (fun earlier later => earlier < later)) :
    (insertAscending id ids).Pairwise (fun earlier later => earlier < later) := by
  induction ids with
  | nil => exact List.pairwise_singleton _ id
  | cons head tail ih =>
      rcases List.pairwise_cons.mp ascending with ⟨aboveHead, tailAscending⟩
      simp only [insertAscending]
      split
      · rename_i below
        refine List.pairwise_cons.mpr ⟨?_, ascending⟩
        intro other member
        rcases List.mem_cons.mp member with same | inTail
        · exact same ▸ below
        · exact UInt16.lt_trans below (aboveHead other inTail)
      · split
        · exact ascending
        · rename_i notBelow different
          have above : head < id :=
            UInt16.lt_of_le_of_ne (UInt16.not_lt.mp notBelow) (Ne.symm different)
          refine List.pairwise_cons.mpr ⟨?_, ih tailAscending⟩
          intro other member
          rcases mem_insertAscending.mp member with same | inTail
          · exact same ▸ above
          · exact aboveHead other inTail

/-! ### Well kept lists -/

structure WellListed (registry : Registry) : Prop where
  plainAscending : registry.plain.Pairwise (fun earlier later => earlier < later)
  periodicAscending : registry.periodic.Pairwise (fun earlier later => earlier < later)
  disjoint : ∀ id, id ∈ registry.plain → id ∉ registry.periodic
  stored : ∀ id, id ∈ registry.active → (registry.find? id).isSome = true

theorem wellListed_empty : Registry.empty.WellListed :=
  { plainAscending := List.Pairwise.nil
    periodicAscending := List.Pairwise.nil
    disjoint := by intro id impossible; cases impossible
    stored := by intro id impossible; cases impossible }

section Changes

variable {registry : Registry}

/-- Taking windows off the lists, and off the table once they are off the lists, keeps them well. -/
theorem WellListed.of_sublist (listed : registry.WellListed) {later : Registry}
    (plain : later.plain.Sublist registry.plain)
    (periodic : later.periodic.Sublist registry.periodic)
    (stored : ∀ id, id ∈ later.active → (registry.find? id).isSome = true →
      (later.find? id).isSome = true) : later.WellListed :=
  { plainAscending := listed.plainAscending.sublist plain
    periodicAscending := listed.periodicAscending.sublist periodic
    disjoint := fun id inPlain inPeriodic =>
      listed.disjoint id (plain.subset inPlain) (periodic.subset inPeriodic)
    stored := fun id active =>
      stored id active (listed.stored id ((plain.append periodic).subset active)) }

/-- A window may be stored over any other. -/
theorem WellListed.put (listed : registry.WellListed) (id : WindowId) (window : WindowConfig) :
    (registry.put id window).WellListed := by
  refine listed.of_sublist (List.Sublist.refl _) (List.Sublist.refl _) ?_
  intro other _active stored
  rw [find?_put]
  split
  · rfl
  · exact stored

theorem WellListed.modifyAll (listed : registry.WellListed) {ids : List WindowId}
    (distinct : ids.Nodup) (change : WindowConfig → WindowConfig) :
    (registry.modifyAll ids change).WellListed := by
  refine listed.of_sublist (plain_modifyAll registry ids change ▸ List.Sublist.refl _)
    (periodic_modifyAll registry ids change ▸ List.Sublist.refl _) ?_
  intro id _active stored
  rw [find?_modifyAll registry distinct change]
  split
  · rw [Option.isSome_map]
    exact stored
  · exact stored

/-! ### Taking windows off the lists -/

theorem plain_deactivate (registry : Registry) (id : WindowId) :
    (registry.deactivate id).plain = registry.plain.filter (fun other => other ≠ id) := by
  unfold deactivate
  split
  · rfl
  · rename_i absent
    refine (List.filter_eq_self.mpr ?_).symm
    intro other member
    exact decide_eq_true (fun same => absent (same ▸ member))

theorem WellListed.periodic_deactivate (listed : registry.WellListed) (id : WindowId) :
    (registry.deactivate id).periodic = registry.periodic.filter (fun other => other ≠ id) := by
  unfold deactivate
  split
  · rename_i present
    refine (List.filter_eq_self.mpr ?_).symm
    intro other member
    exact decide_eq_true (fun same => listed.disjoint id present (same ▸ member))
  · rfl

theorem mem_plain_deactivate {id other : WindowId} :
    other ∈ (registry.deactivate id).plain ↔ other ∈ registry.plain ∧ other ≠ id := by
  rw [plain_deactivate, List.mem_filter, decide_eq_true_iff]

theorem WellListed.mem_periodic_deactivate (listed : registry.WellListed) {id other : WindowId} :
    other ∈ (registry.deactivate id).periodic ↔ other ∈ registry.periodic ∧ other ≠ id := by
  rw [listed.periodic_deactivate, List.mem_filter, decide_eq_true_iff]

theorem WellListed.not_active_deactivate (listed : registry.WellListed) (id : WindowId) :
    id ∉ (registry.deactivate id).active := by
  rw [active, List.mem_append, mem_plain_deactivate, listed.mem_periodic_deactivate]
  rintro (⟨_, different⟩ | ⟨_, different⟩)
  · exact different rfl
  · exact different rfl

theorem WellListed.deactivate (listed : registry.WellListed) (id : WindowId) :
    (registry.deactivate id).WellListed := by
  apply listed.of_sublist
  · rw [plain_deactivate]
    exact List.filter_sublist
  · rw [listed.periodic_deactivate]
    exact List.filter_sublist
  · intro other _active stored
    rw [find?_deactivate]
    exact stored

theorem WellListed.delete (listed : registry.WellListed) (id : WindowId) :
    (registry.delete id).WellListed := by
  have cleared := listed.deactivate id
  refine cleared.of_sublist (List.Sublist.refl _) (List.Sublist.refl _) ?_
  intro other active stored
  have different : id ≠ other := by
    intro same
    subst same
    exact listed.not_active_deactivate id active
  rw [find?_deactivate] at stored
  rw [find?_delete, if_neg different]
  exact stored

/-! ### Putting windows on the lists -/

theorem mem_plain_enlist {window : WindowConfig} {id other : WindowId} :
    other ∈ (registry.enlist id window).plain ↔
      if other = id then window.isPeriodic = false else other ∈ registry.plain := by
  simp only [enlist]
  by_cases same : other = id
  · cases scheduled : window.isPeriodic with
    | false => simp [same, mem_insertAscending]
    | true => simp [same, mem_plain_deactivate]
  · cases scheduled : window.isPeriodic with
    | false => simp [same, mem_insertAscending, mem_plain_deactivate]
    | true => simp [same, mem_plain_deactivate]

theorem WellListed.mem_periodic_enlist (listed : registry.WellListed) {window : WindowConfig}
    {id other : WindowId} :
    other ∈ (registry.enlist id window).periodic ↔
      if other = id then window.isPeriodic = true else other ∈ registry.periodic := by
  simp only [enlist]
  by_cases same : other = id
  · cases scheduled : window.isPeriodic with
    | false => simp [same, listed.mem_periodic_deactivate]
    | true => simp [same, mem_insertAscending]
  · cases scheduled : window.isPeriodic with
    | false => simp [same, listed.mem_periodic_deactivate]
    | true => simp [same, mem_insertAscending, listed.mem_periodic_deactivate]

theorem WellListed.enlist (listed : registry.WellListed) {id : WindowId}
    (stored : (registry.find? id).isSome = true) (window : WindowConfig) :
    (registry.enlist id window).WellListed := by
  have cleared := listed.deactivate id
  refine { plainAscending := ?_, periodicAscending := ?_, disjoint := ?_, stored := ?_ }
  · simp only [Registry.enlist]
    split
    · exact cleared.plainAscending
    · exact ascending_insertAscending id cleared.plainAscending
  · simp only [Registry.enlist]
    split
    · exact ascending_insertAscending id cleared.periodicAscending
    · exact cleared.periodicAscending
  · intro other inPlain inPeriodic
    rw [mem_plain_enlist] at inPlain
    rw [listed.mem_periodic_enlist] at inPeriodic
    by_cases same : other = id
    · rw [if_pos same] at inPlain inPeriodic
      rw [inPlain] at inPeriodic
      cases inPeriodic
    · rw [if_neg same] at inPlain inPeriodic
      exact listed.disjoint other inPlain inPeriodic
  · intro other active
    rw [find?_enlist]
    by_cases same : other = id
    · exact same ▸ stored
    · apply listed.stored other
      unfold Registry.active at active ⊢
      rw [List.mem_append, mem_plain_enlist, listed.mem_periodic_enlist, if_neg same,
        if_neg same] at active
      exact List.mem_append.mpr active

/-! ### Counting a beacon -/

theorem registry_countBeaconFor (count : BeaconCount) (id : WindowId) :
    (countBeaconFor count id).registry = count.registry ∨
      ∃ window advanced, count.registry.find? id = some window ∧
        advanced = { window with
          periodic := window.periodic.map (fun schedule => schedule.advance.1) } ∧
        ((countBeaconFor count id).registry = count.registry.put id advanced ∨
          (countBeaconFor count id).registry = (count.registry.put id advanced).deactivate id) := by
  unfold countBeaconFor
  split
  · exact Or.inl rfl
  · rename_i window found
    split
    · exact Or.inl rfl
    · rename_i schedule scheduled
      refine Or.inr ⟨window, _, found, rfl, ?_⟩
      simp only [scheduled, Option.map_some]
      split
      · exact Or.inl rfl
      · exact Or.inl rfl
      · exact Or.inl rfl
      · exact Or.inr rfl

theorem isSome_find?_countBeaconFor (count : BeaconCount) (id other : WindowId) :
    ((countBeaconFor count id).registry.find? other).isSome =
      (count.registry.find? other).isSome := by
  rcases registry_countBeaconFor count id with same | ⟨window, advanced, found, rfl, counted⟩
  · rw [same]
  · have stored : ((count.registry.put id { window with
        periodic := window.periodic.map (fun schedule => schedule.advance.1) }).find?
          other).isSome = (count.registry.find? other).isSome := by
      rw [find?_put]
      split
      · rename_i same
        rw [← same, found]
        rfl
      · rfl
    rcases counted with kept | lapsed
    · rw [kept, stored]
    · rw [lapsed, find?_deactivate, stored]

theorem isSome_find?_countBeacon (registry : Registry) (id : WindowId) :
    (registry.countBeacon.registry.find? id).isSome = (registry.find? id).isSome := by
  have counted (ids : List WindowId) (count : BeaconCount) :
      ((ids.foldl countBeaconFor count).registry.find? id).isSome =
        (count.registry.find? id).isSome := by
    induction ids generalizing count with
    | nil => rfl
    | cons head rest ih =>
        rw [List.foldl_cons, ih]
        exact isSome_find?_countBeaconFor count head id
  exact counted registry.periodic ⟨registry, [], false⟩

theorem wellListed_countBeaconFor {count : BeaconCount} (listed : count.registry.WellListed)
    (id : WindowId) : (countBeaconFor count id).registry.WellListed := by
  rcases registry_countBeaconFor count id with same | ⟨_, advanced, _, _, kept | lapsed⟩
  · exact same ▸ listed
  · exact kept ▸ listed.put id advanced
  · exact lapsed ▸ (listed.put id advanced).deactivate id

theorem WellListed.countBeacon (listed : registry.WellListed) :
    registry.countBeacon.registry.WellListed := by
  have counted (ids : List WindowId) (count : BeaconCount)
      (before : count.registry.WellListed) :
      (ids.foldl countBeaconFor count).registry.WellListed := by
    induction ids generalizing count with
    | nil => exact before
    | cons head rest ih => exact ih _ (wellListed_countBeaconFor before head)
  exact counted registry.periodic ⟨registry, [], false⟩ listed

end Changes

end RestrictedAccess.Registry
