/-
What a look-up finds after each operation on a registry. The table is only seen through look-ups
from here on: storing, changing and removing a window have one equation each, and changing a list
of distinct windows one after the other changes each of them once.
-/

import RestrictedAccess.Registry

namespace RestrictedAccess

namespace WindowTable

/-! ### The table -/

private theorem find?_file (filing : Filing) (filings : List Filing) (key : WindowId) :
    (file filing filings).find? (fun stored => stored.key = key) =
      if filing.key = key then some filing
      else filings.find? (fun stored => stored.key = key) := by
  induction filings with
  | nil =>
      by_cases same : filing.key = key
      · simp [file, same]
      · simp [file, same]
  | cons head tail ih =>
      simp only [file]
      split
      · rw [List.find?_cons]
        by_cases same : filing.key = key
        · simp [same]
        · simp [same]
      · split
        · rename_i replaced
          rw [List.find?_cons, List.find?_cons, ← replaced]
          by_cases same : filing.key = key
          · simp [same]
          · simp [same]
        · rename_i different
          rw [List.find?_cons, List.find?_cons, ih]
          by_cases atHead : head.key = key
          · have elsewhere : filing.key ≠ key := fun same => different (same.trans atHead.symm)
            simp [atHead, elsewhere]
          · simp [atHead]

theorem find?_insert (table : WindowTable) (key : WindowId) (window : WindowConfig)
    (other : WindowId) :
    (table.insert key window).find? other =
      if key = other then some window else table.find? other := by
  unfold find? insert
  rw [find?_file]
  split <;> rfl

theorem find?_erase (table : WindowTable) (key other : WindowId) :
    (table.erase key).find? other = if key = other then none else table.find? other := by
  simp only [erase, find?, List.find?_filter]
  by_cases same : key = other
  · subst same
    rw [if_pos rfl, Option.map_eq_none_iff, List.find?_eq_none]
    intro filing _member
    by_cases found : filing.key = key
    · simp [found]
    · simp [found]
  · rw [if_neg same]
    congr 2
    funext filing
    by_cases found : filing.key = other
    · have kept : filing.key ≠ key := fun equal => same (equal.symm.trans found)
      simp [found, Ne.symm same]
    · simp [found]

private theorem find?_of_mem {filings : List Filing} {filing : Filing}
    (ascending : filings.Pairwise (fun earlier later => earlier.key < later.key))
    (member : filing ∈ filings) :
    filings.find? (fun stored => stored.key = filing.key) = some filing := by
  induction filings with
  | nil => cases member
  | cons head tail ih =>
      rcases List.pairwise_cons.mp ascending with ⟨aboveHead, tailAscending⟩
      rcases List.mem_cons.mp member with same | inTail
      · subst same
        exact List.find?_cons_of_pos (decide_eq_true rfl)
      · have different : head.key ≠ filing.key := by
          intro same
          have above := aboveHead filing inTail
          rw [same] at above
          exact UInt16.lt_irrefl _ above
        rw [List.find?_cons_of_neg (by simpa using different)]
        exact ih tailAscending inTail

/-- A look-up reaches every filing of the table, and nothing else. -/
theorem mem_filings_iff {table : WindowTable} {key : WindowId} {window : WindowConfig} :
    ⟨key, window⟩ ∈ table.filings ↔ table.find? key = some window := by
  unfold find?
  constructor
  · intro member
    have found := find?_of_mem table.ascending member
    rw [found]
    rfl
  · intro found
    obtain ⟨filing, located, same⟩ := Option.map_eq_some_iff.mp found
    have reached : filing.key = key := by simpa using List.find?_some located
    subst reached same
    exact List.mem_of_find?_eq_some located

theorem mem_windows_iff {table : WindowTable} {window : WindowConfig} :
    window ∈ table.windows ↔ ∃ key, table.find? key = some window := by
  unfold windows
  rw [List.mem_map]
  constructor
  · rintro ⟨filing, member, rfl⟩
    exact ⟨filing.key, mem_filings_iff.mp member⟩
  · rintro ⟨key, found⟩
    exact ⟨⟨key, window⟩, mem_filings_iff.mpr found, rfl⟩

end WindowTable

namespace Registry

/-! ### Storing and changing windows -/

@[simp] theorem find?_put (registry : Registry) (id : WindowId) (window : WindowConfig)
    (other : WindowId) :
    (registry.put id window).find? other =
      if id = other then some window else registry.find? other :=
  WindowTable.find?_insert registry.table id window other

@[simp] theorem plain_put (registry : Registry) (id : WindowId) (window : WindowConfig) :
    (registry.put id window).plain = registry.plain :=
  rfl

@[simp] theorem periodic_put (registry : Registry) (id : WindowId) (window : WindowConfig) :
    (registry.put id window).periodic = registry.periodic :=
  rfl

@[simp] theorem plain_modify (registry : Registry) (id : WindowId)
    (change : WindowConfig → WindowConfig) :
    (registry.modify id change).plain = registry.plain := by
  simp only [modify]
  split <;> rfl

@[simp] theorem periodic_modify (registry : Registry) (id : WindowId)
    (change : WindowConfig → WindowConfig) :
    (registry.modify id change).periodic = registry.periodic := by
  simp only [modify]
  split <;> rfl

theorem find?_modify (registry : Registry) (id : WindowId)
    (change : WindowConfig → WindowConfig) (other : WindowId) :
    (registry.modify id change).find? other =
      if id = other then (registry.find? other).map change else registry.find? other := by
  simp only [modify]
  cases found : registry.find? id with
  | none =>
      by_cases same : id = other
      · subst same
        simp [found]
      · simp [same]
  | some window =>
      by_cases same : id = other
      · subst same
        simp [found]
      · simp [same]

def modifyAll (registry : Registry) (ids : List WindowId)
    (change : WindowConfig → WindowConfig) : Registry :=
  ids.foldl (fun current id => current.modify id change) registry

@[simp] theorem plain_modifyAll (registry : Registry) (ids : List WindowId)
    (change : WindowConfig → WindowConfig) :
    (registry.modifyAll ids change).plain = registry.plain := by
  unfold modifyAll
  induction ids generalizing registry with
  | nil => rfl
  | cons head tail ih => rw [List.foldl_cons, ih, plain_modify]

@[simp] theorem periodic_modifyAll (registry : Registry) (ids : List WindowId)
    (change : WindowConfig → WindowConfig) :
    (registry.modifyAll ids change).periodic = registry.periodic := by
  unfold modifyAll
  induction ids generalizing registry with
  | nil => rfl
  | cons head tail ih => rw [List.foldl_cons, ih, periodic_modify]

theorem find?_modifyAll (registry : Registry) {ids : List WindowId} (distinct : ids.Nodup)
    (change : WindowConfig → WindowConfig) (other : WindowId) :
    (registry.modifyAll ids change).find? other =
      if other ∈ ids then (registry.find? other).map change else registry.find? other := by
  unfold modifyAll
  induction ids generalizing registry with
  | nil => simp
  | cons head tail ih =>
      rcases List.nodup_cons.mp distinct with ⟨headTail, tailDistinct⟩
      rw [List.foldl_cons, ih (registry.modify head change) tailDistinct,
        find?_modify registry head change]
      by_cases same : head = other
      · subst same
        simp [headTail]
      · simp [same, Ne.symm same]

/-! ### Removing windows and changing the active lists -/

@[simp] theorem find?_empty (id : WindowId) : Registry.empty.find? id = none :=
  rfl

@[simp] theorem find?_deactivate (registry : Registry) (id other : WindowId) :
    (registry.deactivate id).find? other = registry.find? other := by
  simp only [deactivate]
  split <;> rfl

@[simp] theorem find?_enlist (registry : Registry) (id : WindowId) (window : WindowConfig)
    (other : WindowId) :
    (registry.enlist id window).find? other = registry.find? other := by
  have cleared := find?_deactivate registry id other
  simp only [enlist]
  split <;> exact cleared

theorem find?_of_activate {registry later : Registry} {id : WindowId}
    (activated : registry.activate id = .ok later) (other : WindowId) :
    later.find? other = registry.find? other := by
  unfold Registry.activate at activated
  split at activated
  · cases activated
  · split at activated
    · cases activated
      rfl
    · cases activated
      rfl
    · cases activated
      exact find?_enlist registry id _ other

theorem stored_of_activate {registry later : Registry} {id : WindowId}
    (activated : registry.activate id = .ok later) :
    ∃ window, registry.find? id = some window := by
  cases found : registry.find? id with
  | none =>
      unfold Registry.activate at activated
      rw [found] at activated
      cases activated
  | some window => exact ⟨window, rfl⟩

theorem find?_delete (registry : Registry) (id other : WindowId) :
    (registry.delete id).find? other = if id = other then none else registry.find? other := by
  have cleared := find?_deactivate registry id other
  have erased := WindowTable.find?_erase (registry.deactivate id).table id other
  simp only [find?] at cleared
  simp only [delete, find?, erased, cleared]

end Registry

end RestrictedAccess
