/-
Windows under their keys. The table keeps whatever window it is given under whatever key, and most
changes are made to a window where it is stored, so it takes an argument that a window carries the
key it is filed under. A condition on keys and windows holds throughout a registry if every write
keeps it at the key that is written.
-/

import RestrictedAccess.Proofs.Registry.ActiveLists

namespace RestrictedAccess.Registry

/-- Every stored window satisfies a condition at the key it is filed under. -/
def AllStored (condition : WindowId → WindowConfig → Prop) (registry : Registry) : Prop :=
  ∀ id window, registry.find? id = some window → condition id window

section Changes

variable {condition : WindowId → WindowConfig → Prop} {registry : Registry}

theorem allStored_empty (condition : WindowId → WindowConfig → Prop) :
    Registry.empty.AllStored condition := by
  intro id window found
  cases found

theorem AllStored.of_find? {later : Registry} (all : registry.AllStored condition)
    (found : ∀ id window, later.find? id = some window → registry.find? id = some window) :
    later.AllStored condition :=
  fun id window present => all id window (found id window present)

theorem AllStored.put (all : registry.AllStored condition) {id : WindowId}
    {window : WindowConfig} (holds : condition id window) :
    (registry.put id window).AllStored condition := by
  intro other stored found
  rw [find?_put] at found
  split at found
  · rename_i same
    cases found
    exact same ▸ holds
  · exact all other stored found

theorem AllStored.deactivate (all : registry.AllStored condition) (id : WindowId) :
    (registry.deactivate id).AllStored condition :=
  all.of_find? (fun other _ found => (find?_deactivate registry id other) ▸ found)

theorem AllStored.delete (all : registry.AllStored condition) (id : WindowId) :
    (registry.delete id).AllStored condition := by
  apply all.of_find?
  intro other window found
  rw [find?_delete] at found
  split at found
  · cases found
  · exact found

theorem AllStored.activate (all : registry.AllStored condition) {later : Registry}
    {id : WindowId} (activated : registry.activate id = .ok later) : later.AllStored condition :=
  all.of_find? (fun other _ found => find?_of_activate activated other ▸ found)

theorem AllStored.replace (all : registry.AllStored condition) {later : Registry}
    {window : WindowConfig} (holds : condition window.id window)
    (replaced : registry.replace window = .ok later) : later.AllStored condition := by
  have stored := (all.deactivate window.id).put holds
  unfold Registry.replace at replaced
  split at replaced
  · cases replaced
  · simp only at replaced
    split at replaced
    · cases replaced
      exact stored
    · exact stored.activate replaced

theorem AllStored.modify (all : registry.AllStored condition) {id : WindowId}
    {change : WindowConfig → WindowConfig}
    (keeps : ∀ window, condition id window → condition id (change window)) :
    (registry.modify id change).AllStored condition := by
  unfold Registry.modify
  split
  · exact all
  · rename_i window found
    exact all.put (keeps window (all id window found))

theorem AllStored.modifyAll (all : registry.AllStored condition) (ids : List WindowId)
    {change : WindowConfig → WindowConfig}
    (keeps : ∀ id window, condition id window → condition id (change window)) :
    (registry.modifyAll ids change).AllStored condition := by
  unfold Registry.modifyAll
  induction ids generalizing registry with
  | nil => exact all
  | cons id rest ih => exact ih (all.modify (keeps id))

/-- A beacon changes no more of a window than its schedule. -/
theorem AllStored.countBeacon (all : registry.AllStored condition)
    (keeps : ∀ id window, condition id window → condition id { window with
      periodic := window.periodic.map (fun schedule => schedule.advance.1) }) :
    registry.countBeacon.registry.AllStored condition := by
  have counted (ids : List WindowId) (count : BeaconCount)
      (before : count.registry.AllStored condition) :
      (ids.foldl countBeaconFor count).registry.AllStored condition := by
    induction ids generalizing count with
    | nil => exact before
    | cons id rest ih =>
        apply ih
        rcases registry_countBeaconFor count id with same | ⟨window, _, found, rfl, kept | lapsed⟩
        · exact same ▸ before
        · exact kept ▸ before.put (keeps id window (before id window found))
        · exact lapsed ▸ (before.put (keeps id window (before id window found))).deactivate id
  exact counted registry.periodic ⟨registry, [], false⟩ all

end Changes

/-! ### Identifiers -/

/-- Every window carries the key it is filed under. -/
def Filed (registry : Registry) : Prop :=
  registry.AllStored (fun id window => window.id = id)

theorem filed_iff {registry : Registry} :
    registry.Filed ↔ ∀ filing, filing ∈ registry.table.filings → filing.window.id = filing.key := by
  constructor
  · intro filed filing member
    exact filed filing.key filing.window (WindowTable.mem_filings_iff.mp member)
  · intro carried id window found
    exact carried ⟨id, window⟩ (WindowTable.mem_filings_iff.mpr found)

theorem Filed.find?_eq_some_iff {registry : Registry} (filed : registry.Filed) {id : WindowId}
    {window : WindowConfig} :
    registry.find? id = some window ↔ window ∈ registry.table.windows ∧ window.id = id := by
  rw [WindowTable.mem_windows_iff]
  constructor
  · intro found
    exact ⟨⟨id, found⟩, filed id window found⟩
  · rintro ⟨⟨key, found⟩, carried⟩
    rw [← carried, filed key window found]
    exact found

/-- A window that is made where none is stored carries the key as well. -/
theorem Filed.id_getD_empty {registry : Registry} (filed : registry.Filed) (id : WindowId) :
    ((registry.find? id).getD (.empty id)).id = id := by
  cases found : registry.find? id with
  | none => rfl
  | some window => exact filed id window found

end RestrictedAccess.Registry
