/-
The invariant of a registry. Both active lists are ascending, every active window is stored and on
the list that matches it, and every stored window carries its key and is one the engine can
announce: of generic kind, with cached indices that are in order, and plain and unspread if the
engine made it for itself.
Every operation that the scheduler uses preserves it. It is more than what the lists need to be
well kept, because the scheduler never edits an active window without listing it anew.
-/

import RestrictedAccess.Proofs.Registry.FiledWindows

namespace RestrictedAccess

/-- What holds of every stored window, active or not, whatever its running state. -/
structure WindowConfig.Sound (window : WindowConfig) : Prop where
  generic : window.kind = .generic
  ordered : window.indices.isResolved = true → window.indices.first ≤ window.indices.last
  internal : firstInternalId ≤ window.id → window.periodic = none ∧ window.spreading = none

namespace Registry

structure Sound (registry : Registry) : Prop where
  plainAscending : registry.plain.Pairwise (fun earlier later => earlier < later)
  periodicAscending : registry.periodic.Pairwise (fun earlier later => earlier < later)
  plainStored : ∀ id, id ∈ registry.plain →
    ∃ window, registry.find? id = some window ∧ window.isPeriodic = false
  periodicStored : ∀ id, id ∈ registry.periodic →
    ∃ window, registry.find? id = some window ∧ window.isPeriodic = true
  filed : registry.Filed
  windows : ∀ id window, registry.find? id = some window → window.Sound

theorem Sound.internal_of_found {registry : Registry} (sound : registry.Sound) {id : WindowId}
    {window : WindowConfig} (found : registry.find? id = some window)
    (reserved : firstInternalId ≤ id) : window.periodic = none ∧ window.spreading = none := by
  have carried : window.id = id := sound.filed id window found
  exact (sound.windows id window found).internal (carried.symm ▸ reserved)

/-! ### Membership of the active lists -/

section Membership

variable {registry : Registry}

theorem Sound.periodic_of_found (sound : registry.Sound) {id : WindowId} {window : WindowConfig}
    (found : registry.find? id = some window) (member : id ∈ registry.periodic) :
    window.isPeriodic = true := by
  obtain ⟨stored, foundStored, periodic⟩ := sound.periodicStored id member
  rw [found] at foundStored
  cases foundStored
  exact periodic

theorem Sound.not_periodic_of_plain (sound : registry.Sound) {id : WindowId}
    (inPlain : id ∈ registry.plain) : id ∉ registry.periodic := by
  intro inPeriodic
  obtain ⟨window, found, plain⟩ := sound.plainStored id inPlain
  rw [sound.periodic_of_found found inPeriodic] at plain
  cases plain

/-- Where every active window is on the list that matches it, the lists are in order. -/
theorem Sound.wellListed (sound : registry.Sound) : registry.WellListed := by
  refine
    { plainAscending := sound.plainAscending
      periodicAscending := sound.periodicAscending
      disjoint := fun _ inPlain => sound.not_periodic_of_plain inPlain
      stored := ?_ }
  intro id member
  rcases List.mem_append.mp member with inPlain | inPeriodic
  · obtain ⟨window, found, _⟩ := sound.plainStored id inPlain
    exact Option.isSome_iff_exists.mpr ⟨window, found⟩
  · obtain ⟨window, found, _⟩ := sound.periodicStored id inPeriodic
    exact Option.isSome_iff_exists.mpr ⟨window, found⟩

end Membership

/-! ### Preservation -/

section Preservation

variable {registry : Registry}

theorem sound_empty : Registry.empty.Sound :=
  { plainAscending := List.Pairwise.nil
    periodicAscending := List.Pairwise.nil
    plainStored := by intro id impossible; cases impossible
    periodicStored := by intro id impossible; cases impossible
    filed := allStored_empty _
    windows := by intro id window impossible; cases impossible }

/-- A window may be stored over another one if it belongs on the list that holds the other. -/
theorem Sound.put (sound : registry.Sound) {id : WindowId} {window : WindowConfig}
    (carried : window.id = id) (windowSound : window.Sound)
    (plain : id ∈ registry.plain → window.isPeriodic = false)
    (periodic : id ∈ registry.periodic → window.isPeriodic = true) :
    (registry.put id window).Sound := by
  refine
    { plainAscending := sound.plainAscending
      periodicAscending := sound.periodicAscending
      plainStored := ?_
      periodicStored := ?_
      filed := sound.filed.put carried
      windows := ?_ }
  · intro other member
    rw [find?_put]
    by_cases same : id = other
    · exact ⟨window, if_pos same, plain (same ▸ member)⟩
    · rw [if_neg same]
      exact sound.plainStored other member
  · intro other member
    rw [find?_put]
    by_cases same : id = other
    · exact ⟨window, if_pos same, periodic (same ▸ member)⟩
    · rw [if_neg same]
      exact sound.periodicStored other member
  · intro other stored found
    rw [find?_put] at found
    split at found
    · cases found
      exact windowSound
    · exact sound.windows other stored found

/-- Changes of stored windows that respect the lists. -/
theorem Sound.of_find? (sound : registry.Sound) {later : Registry}
    (plain : later.plain = registry.plain)
    (periodic : later.periodic.Sublist registry.periodic)
    (found : ∀ id window, later.find? id = some window → ∃ earlier,
      registry.find? id = some earlier ∧ window.id = earlier.id ∧
        window.isPeriodic = earlier.isPeriodic ∧ window.Sound)
    (stored : ∀ id, (registry.find? id).isSome → (later.find? id).isSome) : later.Sound := by
  have kept (id : WindowId) (kind : Bool)
      (earlier : ∃ window, registry.find? id = some window ∧ window.isPeriodic = kind) :
      ∃ window, later.find? id = some window ∧ window.isPeriodic = kind := by
    rcases earlier with ⟨window, foundEarlier, matching⟩
    obtain ⟨next, foundNext⟩ := Option.isSome_iff_exists.mp
      (stored id (Option.isSome_iff_exists.mpr ⟨window, foundEarlier⟩))
    obtain ⟨previous, foundPrevious, _, same, _⟩ := found id next foundNext
    rw [foundEarlier] at foundPrevious
    cases foundPrevious
    exact ⟨next, foundNext, same.trans matching⟩
  refine
    { plainAscending := plain ▸ sound.plainAscending
      periodicAscending := sound.periodicAscending.sublist periodic
      plainStored := ?_
      periodicStored := ?_
      filed := ?_
      windows := ?_ }
  · intro id member
    exact kept id false (sound.plainStored id (plain ▸ member))
  · intro id member
    exact kept id true (sound.periodicStored id (periodic.subset member))
  · intro id window foundLater
    obtain ⟨earlier, foundEarlier, same, _⟩ := found id window foundLater
    exact same.trans (sound.filed id earlier foundEarlier)
  · intro id window foundLater
    obtain ⟨_, _, _, _, windowSound⟩ := found id window foundLater
    exact windowSound

theorem Sound.modifyAll (sound : registry.Sound) {ids : List WindowId} (distinct : ids.Nodup)
    {change : WindowConfig → WindowConfig}
    (keepsId : ∀ window, (change window).id = window.id)
    (keepsList : ∀ window, (change window).isPeriodic = window.isPeriodic)
    (keepsSound : ∀ window, window.Sound → (change window).Sound) :
    (registry.modifyAll ids change).Sound := by
  refine sound.of_find? (plain_modifyAll registry ids change)
    (periodic_modifyAll registry ids change ▸ List.Sublist.refl _) ?_ ?_
  · intro id window found
    rw [find?_modifyAll registry distinct change] at found
    split at found
    · obtain ⟨earlier, foundEarlier, rfl⟩ := Option.map_eq_some_iff.mp found
      exact ⟨earlier, foundEarlier, keepsId earlier, keepsList earlier,
        keepsSound earlier (sound.windows id earlier foundEarlier)⟩
    · exact ⟨window, found, rfl, rfl, sound.windows id window found⟩
  · intro id stored
    rw [find?_modifyAll registry distinct change]
    split
    · simpa using stored
    · exact stored

theorem Sound.deactivate (sound : registry.Sound) (id : WindowId) :
    (registry.deactivate id).Sound := by
  have listed := sound.wellListed.deactivate id
  refine
    { plainAscending := listed.plainAscending
      periodicAscending := listed.periodicAscending
      plainStored := ?_
      periodicStored := ?_
      filed := sound.filed.deactivate id
      windows := ?_ }
  · intro other member
    rw [find?_deactivate]
    exact sound.plainStored other (mem_plain_deactivate.mp member).1
  · intro other member
    rw [find?_deactivate]
    exact sound.periodicStored other (sound.wellListed.mem_periodic_deactivate.mp member).1
  · intro other window found
    rw [find?_deactivate] at found
    exact sound.windows other window found

theorem Sound.delete (sound : registry.Sound) (id : WindowId) : (registry.delete id).Sound := by
  have listed := sound.wellListed.delete id
  refine
    { plainAscending := listed.plainAscending
      periodicAscending := listed.periodicAscending
      plainStored := ?_
      periodicStored := ?_
      filed := sound.filed.delete id
      windows := ?_ }
  · intro other member
    obtain ⟨present, different⟩ := mem_plain_deactivate.mp member
    rw [find?_delete, if_neg (Ne.symm different)]
    exact sound.plainStored other present
  · intro other member
    obtain ⟨present, different⟩ := sound.wellListed.mem_periodic_deactivate.mp member
    rw [find?_delete, if_neg (Ne.symm different)]
    exact sound.periodicStored other present
  · intro other window found
    rw [find?_delete] at found
    split at found
    · cases found
    · exact sound.windows other window found

end Preservation

end Registry

end RestrictedAccess
