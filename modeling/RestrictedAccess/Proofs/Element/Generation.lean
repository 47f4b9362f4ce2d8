/-
Generation is all or nothing for every selection, in any order and with repetitions. A selected
identifier without a window or a window of a kind that is never generated is found while the size
is computed, when nothing has been advanced. Once the size is known no step can fail: every window
writes an assignment of just the size that was counted for it, so the buffer neither overflows nor
stays open, and the last stations of spread windows are all that changes in the registry.
-/

import Mathlib.Data.List.Forall2
import RestrictedAccess.Proofs.Element.Build

namespace RestrictedAccess

open Station Wire

namespace WindowConfig

/-! ### What is written for a window -/

/-- The assignment of a window for one of the ranges it announces, wherever its spreading stands. -/
def Generates (window : WindowConfig) (aids : AidList) (assignment : Assignment) : Prop :=
  ∃ last next range, (window.spreadTo last).beaconRange aids = .ok (next, range) ∧
    assignment = Assignment.ofWindow next range

theorem generates_announced {window : WindowConfig}
    (ordered : window.indices.isResolved = true → window.indices.first ≤ window.indices.last)
    {aids : AidList} (few : aids.size < 65536) :
    window.Generates aids (window.announced aids) := by
  obtain ⟨last, stands⟩ := window.exists_spreadTo_self
  refine ⟨last, window.advanced aids, (window.announcing aids).2, ?_, rfl⟩
  rw [← stands]
  exact beaconRange_eq ordered few

theorem Generates.of_spreadTo {window : WindowConfig} {aids : AidList} {assignment : Assignment}
    {last : Aid} (generates : (window.spreadTo last).Generates aids assignment) :
    window.Generates aids assignment := by
  obtain ⟨earlier, next, range, answered, generated⟩ := generates
  rw [spreadTo_spreadTo] at answered
  exact ⟨earlier, next, range, answered, generated⟩

end WindowConfig

namespace Registry

/-! ### What generation may change -/

structure SpreadFurther (earlier later : Registry) (selection : List WindowId) : Prop where
  plain : later.plain = earlier.plain
  periodic : later.periodic = earlier.periodic
  unselected : ∀ id, id ∉ selection → later.find? id = earlier.find? id
  selected : ∀ id, ∃ last,
    later.find? id = (earlier.find? id).map (WindowConfig.spreadTo last)

theorem spreadFurther_refl (registry : Registry) : registry.SpreadFurther registry [] := by
  refine
    { plain := rfl
      periodic := rfl
      unselected := fun _ _ => rfl
      selected := ?_ }
  intro id
  cases registry.find? id with
  | none => exact ⟨0, rfl⟩
  | some window => exact window.exists_spreadTo_self.imp (fun _ => congrArg some)

theorem spreadFurther_modify (registry : Registry) (aids : AidList) (id : WindowId) :
    registry.SpreadFurther (registry.modify id (WindowConfig.advanced aids)) [id] := by
  have looked := registry.find?_modify id (WindowConfig.advanced aids)
  refine
    { plain := plain_modify registry id _
      periodic := periodic_modify registry id _
      unselected := ?_
      selected := ?_ }
  · intro other absent
    rw [looked, if_neg (fun same => absent (List.mem_singleton.mpr same.symm))]
  · intro other
    rw [looked]
    split
    · cases registry.find? other with
      | none => exact ⟨0, rfl⟩
      | some window => exact (window.exists_advanced_eq aids).imp (fun _ => congrArg some)
    · exact registry.spreadFurther_refl.selected other

theorem SpreadFurther.append {registry next later : Registry} {front back : List WindowId}
    (before : registry.SpreadFurther next front) (after : next.SpreadFurther later back) :
    registry.SpreadFurther later (front ++ back) := by
  refine
    { plain := after.plain.trans before.plain
      periodic := after.periodic.trans before.periodic
      unselected := ?_
      selected := ?_ }
  · intro id absent
    rw [after.unselected id (fun member => absent (List.mem_append_right front member)),
      before.unselected id (fun member => absent (List.mem_append_left back member))]
  · intro id
    obtain ⟨earlier, foundNext⟩ := before.selected id
    obtain ⟨last, foundLater⟩ := after.selected id
    refine ⟨last, ?_⟩
    rw [foundLater, foundNext, Option.map_map]
    exact congrArg (fun change => (registry.find? id).map change)
      (funext (fun window => window.spreadTo_spreadTo earlier last))

theorem spreadFurther_modifyAll (registry : Registry) (aids : AidList)
    (selection : List WindowId) :
    registry.SpreadFurther (registry.modifyAll selection (WindowConfig.advanced aids))
      selection := by
  induction selection generalizing registry with
  | nil => exact registry.spreadFurther_refl
  | cons id rest ih =>
      exact (registry.spreadFurther_modify aids id).append
        (ih (registry.modify id (WindowConfig.advanced aids)))

end Registry

namespace Element

variable {registry : Registry} {selection : List WindowId}

/-! ### Selections that are refused -/

def missing? (registry : Registry) (selection : List WindowId) : Option WindowId :=
  selection.find? (fun id => (registry.find? id).isNone)

def unsupported? (registry : Registry) (selection : List WindowId) : Option WindowConfig :=
  (selectedWindows registry selection).find? (fun window => !window.kind.isSupported)

theorem missing?_eq_none_iff : missing? registry selection = none ↔
    ∀ id, id ∈ selection → ∃ window, registry.find? id = some window := by
  unfold missing?
  simp only [List.find?_eq_none, Option.isNone_iff_eq_none, Option.ne_none_iff_exists']

theorem unsupported?_eq_none_iff : unsupported? registry selection = none ↔
    ∀ window, window ∈ selectedWindows registry selection → window.kind = .generic := by
  unfold unsupported? WindowKind.isSupported
  simp only [List.find?_eq_none, Bool.not_eq_true', decide_eq_false_iff_not, not_not]

theorem selected_of_missing {id : WindowId} (absent : missing? registry selection = some id) :
    selected registry selection = .error (.selectedWindowMissing id) := by
  unfold missing? at absent
  unfold selected
  induction selection with
  | nil => cases absent
  | cons head rest ih =>
      rw [List.find?_cons] at absent
      rw [List.mapM_cons]
      cases found : registry.find? head with
      | none =>
          rw [found] at absent
          cases absent
          rfl
      | some window =>
          rw [found] at absent
          rw [ih absent]
          rfl

theorem size_of_unsupported {windows : List WindowConfig} {window : WindowConfig}
    (refused : windows.find? (fun window => !window.kind.isSupported) = some window) :
    size windows = .error (.windowKindSelected window.id window.kind) := by
  unfold size
  generalize 0 = total
  induction windows generalizing total with
  | nil => cases refused
  | cons head rest ih =>
      rw [List.find?_cons] at refused
      rw [List.foldlM_cons]
      cases supported : head.kind.isSupported with
      | false =>
          rw [supported] at refused
          cases refused
          rfl
      | true =>
          rw [supported] at refused
          exact ih refused (total + head.assignmentSize)

theorem build_of_refused {fault : Fault} (nonempty : selection ≠ [])
    (refused : selectedSize registry selection >>= Buffer.withCapacity = .error fault)
    (aids : AidList) : build registry selection aids = (registry, .error fault) := by
  unfold build
  rw [if_neg nonempty, refused]

theorem build_of_missing {id : WindowId} (absent : missing? registry selection = some id)
    (aids : AidList) :
    build registry selection aids = (registry, .error (.selectedWindowMissing id)) := by
  refine build_of_refused ?_ ?_ aids
  · rintro rfl
    cases absent
  · unfold selectedSize
    rw [selected_of_missing absent]
    rfl

theorem selectedSize_of_stored (stored : missing? registry selection = none) :
    selectedSize registry selection = size (selectedWindows registry selection) := by
  unfold selectedSize
  rw [selected_eq (missing?_eq_none_iff.mp stored)]
  rfl

theorem build_of_unsupported {window : WindowConfig}
    (stored : missing? registry selection = none)
    (refused : unsupported? registry selection = some window) (aids : AidList) :
    build registry selection aids =
      (registry, .error (.windowKindSelected window.id window.kind)) := by
  refine build_of_refused ?_ ?_ aids
  · rintro rfl
    cases refused
  · rw [selectedSize_of_stored stored, size_of_unsupported refused]
    rfl

theorem build_of_oversized (stored : missing? registry selection = none)
    (generic : unsupported? registry selection = none)
    (long : maxAllocation <
      ((selectedWindows registry selection).map WindowConfig.assignmentSize).sum)
    (aids : AidList) :
    build registry selection aids = (registry, .error .bufferTooLarge) := by
  refine build_of_refused ?_ ?_ aids
  · rintro rfl
    exact Nat.not_lt_zero _ long
  · rw [selectedSize_of_stored stored, size_eq_sum (unsupported?_eq_none_iff.mp generic)]
    exact if_neg (Nat.not_le.mpr long)

/-! ### Selections that are generated -/

def WritesFor (registry : Registry) (aids : AidList) (id : WindowId)
    (assignment : Assignment) : Prop :=
  ∃ window, registry.find? id = some window ∧ window.Generates aids assignment ∧
    assignment.size = window.assignmentSize

theorem WritesFor.of_modify {aids : AidList} {head id : WindowId} {assignment : Assignment}
    (writes : WritesFor (registry.modify head (WindowConfig.advanced aids)) aids id assignment) :
    WritesFor registry aids id assignment := by
  obtain ⟨moved, foundMoved, generates, size⟩ := writes
  obtain ⟨last, spread⟩ := (registry.spreadFurther_modify aids head).selected id
  rw [foundMoved] at spread
  obtain ⟨window, found, rfl⟩ := Option.map_eq_some_iff.mp spread.symm
  exact ⟨window, found, generates.of_spreadTo, size⟩

theorem writesFor_announcementsInTurn
    (announceable : ∀ id, id ∈ selection → Announceable registry id)
    {aids : AidList} (few : aids.size < 65536) :
    List.Forall₂ (WritesFor registry aids) selection
      (announcementsInTurn aids selection registry) := by
  induction selection generalizing registry with
  | nil => exact List.Forall₂.nil
  | cons id rest ih =>
      obtain ⟨window, found, ordered⟩ := announceable id List.mem_cons_self
      have tail := ih (fun other member =>
        (announceable other (List.mem_cons_of_mem id member)).modify aids id)
      rw [announcementsInTurn_cons found]
      exact List.Forall₂.cons
        ⟨window, found, WindowConfig.generates_announced ordered few,
          window.size_announced aids⟩
        (tail.imp (fun _ _ => WritesFor.of_modify))

/-- A generated payload is as long as was computed for it, holds one assignment for each selected
identifier in turn, and leaves everything in the registry but last stations. -/
structure Generation (registry later : Registry) (selection : List WindowId) (aids : AidList)
    (payload : List UInt8) : Prop where
  sized : selectedSize registry selection = .ok payload.length
  summed : payload.length =
    ((selectedWindows registry selection).map WindowConfig.assignmentSize).sum
  written : payload = ParameterSet.payloadOf (announcementsInTurn aids selection registry)
  inTurn : List.Forall₂ (WritesFor registry aids) selection
    (announcementsInTurn aids selection registry)
  spread : registry.SpreadFurther later selection

/-- What becomes of a selection. The faults are told in the order in which they are looked for. -/
structure AllOrNothing (registry : Registry) (selection : List WindowId) (aids : AidList) :
    Prop where
  missing : (∃ id, id ∈ selection ∧ registry.find? id = none) →
    ∃ id, missing? registry selection = some id ∧
      build registry selection aids = (registry, .error (.selectedWindowMissing id)) ∧
      (Fault.selectedWindowMissing id).category = .internalInconsistency
  unsupported : (∀ id, id ∈ selection → ∃ window, registry.find? id = some window) →
    (∃ window, window ∈ selectedWindows registry selection ∧ window.kind ≠ .generic) →
    ∃ window, unsupported? registry selection = some window ∧
      build registry selection aids =
        (registry, .error (.windowKindSelected window.id window.kind)) ∧
      (Fault.windowKindSelected window.id window.kind).category = .unsupported
  generated : (∀ id, id ∈ selection → ∃ window, registry.find? id = some window) →
    (∀ window, window ∈ selectedWindows registry selection → window.kind = .generic) →
    if ((selectedWindows registry selection).map WindowConfig.assignmentSize).sum ≤
        maxAllocation then
      ∃ later payload, build registry selection aids = (later, .ok payload) ∧
        Generation registry later selection aids payload
    else build registry selection aids = (registry, .error .bufferTooLarge)

theorem build_all_or_nothing {aids : AidList} (few : aids.size < 65536)
    (ordered : ∀ id, id ∈ selection → ∀ window, registry.find? id = some window →
      window.indices.isResolved = true → window.indices.first ≤ window.indices.last) :
    AllOrNothing registry selection aids := by
  refine
    { missing := ?missing
      unsupported := ?unsupported
      generated := ?generated }
  case missing =>
    rintro ⟨other, member, absent⟩
    obtain ⟨id, first⟩ : ∃ id, missing? registry selection = some id := by
      refine Option.ne_none_iff_exists'.mp (fun stored => ?_)
      obtain ⟨window, found⟩ := missing?_eq_none_iff.mp stored other member
      rw [absent] at found
      cases found
    exact ⟨id, first, build_of_missing first aids, rfl⟩
  case unsupported =>
    rintro stored ⟨other, member, special⟩
    obtain ⟨window, first⟩ : ∃ window, unsupported? registry selection = some window :=
      Option.ne_none_iff_exists'.mp
        (fun generic => special (unsupported?_eq_none_iff.mp generic other member))
    exact ⟨window, first, build_of_unsupported (missing?_eq_none_iff.mpr stored) first aids, rfl⟩
  case generated =>
    intro stored generic
    have found := missing?_eq_none_iff.mpr stored
    have announceable : ∀ id, id ∈ selection → Announceable registry id := by
      intro id member
      obtain ⟨window, present⟩ := stored id member
      exact ⟨window, present, ordered id member window present⟩
    have length : (ParameterSet.payloadOf (announcementsInTurn aids selection registry)).length =
        ((selectedWindows registry selection).map WindowConfig.assignmentSize).sum := by
      rw [ParameterSet.length_payloadOf, totalSize_announcementsInTurn]
    split
    · rename_i fits
      refine ⟨_, _, build_of_announceable announceable generic few fits, ?_⟩
      exact
        { sized := by rw [selectedSize_of_stored found, size_eq_sum generic, length]
          summed := length
          written := rfl
          inTurn := writesFor_announcementsInTurn announceable few
          spread := registry.spreadFurther_modifyAll aids selection }
    · rename_i long
      exact build_of_oversized found (unsupported?_eq_none_iff.mpr generic) (Nat.not_le.mp long)
        aids

/-- A spread window, a scheduled one with a start time, and one of a kind that is not generated. -/
def mixedRegistry : Registry :=
  ((Registry.empty.put 1
      { WindowConfig.generic 1 3 9 ⟨4, 1000, false⟩ with
        indices := ⟨1, 3⟩
        spreading := some ⟨0, 2, 0⟩ }).put 2
      { WindowConfig.generic 2 20 40 ⟨4, 1000, false⟩ with
        startTime := 4096
        periodic := some (.new 4 8 1 false) }).put 5
    { WindowConfig.generic 5 1 9 ⟨4, 1000, false⟩ with kind := .sounding }

/-- The spread window is selected three times, on both sides of the scheduled one. -/
theorem build_all_or_nothing_with_repetitions :
    (build mixedRegistry [1, 2, 1, 1] ⟨[2, 3, 6, 9]⟩).2.map List.length = .ok 28 ∧
      (build mixedRegistry [1, 5, 1] ⟨[2, 3, 6, 9]⟩).2 = .error (.windowKindSelected 5 .sounding) ∧
      (build mixedRegistry [5, 1, 4] ⟨[2, 3, 6, 9]⟩).2 = .error (.selectedWindowMissing 4) ∧
      ∀ selection, AllOrNothing mixedRegistry selection ⟨[2, 3, 6, 9]⟩ := by
  have inOrder : ∀ window, window ∈ mixedRegistry.table.windows →
      window.indices.isResolved = true → window.indices.first ≤ window.indices.last := by decide
  refine ⟨by decide, by decide, by decide, fun selection => ?_⟩
  exact build_all_or_nothing (by decide)
    (fun id _ window found => inOrder window (WindowTable.mem_windows_iff.mpr ⟨id, found⟩))

end Element

end RestrictedAccess
