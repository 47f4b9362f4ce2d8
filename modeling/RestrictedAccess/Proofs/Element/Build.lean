/-
Generating a payload. For stored windows of generic kind whose indices are in order generation
fails for lack of memory only, and its outcome is known as a whole: the payload carries one
assignment for each selected window, in the order of the selection, and exactly the selected
windows have their spreading state advanced. A window may be selected again; its next assignment
goes on where the last one stopped.
-/

import Mathlib.Algebra.GroupWithZero.Nat
import Mathlib.Data.List.Basic
import RestrictedAccess.Proofs.Element.RoundTrip
import RestrictedAccess.Proofs.Window.Block

namespace RestrictedAccess

open Station Wire

namespace WindowConfig

/-! ### One window -/

def announcing (aids : AidList) (window : WindowConfig) : WindowConfig × AidRange :=
  match window.beaconRange aids with
  | .ok answer => answer
  | .error _ => (window, ⟨window.startAid, window.endAid⟩)

def advanced (aids : AidList) (window : WindowConfig) : WindowConfig :=
  (window.announcing aids).1

def announced (aids : AidList) (window : WindowConfig) : Assignment :=
  Assignment.ofWindow (window.advanced aids) (window.announcing aids).2

theorem announcing_of_beaconRange {window next : WindowConfig} {aids : AidList} {range : AidRange}
    (answered : window.beaconRange aids = .ok (next, range)) :
    window.announcing aids = (next, range) := by
  unfold announcing
  rw [answered]

theorem beaconRange_eq {window : WindowConfig}
    (ordered : window.indices.isResolved = true → window.indices.first ≤ window.indices.last)
    {aids : AidList} (few : aids.size < 65536) :
    window.beaconRange aids = .ok (window.advanced aids, (window.announcing aids).2) := by
  obtain ⟨next, range, answered⟩ := exists_beaconRange ordered few
  unfold advanced
  rw [announcing_of_beaconRange answered]
  exact answered

theorem Sound.beaconRange_eq {window : WindowConfig} (sound : window.Sound) {aids : AidList}
    (few : aids.size < 65536) :
    window.beaconRange aids = .ok (window.advanced aids, (window.announcing aids).2) :=
  WindowConfig.beaconRange_eq sound.ordered few

theorem exists_advanced_eq (aids : AidList) (window : WindowConfig) :
    ∃ last, window.advanced aids = window.spreadTo last := by
  unfold advanced announcing
  split
  · rename_i answered
    exact spreadTo_of_beaconRange answered
  · exact window.exists_spreadTo_self

theorem resting_advanced (aids : AidList) (window : WindowConfig) :
    (window.advanced aids).resting = window.resting := by
  obtain ⟨last, moved⟩ := window.exists_advanced_eq aids
  rw [moved, resting_spreadTo]

theorem assignmentSize_advanced (aids : AidList) (window : WindowConfig) :
    (window.advanced aids).assignmentSize = window.assignmentSize := by
  obtain ⟨last, moved⟩ := window.exists_advanced_eq aids
  rw [moved]
  rfl

theorem size_ofWindow (window : WindowConfig) (range : AidRange) :
    (Assignment.ofWindow window range).size = window.assignmentSize := by
  unfold Assignment.ofWindow Assignment.size assignmentSize isPeriodic
  simp only [Option.isSome_map, Option.isSome_some, Option.isSome_none]
  by_cases immediate : window.startTime = 0
  · cases window.periodic <;> simp [immediate]
  · cases window.periodic <;> simp [immediate]

theorem size_announced (aids : AidList) (window : WindowConfig) :
    (window.announced aids).size = window.assignmentSize := by
  unfold announced
  rw [size_ofWindow, assignmentSize_advanced]

theorem assignmentSize_le (window : WindowConfig) : window.assignmentSize ≤ 10 := by
  unfold assignmentSize
  split <;> split <;> decide

end WindowConfig

namespace Element

/-! ### Sizes -/

variable {registry : Registry} {selection : List WindowId}

def announcements (registry : Registry) (aids : AidList) (selection : List WindowId) :
    List Assignment :=
  selection.filterMap (fun id => (registry.find? id).map (WindowConfig.announced aids))

theorem announcements_cons {id : WindowId} {window : WindowConfig}
    (found : registry.find? id = some window) (aids : AidList) (rest : List WindowId) :
    announcements registry aids (id :: rest) =
      window.announced aids :: announcements registry aids rest := by
  unfold announcements
  rw [List.filterMap_cons, found]
  rfl

/-- The assignments of a selection, each made when its turn comes. A window that is selected again
has been advanced by then. -/
def announcementsInTurn (aids : AidList) : List WindowId → Registry → List Assignment
  | [], _ => []
  | id :: rest, registry =>
      ((registry.find? id).map (WindowConfig.announced aids)).toList ++
        announcementsInTurn aids rest (registry.modify id (WindowConfig.advanced aids))

theorem announcementsInTurn_cons {id : WindowId} {window : WindowConfig}
    (found : registry.find? id = some window) (aids : AidList) (rest : List WindowId) :
    announcementsInTurn aids (id :: rest) registry =
      window.announced aids ::
        announcementsInTurn aids rest (registry.modify id (WindowConfig.advanced aids)) := by
  rw [announcementsInTurn, found]
  rfl

def selectedWindows (registry : Registry) (selection : List WindowId) : List WindowConfig :=
  selection.filterMap registry.find?

theorem selected_eq (stored : ∀ id, id ∈ selection → ∃ window, registry.find? id = some window) :
    selected registry selection = .ok (selectedWindows registry selection) := by
  unfold selected selectedWindows
  induction selection with
  | nil => rfl
  | cons id rest ih =>
      obtain ⟨window, found⟩ := stored id List.mem_cons_self
      have tail := ih (fun other member => stored other (List.mem_cons_of_mem id member))
      rw [List.mapM_cons, found, tail, List.filterMap_cons, found]
      rfl

theorem size_eq_sum {windows : List WindowConfig}
    (generic : ∀ window, window ∈ windows → window.kind = .generic) :
    size windows = .ok (windows.map WindowConfig.assignmentSize).sum := by
  have step (total : Nat) : windows.foldlM
      (fun total window =>
        if window.kind.isSupported then .ok (total + window.assignmentSize)
        else .error (.windowKindSelected window.id window.kind)) total =
      (.ok (total + (windows.map WindowConfig.assignmentSize).sum) : Except Fault Nat) := by
    induction windows generalizing total with
    | nil => rfl
    | cons window rest ih =>
        have supported : window.kind.isSupported = true := by
          rw [generic window List.mem_cons_self]
          rfl
        have tail := ih (fun other member => generic other (List.mem_cons_of_mem window member))
          (total + window.assignmentSize)
        simp only [List.foldlM_cons, if_pos supported]
        rw [List.map_cons, List.sum_cons, ← Nat.add_assoc]
        exact tail
  have whole := step 0
  rw [Nat.zero_add] at whole
  exact whole

theorem sizes_modify (registry : Registry) (aids : AidList) (id : WindowId)
    (selection : List WindowId) :
    (selectedWindows (registry.modify id (WindowConfig.advanced aids)) selection).map
        WindowConfig.assignmentSize =
      (selectedWindows registry selection).map WindowConfig.assignmentSize := by
  unfold selectedWindows
  rw [List.map_filterMap, List.map_filterMap]
  apply List.filterMap_congr
  intro other _member
  rw [Registry.find?_modify registry id (WindowConfig.advanced aids)]
  split
  · rw [Option.map_map]
    exact congrArg (fun view => (registry.find? other).map view)
      (funext (WindowConfig.assignmentSize_advanced aids))
  · rfl

/-- The size that is computed first is the size of the assignments that are written. -/
theorem totalSize_announcementsInTurn (registry : Registry) (aids : AidList)
    (selection : List WindowId) :
    Assignment.totalSize (announcementsInTurn aids selection registry) =
      ((selectedWindows registry selection).map WindowConfig.assignmentSize).sum := by
  induction selection generalizing registry with
  | nil => rfl
  | cons id rest ih =>
      have tail := ih (registry.modify id (WindowConfig.advanced aids))
      rw [sizes_modify] at tail
      cases found : registry.find? id with
      | none =>
          rw [announcementsInTurn, found]
          unfold selectedWindows at tail ⊢
          rw [List.filterMap_cons, found]
          exact tail
      | some window =>
          rw [announcementsInTurn_cons found, Assignment.totalSize_cons,
            WindowConfig.size_announced, tail]
          unfold selectedWindows
          rw [List.filterMap_cons, found]
          rfl

theorem sum_assignmentSize_le (registry : Registry) (selection : List WindowId) :
    ((selectedWindows registry selection).map WindowConfig.assignmentSize).sum ≤
      10 * selection.length := by
  have each (windows : List WindowConfig) :
      (windows.map WindowConfig.assignmentSize).sum ≤ 10 * windows.length := by
    induction windows with
    | nil => exact Nat.zero_le _
    | cons window rest ih =>
        have one := window.assignmentSize_le
        rw [List.map_cons, List.sum_cons, List.length_cons]
        omega
  have fewer : (selectedWindows registry selection).length ≤ selection.length :=
    List.length_filterMap_le registry.find? selection
  exact Nat.le_trans (each _) (Nat.mul_le_mul_left 10 fewer)

/-! ### Writing -/

def Announceable (registry : Registry) (id : WindowId) : Prop :=
  ∃ window, registry.find? id = some window ∧
    (window.indices.isResolved = true → window.indices.first ≤ window.indices.last)

theorem Announceable.modify {id : WindowId} (announceable : Announceable registry id)
    (aids : AidList) (other : WindowId) :
    Announceable (registry.modify other (WindowConfig.advanced aids)) id := by
  obtain ⟨window, found, ordered⟩ := announceable
  unfold Announceable
  rw [Registry.find?_modify registry other (WindowConfig.advanced aids), found, Option.map_some]
  split
  · refine ⟨window.advanced aids, rfl, ?_⟩
    rw [WindowConfig.indices_of_resting (window.resting_advanced aids)]
    exact ordered
  · exact ⟨window, rfl, ordered⟩

theorem writeSelected_eq (announceable : ∀ id, id ∈ selection → Announceable registry id)
    {aids : AidList} (few : aids.size < 65536) (buffer : Buffer)
    (room : Assignment.totalSize (announcementsInTurn aids selection registry) ≤
      buffer.remaining) :
    writeSelected aids selection registry buffer =
      (registry.modifyAll selection (WindowConfig.advanced aids),
        .ok { buffer with
          written := buffer.written ++
            ParameterSet.payloadOf (announcementsInTurn aids selection registry) }) := by
  induction selection generalizing registry buffer with
  | nil =>
      rw [writeSelected]
      change _ = (registry, Except.ok { buffer with written := buffer.written ++ [] })
      rw [List.append_nil]
  | cons id rest ih =>
      obtain ⟨window, found, ordered⟩ := announceable id List.mem_cons_self
      have put : registry.put id (window.advanced aids) =
          registry.modify id (WindowConfig.advanced aids) := by
        unfold Registry.modify
        rw [found]
      rw [announcementsInTurn_cons found, Assignment.totalSize_cons] at room
      have fits : (window.announced aids).size ≤ buffer.remaining := by omega
      have tail := ih (fun other member =>
          (announceable other (List.mem_cons_of_mem id member)).modify aids id)
        _ ((window.announced aids).remaining_write room)
      have announced : (Assignment.ofWindow (window.advanced aids)
          (window.announcing aids).2).write buffer =
            .ok { buffer with written := buffer.written ++ (window.announced aids).bytes } :=
        Assignment.write_eq _ fits
      rw [writeSelected, found]
      simp only [WindowConfig.beaconRange_eq ordered few, announced, put, tail,
        announcementsInTurn_cons found, ParameterSet.payloadOf_cons, List.append_assoc]
      rfl

theorem build_of_announceable (announceable : ∀ id, id ∈ selection → Announceable registry id)
    (generic : ∀ window, window ∈ selectedWindows registry selection → window.kind = .generic)
    {aids : AidList} (few : aids.size < 65536)
    (fits : ((selectedWindows registry selection).map WindowConfig.assignmentSize).sum ≤
      maxAllocation) :
    build registry selection aids =
      (registry.modifyAll selection (WindowConfig.advanced aids),
        .ok (ParameterSet.payloadOf (announcementsInTurn aids selection registry))) := by
  by_cases empty : selection = []
  · subst empty
    rfl
  · have total := totalSize_announcementsInTurn registry aids selection
    have buffer : selectedSize registry selection >>= Buffer.withCapacity =
        .ok ⟨Assignment.totalSize (announcementsInTurn aids selection registry), [], 0⟩ := by
      unfold selectedSize
      rw [selected_eq (fun id member => (announceable id member).imp (fun _ found => found.1)),
        total]
      change size (selectedWindows registry selection) >>= Buffer.withCapacity = _
      rw [size_eq_sum generic]
      exact if_pos fits
    have written := writeSelected_eq announceable few
      ⟨Assignment.totalSize (announcementsInTurn aids selection registry), [], 0⟩ (Nat.le_refl _)
    unfold build
    rw [if_neg empty, buffer]
    simp only [written, List.nil_append, Buffer.isFull, Buffer.position,
      ParameterSet.length_payloadOf, decide_true, if_true]

/-! ### Distinct windows -/

theorem totalSize_announcements_le (registry : Registry) (aids : AidList)
    (selection : List WindowId) :
    Assignment.totalSize (announcements registry aids selection) ≤ 10 * selection.length := by
  have each (windows : List WindowConfig) :
      Assignment.totalSize (windows.map (WindowConfig.announced aids)) =
        (windows.map WindowConfig.assignmentSize).sum := by
    induction windows with
    | nil => rfl
    | cons window rest ih =>
        rw [List.map_cons, Assignment.totalSize_cons, WindowConfig.size_announced, ih,
          List.map_cons, List.sum_cons]
  have mapped : announcements registry aids selection =
      (selectedWindows registry selection).map (WindowConfig.announced aids) :=
    (List.map_filterMap ..).symm
  rw [mapped, each]
  exact sum_assignmentSize_le registry selection

theorem announcements_modify (registry : Registry) {id : WindowId}
    (change : WindowConfig → WindowConfig) (aids : AidList) (absent : id ∉ selection) :
    announcements (registry.modify id change) aids selection =
      announcements registry aids selection := by
  unfold announcements
  apply List.filterMap_congr
  intro other member
  have different : id ≠ other := fun same => absent (same ▸ member)
  rw [Registry.find?_modify registry id change, if_neg different]

/-- Windows that are selected once are all announced as they are stored. -/
theorem announcementsInTurn_eq (registry : Registry) (aids : AidList)
    (distinct : selection.Nodup) :
    announcementsInTurn aids selection registry = announcements registry aids selection := by
  induction selection generalizing registry with
  | nil => rfl
  | cons id rest ih =>
      rcases List.nodup_cons.mp distinct with ⟨absent, restDistinct⟩
      rw [announcementsInTurn, ih _ restDistinct,
        announcements_modify registry (WindowConfig.advanced aids) aids absent]
      unfold announcements
      rw [List.filterMap_cons]
      cases registry.find? id <;> rfl

theorem build_eq (sound : registry.Sound) (distinct : selection.Nodup)
    (stored : ∀ id, id ∈ selection → ∃ window, registry.find? id = some window)
    {aids : AidList} (few : aids.size < 65536) (short : selection.length ≤ 131072) :
    build registry selection aids =
      (registry.modifyAll selection (WindowConfig.advanced aids),
        .ok (ParameterSet.payloadOf (announcements registry aids selection))) := by
  rw [← announcementsInTurn_eq registry aids distinct]
  apply build_of_announceable
  · intro id member
    obtain ⟨window, found⟩ := stored id member
    exact ⟨window, found, (sound.windows id window found).ordered⟩
  · intro window member
    obtain ⟨id, _, found⟩ := List.mem_filterMap.mp member
    exact (sound.windows id window found).generic
  · exact few
  · have bounded := sum_assignmentSize_le registry selection
    unfold maxAllocation
    omega

end Element

end RestrictedAccess
