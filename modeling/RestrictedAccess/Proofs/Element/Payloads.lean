/-
Payloads on both ways. Writing and reading gives the assignments back as receivers see them.
Reading and writing gives a payload of the same length that is read as the same assignments; it is
the same payload exactly when every assignment in it stands in the form that a writer chooses.
-/

import Mathlib.Algebra.GroupWithZero.Nat
import RestrictedAccess.Proofs.Element.Frames

namespace RestrictedAccess

open Wire

namespace Assignment

/-! ### What receivers see -/

theorem decode_encode_eq_iff (slot : SlotDefinition) :
    SlotDefinition.decode slot.encode = slot ↔ ∃ field, slot = SlotDefinition.decode field := by
  constructor
  · intro same
    exact ⟨slot.encode, same.symm⟩
  · rintro ⟨field, rfl⟩
    exact SlotDefinition.decode_encode_decode field

theorem range_onAir_eq_iff (range : AidRange) :
    range.onAir = range ↔ range.first < 2048 ∧ range.last < 2048 := by
  have reduced (aid : Aid) : aid % 2048 = aid ↔ aid < 2048 := by
    rw [← UInt16.toNat_inj, UInt16.toNat_mod, UInt16.lt_iff_toNat_lt]
    change aid.toNat % 2048 = aid.toNat ↔ aid.toNat < 2048
    omega
  rw [AidRange.onAir_eq]
  cases range with
  | mk first last => simp only [AidRange.mk.injEq, reduced]

theorem onAir_eq_iff (assignment : Assignment) :
    assignment.onAir = assignment ↔
      (∃ field, assignment.slot = SlotDefinition.decode field) ∧
        ∀ range, assignment.group = some range → range.first < 2048 ∧ range.last < 2048 := by
  have slot := decode_encode_eq_iff assignment.slot
  have group : assignment.group.map AidRange.onAir = assignment.group ↔
      ∀ range, assignment.group = some range → range.first < 2048 ∧ range.last < 2048 := by
    cases assignment.group with
    | none => simp
    | some range => simp [range_onAir_eq_iff]
  rw [← slot, ← group]
  cases assignment with
  | mk kind slot startTime group channel periodic => simp [onAir]

theorem size_le (assignment : Assignment) : assignment.size ≤ 12 := by
  have startTime := assignment.startTime.isSome.toNat_le
  have group := assignment.group.isSome.toNat_le
  have channel := assignment.channel.isSome.toNat_le
  have periodic := assignment.periodic.isSome.toNat_le
  unfold size
  omega

theorem totalSize_eq_sum (assignments : List Assignment) :
    totalSize assignments = (assignments.map size).sum := by
  induction assignments with
  | nil => rfl
  | cons assignment rest ih => rw [totalSize_cons, ih, List.map_cons, List.sum_cons]

theorem totalSize_le (assignments : List Assignment) :
    totalSize assignments ≤ 12 * assignments.length := by
  induction assignments with
  | nil => exact Nat.le_refl 0
  | cons assignment rest ih =>
      have first := assignment.size_le
      rw [totalSize_cons, List.length_cons]
      omega

end Assignment

namespace ParameterSet

/-- Writing fails only for want of memory. -/
theorem encode_eq_if (set : ParameterSet) :
    set.encode =
      if (payloadOf set.assignments).length ≤ maxAllocation then .ok (payloadOf set.assignments)
      else .error .bufferTooLarge := by
  rw [length_payloadOf]
  by_cases fits : Assignment.totalSize set.assignments ≤ maxAllocation
  · rw [if_pos fits]
    exact set.encode_eq fits
  · have tooLarge : ¬ set.size ≤ maxAllocation := fits
    unfold encode Buffer.withCapacity
    rw [if_neg fits, if_neg tooLarge]
    rfl

/-- The payload of any assignments is read as the same assignments in the same order, each of them
with its slots in the steps of the air format and its identifiers modulo 2048. Those that fit the
air format, and no others, are read unchanged. -/
theorem encoding_read_back (set : ParameterSet) :
    ∃ payload : List UInt8,
      payload.length = (set.assignments.map Assignment.size).sum ∧
      payload.length ≤ 12 * set.assignments.length ∧
      set.encode =
        (if payload.length ≤ maxAllocation then .ok payload else .error .bufferTooLarge) ∧
      decode payload = .ok ⟨set.assignments.map (fun assignment =>
        { assignment with
          slot := SlotDefinition.decode assignment.slot.encode
          group := assignment.group.map (fun range =>
            ⟨range.first % 2048, range.last % 2048⟩) })⟩ ∧
      (decode payload = .ok set ↔ ∀ assignment, assignment ∈ set.assignments →
        (∃ field, assignment.slot = SlotDefinition.decode field) ∧
          ∀ range, assignment.group = some range → range.first < 2048 ∧ range.last < 2048) := by
  have length := length_payloadOf set.assignments
  have total := Assignment.totalSize_eq_sum set.assignments
  have bound : (payloadOf set.assignments).length ≤ 12 * set.assignments.length := by
    rw [length]
    exact Assignment.totalSize_le set.assignments
  have read := decode_payloadOf set.assignments
  have seen : Assignment.onAir = fun assignment : Assignment =>
      { assignment with
        slot := SlotDefinition.decode assignment.slot.encode
        group := assignment.group.map (fun range =>
          ⟨range.first % 2048, range.last % 2048⟩) } := by
    funext assignment
    unfold Assignment.onAir
    rw [funext AidRange.onAir_eq]
  refine ⟨payloadOf set.assignments, length.trans total, bound, set.encode_eq_if, ?_, ?_⟩
  · rw [read, seen]
  · have unchanged : decode (payloadOf set.assignments) = .ok set ↔
        set.assignments.map Assignment.onAir = set.assignments.map id := by
      rw [read, List.map_id]
      cases set with
      | mk assignments => simp
    rw [unchanged, List.map_inj_left]
    exact forall₂_congr (fun assignment _member => assignment.onAir_eq_iff)

end ParameterSet

/-! ### Writing what was read -/

namespace Assignment

namespace Frame

/-- The form that a writer chooses: the reserved bits of the control byte and the page of the
group are clear, and the extended slot layout is not used for a short duration. -/
structure Canonical (frame : Frame) : Prop where
  reserved : frame.control.toNat / 4 % 4 = 0
  page : ofLittleEndian frame.group % 4 = 0
  layout : ¬ (SlotDefinition.IsExtended frame.slotField ∧
    SlotDefinition.durationPart frame.slotField ≤ 255)

theorem isSome_announced {α : Type} (announced : Bool) (value : α) :
    (if announced then some value else none).isSome = announced := by
  cases announced <;> rfl

theorem size_assignment (frame : Frame) : frame.assignment.size = frame.bytes.length := by
  simp only [size, assignment, isSome_announced, bytes, List.length_cons, List.length_append,
    frame.length_slot, frame.length_startTime, frame.length_group, frame.length_channel,
    frame.length_periodic]
  omega

theorem toNat_slotField (frame : Frame) :
    frame.slotField.toNat = ofLittleEndian frame.slot := by
  have small := ofLittleEndian_lt frame.slot
  rw [frame.length_slot] at small
  exact UInt16.toNat_ofNat_of_lt' small

theorem controlValue_assignment (frame : Frame) :
    frame.assignment.controlValue + 4 * (frame.control.toNat / 4 % 4) =
      frame.control.toNat := by
  have small := frame.control.toNat_lt
  have kind : (controlKind frame.control.toNat).code = frame.control.toNat % 4 := by
    have four : frame.control.toNat % 4 < 4 := Nat.mod_lt _ (by decide)
    unfold controlKind
    generalize frame.control.toNat % 4 = code at four
    match code, four with
    | 0, _ => rfl
    | 1, _ => rfl
    | 2, _ => rfl
    | 3, _ => rfl
  simp only [controlValue, assignment, isSome_announced, kind, Nat.toNat_testBit]
  omega

theorem control_iff (frame : Frame) :
    UInt8.ofNat frame.assignment.controlValue = frame.control ↔
      frame.control.toNat / 4 % 4 = 0 := by
  have whole := frame.controlValue_assignment
  have read : (UInt8.ofNat frame.assignment.controlValue).toNat =
      frame.assignment.controlValue :=
    UInt8.toNat_ofNat_of_lt' frame.assignment.controlValue_lt
  rw [← UInt8.toNat_inj, read]
  omega

theorem slot_iff (frame : Frame) :
    littleEndian 2 frame.assignment.slot.encode.toNat = frame.slot ↔
      ¬ (SlotDefinition.IsExtended frame.slotField ∧
        SlotDefinition.durationPart frame.slotField ≤ 255) := by
  have fits : frame.assignment.slot.encode.toNat < Nat.pow 256 frame.slot.length := by
    rw [frame.length_slot]
    exact frame.assignment.slot.encode.toNat_lt
  have written := littleEndian_eq_iff fits
  rw [frame.length_slot, ← frame.toNat_slotField, UInt16.toNat_inj] at written
  exact written.trans (SlotDefinition.encode_decode_iff frame.slotField)

/-- What is written for an announced part is the part if it is written for its value; a part that
is not announced is empty. -/
theorem written_iff {α : Type} {announced : Bool} {width : Nat} {part : List UInt8}
    (exactly : part.length = width * announced.toNat) (value : α) (write : α → List UInt8) :
    ((if announced then some value else none).map write).getD [] = part ↔
      (announced = true → write value = part) := by
  cases announced with
  | false =>
      rw [List.eq_nil_of_length_eq_zero exactly]
      simp
  | true => simp

theorem written_startTime (frame : Frame) :
    (frame.assignment.startTime.map (fun units => [units])).getD [] = frame.startTime := by
  refine (written_iff frame.length_startTime _ _).mpr ?_
  intro announced
  have one := frame.length_startTime
  rw [announced] at one
  rcases List.length_eq_one_iff.mp one with ⟨units, same⟩
  rw [same]
  simp [ofLittleEndian]

theorem written_channel (frame : Frame) :
    (frame.assignment.channel.map (fun channel => littleEndian 2 channel.toNat)).getD [] =
      frame.channel := by
  refine (written_iff frame.length_channel _ _).mpr ?_
  intro announced
  have two : frame.channel.length = 2 := by
    rw [frame.length_channel, announced]
    rfl
  exact littleEndian_ofNat16 two

theorem written_periodic (frame : Frame) :
    (frame.assignment.periodic.map (fun schedule =>
      [schedule.periodicity, schedule.validity, schedule.startOffset])).getD [] =
      frame.periodic := by
  refine (written_iff frame.length_periodic _ _).mpr ?_
  intro announced
  have three := frame.length_periodic
  rw [announced] at three
  rcases List.length_eq_three.mp three with ⟨periodicity, validity, startOffset, same⟩
  rw [same]
  rfl

/-- A group that was read keeps all bits but those of the page. -/
theorem groupValue_ofGroupValue {value : Nat} (fits : value < Nat.pow 256 3) :
    groupValue (ofGroupValue value) = 4 * (value / 4) := by
  have small : value < 16777216 := fits
  have aid (number : Nat) :
      (UInt16.ofNat (number % announcedAids)).toNat = number % announcedAids :=
    UInt16.toNat_ofNat_of_lt'
      (Nat.lt_trans (Nat.mod_lt _ (by decide)) (by decide : announcedAids < 65536))
  unfold groupValue ofGroupValue
  simp only [aid, Nat.mod_mod]
  change 4 * (value / 4 % 2048) + 8192 * (value / 8192 % 2048) = _
  omega

theorem group_iff (frame : Frame) :
    (frame.assignment.group.map (fun range => littleEndian 3 (groupValue range))).getD [] =
      frame.group ↔ ofLittleEndian frame.group % 4 = 0 := by
  refine (written_iff frame.length_group _ _).trans ?_
  cases announced : frame.control.toNat.testBit 5 with
  | false =>
      have none := frame.length_group
      rw [announced] at none
      rw [List.eq_nil_of_length_eq_zero none]
      simp [ofLittleEndian]
  | true =>
      have three : frame.group.length = 3 := by
        rw [frame.length_group, announced]
        rfl
      have small := ofLittleEndian_lt frame.group
      have fits := groupValue_lt (ofGroupValue (ofLittleEndian frame.group))
      rw [← three] at fits
      have written := littleEndian_eq_iff fits
      rw [three] at written small
      rw [groupValue_ofGroupValue small] at written
      have paged : 4 * (ofLittleEndian frame.group / 4) = ofLittleEndian frame.group ↔
          ofLittleEndian frame.group % 4 = 0 := by omega
      simp only [forall_const, groupValue_ofGroupValue small]
      exact written.trans paged

/-- What was read is written as the same bytes exactly in the form that a writer chooses. -/
theorem bytes_assignment_iff (frame : Frame) :
    frame.assignment.bytes = frame.bytes ↔ frame.Canonical := by
  have slot : (littleEndian 2 frame.assignment.slot.encode.toNat).length = frame.slot.length := by
    rw [length_littleEndian, frame.length_slot]
  have group : ((frame.assignment.group.map (fun range =>
      littleEndian 3 (groupValue range))).getD []).length = frame.group.length := by
    rw [frame.length_group]
    simp only [assignment]
    cases frame.control.toNat.testBit 5 <;> simp
  rw [bytes_eq, frame.written_startTime, frame.written_channel, frame.written_periodic]
  unfold bytes
  rw [List.cons.injEq, List.append_eq_append_iff_of_size_eq_left slot, List.append_right_inj,
    List.append_eq_append_iff_of_size_eq_left group, frame.control_iff, frame.slot_iff,
    frame.group_iff]
  constructor
  · rintro ⟨reserved, layout, page, _rest⟩
    exact ⟨reserved, page, layout⟩
  · intro canonical
    exact ⟨canonical.reserved, canonical.layout, canonical.page, rfl⟩

theorem ofGroupValue_lt (value : Nat) :
    (ofGroupValue value).first < 2048 ∧ (ofGroupValue value).last < 2048 := by
  have small (number : Nat) : UInt16.ofNat (number % announcedAids) < 2048 := by
    have bounded : number % announcedAids < 2048 := Nat.mod_lt _ (by decide)
    rw [UInt16.lt_iff_toNat_lt, UInt16.toNat_ofNat_of_lt' (Nat.lt_trans bounded (by decide))]
    exact bounded
  exact ⟨small _, small _⟩

theorem onAir_assignment (frame : Frame) : frame.assignment.onAir = frame.assignment := by
  rw [onAir_eq_iff]
  constructor
  · exact ⟨frame.slotField, rfl⟩
  · intro range found
    simp only [assignment] at found
    split at found
    · cases found
      exact ofGroupValue_lt _
    · cases found

end Frame

end Assignment

namespace ParameterSet

theorem decode_iff {payload : List UInt8} {set : ParameterSet} :
    decode payload = .ok set ↔
      ∃ frames : List Assignment.Frame, payload = frames.flatMap Assignment.Frame.bytes ∧
        set.assignments = frames.map Assignment.Frame.assignment := by
  rw [← Assignment.framing.readAll_iff readsOn]
  unfold decode
  cases readAll payload with
  | error shortage => simp
  | ok assignments =>
      cases set with
      | mk found => simp

theorem category_of_decode {payload : List UInt8} {fault : Fault}
    (failed : decode payload = .error fault) : fault.category = .invalidArgument := by
  unfold decode at failed
  split at failed
  · cases failed
  · cases failed
    rfl

/-- What follows a payload is read as if it stood alone. -/
theorem decode_append {payload : List UInt8} {set : ParameterSet}
    (read : decode payload = .ok set) (more : List UInt8) :
    (∀ rest, decode more = .ok rest →
      decode (payload ++ more) = .ok ⟨set.assignments ++ rest.assignments⟩) ∧
    ((∃ fault, decode (payload ++ more) = .error fault) ↔
      ∃ fault, decode more = .error fault) := by
  rcases decode_iff.mp read with ⟨frames, rfl, assignments⟩
  have joined := Assignment.framing.readAll_append readsOn frames more
  rw [← assignments] at joined
  unfold decode
  rw [joined]
  cases readAll more with
  | error shortage => simp [Except.map]
  | ok rest =>
      simp [Except.map]

theorem length_payloadOf_frames (frames : List Assignment.Frame) :
    (payloadOf (frames.map Assignment.Frame.assignment)).length =
      (frames.flatMap Assignment.Frame.bytes).length := by
  induction frames with
  | nil => rfl
  | cons frame rest ih =>
      rw [List.map_cons, payloadOf_cons, List.flatMap_cons, List.length_append,
        List.length_append, ih, Assignment.length_bytes, frame.size_assignment]

/-- Frames are found again among the written bytes exactly where each of them is. -/
theorem payloadOf_frames_iff (frames : List Assignment.Frame) :
    payloadOf (frames.map Assignment.Frame.assignment) =
        frames.flatMap Assignment.Frame.bytes ↔
      ∀ frame, frame ∈ frames → frame.Canonical := by
  induction frames with
  | nil => simp [payloadOf]
  | cons frame rest ih =>
      have length : frame.assignment.bytes.length = frame.bytes.length := by
        rw [Assignment.length_bytes, frame.size_assignment]
      rw [List.map_cons, payloadOf_cons, List.flatMap_cons,
        List.append_eq_append_iff_of_size_eq_left length, frame.bytes_assignment_iff, ih,
        List.forall_mem_cons]

theorem onAir_frames (frames : List Assignment.Frame) :
    (frames.map Assignment.Frame.assignment).map Assignment.onAir =
      frames.map Assignment.Frame.assignment := by
  rw [List.map_map]
  exact List.map_congr_left (fun frame _member => frame.onAir_assignment)

/-- Reading fails unless the payload is cut into assignments by their control bytes. Where it
succeeds it takes the whole payload, what follows is read as if it stood alone, and writing gives
a payload of the same length that is read in the same way. -/
theorem payload_grammar (payload : List UInt8) :
    (∀ fault, decode payload = .error fault → fault.category = .invalidArgument) ∧
    ((∃ set, decode payload = .ok set) ↔
      ∃ frames : List Assignment.Frame, payload = frames.flatMap Assignment.Frame.bytes) ∧
    ∀ set, decode payload = .ok set →
      (set.assignments.map Assignment.size).sum = payload.length ∧
      (∀ more,
        (∀ rest, decode more = .ok rest →
          decode (payload ++ more) = .ok ⟨set.assignments ++ rest.assignments⟩) ∧
        ((∃ fault, decode (payload ++ more) = .error fault) ↔
          ∃ fault, decode more = .error fault)) ∧
      ∃ written : List UInt8,
        set.encode =
          (if payload.length ≤ maxAllocation then .ok written else .error .bufferTooLarge) ∧
        written.length = payload.length ∧
        decode written = .ok set ∧
        ∀ frames : List Assignment.Frame, payload = frames.flatMap Assignment.Frame.bytes →
          (written = payload ↔ ∀ frame, frame ∈ frames → frame.Canonical) := by
  refine ⟨fun fault => category_of_decode, ?_, ?_⟩
  · constructor
    · rintro ⟨set, read⟩
      rcases decode_iff.mp read with ⟨frames, same, _assignments⟩
      exact ⟨frames, same⟩
    · rintro ⟨frames, same⟩
      exact ⟨⟨frames.map Assignment.Frame.assignment⟩, decode_iff.mpr ⟨frames, same, rfl⟩⟩
  · intro set read
    rcases decode_iff.mp read with ⟨frames, same, assignments⟩
    have length : (payloadOf set.assignments).length = payload.length := by
      rw [assignments, same]
      exact length_payloadOf_frames frames
    refine ⟨?_, decode_append read, payloadOf set.assignments, ?_, length, ?_, ?_⟩
    · rw [← Assignment.totalSize_eq_sum, ← length_payloadOf]
      exact length
    · rw [set.encode_eq_if, length]
    · rw [decode_payloadOf, assignments, onAir_frames, ← assignments]
    · intro others split
      -- Any way to cut the payload gives the assignments that were read.
      have cut := decode_iff.mpr ⟨others, split, rfl⟩
      rw [read] at cut
      cases cut
      rw [split]
      exact payloadOf_frames_iff others

end ParameterSet

end RestrictedAccess
