/-
Reading assignments back. A receiver finds the slot in the steps of the air format and the range
modulo the announced identifiers; everything else arrives as it was written. What a receiver reads
is written again as the same bytes, so a payload and its assignments determine each other.
-/

import RestrictedAccess.Element.ParameterSet

namespace RestrictedAccess

open Wire

/-! ### Slots on the air -/

namespace SlotDefinition

theorem cappedUnits_le (slot : SlotDefinition) : slot.cappedUnits ≤ slot.format.maxUnits :=
  Nat.min_le_right _ _

theorem cappedCount_le (slot : SlotDefinition) : slot.cappedCount ≤ slot.format.maxSlots :=
  Nat.min_le_right _ _

theorem boundary_value (crosses : Bool) :
    (if crosses then 2 else 0) = 2 * crosses.toNat := by
  cases crosses <;> rfl

private theorem decide_crossing (crosses : Bool) : decide (crosses.toNat = 1) = crosses := by
  cases crosses <;> rfl

theorem fieldValue_lt (slot : SlotDefinition) : slot.fieldValue < 65536 := by
  have crossing := slot.crossesBoundary.toNat_le
  have units := slot.cappedUnits_le
  have count := slot.cappedCount_le
  unfold fieldValue
  rw [boundary_value]
  cases layout : slot.format with
  | compact =>
      rw [layout] at units count
      change slot.cappedUnits ≤ 255 at units
      change slot.cappedCount ≤ 63 at count
      change 2 * slot.crossesBoundary.toNat + 4 * slot.cappedUnits + 1024 * slot.cappedCount < 65536
      omega
  | extended =>
      rw [layout] at units count
      change slot.cappedUnits ≤ 2047 at units
      change slot.cappedCount ≤ 7 at count
      change 1 + 2 * slot.crossesBoundary.toNat + 4 * slot.cappedUnits +
        8192 * slot.cappedCount < 65536
      omega

/-- A receiver sees the capped count and the duration of the capped steps. -/
theorem decode_encode (slot : SlotDefinition) :
    decode slot.encode =
      ⟨UInt8.ofNat slot.cappedCount, UInt32.ofNat slot.airDuration, slot.crossesBoundary⟩ := by
  have field : slot.encode.toNat = slot.fieldValue := UInt16.toNat_ofNat_of_lt' slot.fieldValue_lt
  have crossing := slot.crossesBoundary.toNat_le
  have units := slot.cappedUnits_le
  have count := slot.cappedCount_le
  unfold decode airDuration
  rw [field]
  cases layout : slot.format with
  | compact =>
      rw [layout] at units count
      change slot.cappedUnits ≤ 255 at units
      change slot.cappedCount ≤ 63 at count
      have value : slot.fieldValue =
          2 * slot.crossesBoundary.toNat + 4 * slot.cappedUnits + 1024 * slot.cappedCount := by
        unfold fieldValue
        rw [layout, boundary_value]
      have even : ¬ slot.fieldValue % 2 = 1 := by omega
      have boundary : slot.fieldValue / 2 % 2 = slot.crossesBoundary.toNat := by omega
      have steps : slot.fieldValue / 4 % 256 = slot.cappedUnits := by omega
      have slots : slot.fieldValue / 1024 = slot.cappedCount := by omega
      simp only [if_neg even, boundary, decide_crossing, steps, slots]
  | extended =>
      rw [layout] at units count
      change slot.cappedUnits ≤ 2047 at units
      change slot.cappedCount ≤ 7 at count
      have value : slot.fieldValue =
          1 + 2 * slot.crossesBoundary.toNat + 4 * slot.cappedUnits +
            8192 * slot.cappedCount := by
        unfold fieldValue
        rw [layout, boundary_value]
      have odd : slot.fieldValue % 2 = 1 := by omega
      have boundary : slot.fieldValue / 2 % 2 = slot.crossesBoundary.toNat := by omega
      have steps : slot.fieldValue / 4 % 2048 = slot.cappedUnits := by omega
      have slots : slot.fieldValue / 8192 = slot.cappedCount := by omega
      simp only [if_pos odd, boundary, decide_crossing, steps, slots]

theorem slotUnits_unitsDuration (units : Nat) : slotUnits (unitsDuration units) = units := by
  have whole := Nat.mul_div_cancel_left units (by decide : 0 < slotStep)
  unfold slotUnits unitsDuration
  rw [Nat.add_sub_cancel_left]
  exact whole

theorem cappedUnits_le_max (slot : SlotDefinition) : slot.cappedUnits ≤ 2047 := by
  have capped := slot.cappedUnits_le
  cases layout : slot.format with
  | compact =>
      rw [layout] at capped
      exact Nat.le_trans capped (by decide)
  | extended =>
      rw [layout] at capped
      exact capped

theorem cappedCount_le_max (slot : SlotDefinition) : slot.cappedCount ≤ 63 := by
  have capped := slot.cappedCount_le
  cases layout : slot.format with
  | compact =>
      rw [layout] at capped
      exact capped
  | extended =>
      rw [layout] at capped
      exact Nat.le_trans capped (by decide)

theorem format_of_cappedUnits {slot read : SlotDefinition} (same : read.units = slot.cappedUnits) :
    read.format = slot.format := by
  unfold format
  rw [same]
  unfold cappedUnits format
  by_cases narrow : slot.units ≤ SlotFormat.compact.maxUnits
  · have kept : min slot.units SlotFormat.compact.maxUnits ≤ SlotFormat.compact.maxUnits :=
      Nat.min_le_right _ _
    rw [if_pos narrow, if_pos kept]
  · have wide : ¬ min slot.units SlotFormat.extended.maxUnits ≤ SlotFormat.compact.maxUnits := by
      change ¬ slot.units ≤ 255 at narrow
      change ¬ min slot.units 2047 ≤ 255
      omega
    rw [if_neg narrow, if_neg wide]

theorem toNat_duration_decode_encode (slot : SlotDefinition) :
    (decode slot.encode).duration.toNat = slot.airDuration := by
  have short := slot.cappedUnits_le_max
  rw [decode_encode]
  apply UInt32.toNat_ofNat_of_lt'
  change 500 + 120 * slot.cappedUnits < 4294967296
  omega

theorem toNat_count_decode_encode (slot : SlotDefinition) :
    (decode slot.encode).count.toNat = slot.cappedCount := by
  rw [decode_encode]
  exact UInt8.toNat_ofNat_of_lt' (Nat.lt_of_le_of_lt slot.cappedCount_le_max (by decide))

theorem encode_decode_encode (slot : SlotDefinition) :
    (decode slot.encode).encode = slot.encode := by
  have units : (decode slot.encode).units = slot.cappedUnits := by
    unfold SlotDefinition.units
    rw [toNat_duration_decode_encode]
    exact slotUnits_unitsDuration slot.cappedUnits
  have layout := format_of_cappedUnits units
  have steps : (decode slot.encode).cappedUnits = slot.cappedUnits := by
    unfold cappedUnits
    rw [units, layout]
    exact Nat.min_eq_left slot.cappedUnits_le
  have count : (decode slot.encode).cappedCount = slot.cappedCount := by
    unfold cappedCount
    rw [toNat_count_decode_encode, layout]
    exact Nat.min_eq_left slot.cappedCount_le
  have crossing : (decode slot.encode).crossesBoundary = slot.crossesBoundary := by
    rw [decode_encode]
  change UInt16.ofNat (decode slot.encode).fieldValue = UInt16.ofNat slot.fieldValue
  unfold fieldValue
  rw [layout, steps, count, crossing]

end SlotDefinition

/-! ### Reading parts -/

def AidRange.onAir (range : AidRange) : AidRange :=
  ⟨UInt16.ofNat (range.first.toNat % announcedAids),
    UInt16.ofNat (range.last.toNat % announcedAids)⟩

theorem AidRange.onAir_eq (range : AidRange) :
    range.onAir = ⟨range.first % 2048, range.last % 2048⟩ := by
  have reduced (aid : Aid) : UInt16.ofNat (aid.toNat % announcedAids) = aid % 2048 := by
    apply UInt16.toNat_inj.mp
    rw [UInt16.toNat_mod]
    apply UInt16.toNat_ofNat_of_lt'
    exact Nat.lt_trans (Nat.mod_lt _ (by decide)) (by decide : announcedAids < 65536)
  unfold onAir
  rw [reduced, reduced]

namespace Assignment

def onAir (assignment : Assignment) : Assignment :=
  { assignment with
    slot := SlotDefinition.decode assignment.slot.encode
    group := assignment.group.map AidRange.onAir }

theorem readNumber_append {width : Nat} {part : List UInt8} (exactly : part.length = width)
    (rest : List UInt8) :
    readNumber width (part ++ rest) = .ok (ofLittleEndian part, rest) := by
  have enough : width ≤ (part ++ rest).length := by
    rw [List.length_append]
    omega
  unfold readNumber take?
  rw [if_pos enough, ← exactly, List.take_left, List.drop_left]

theorem readNumber_littleEndian {width value : Nat} (fits : value < Nat.pow 256 width)
    (rest : List UInt8) :
    readNumber width (littleEndian width value ++ rest) = .ok (value, rest) := by
  rw [readNumber_append (length_littleEndian width value), ofLittleEndian_littleEndian,
    Nat.mod_eq_of_lt fits]

theorem readNumber_byte (byte : UInt8) (rest : List UInt8) :
    readNumber 1 (byte :: rest) = .ok (byte.toNat, rest) :=
  readNumber_append (rfl : [byte].length = 1) rest

theorem groupValue_lt (range : AidRange) : groupValue range < Nat.pow 256 3 := by
  have first : range.first.toNat % announcedAids < 2048 := Nat.mod_lt _ (by decide)
  have last : range.last.toNat % announcedAids < 2048 := Nat.mod_lt _ (by decide)
  change 4 * (range.first.toNat % announcedAids) + 8192 * (range.last.toNat % announcedAids) <
    16777216
  omega

theorem ofGroupValue_groupValue (range : AidRange) :
    ofGroupValue (groupValue range) = range.onAir := by
  have first : range.first.toNat % announcedAids < 2048 := Nat.mod_lt _ (by decide)
  have last : range.last.toNat % announcedAids < 2048 := Nat.mod_lt _ (by decide)
  have low : groupValue range / 4 % announcedAids = range.first.toNat % announcedAids := by
    unfold groupValue
    change _ % 2048 = _
    omega
  have high : groupValue range / 8192 % announcedAids = range.last.toNat % announcedAids := by
    unfold groupValue
    change _ % 2048 = _
    omega
  unfold ofGroupValue AidRange.onAir
  rw [low, high]

theorem groupValue_onAir (range : AidRange) : groupValue range.onAir = groupValue range := by
  have small (aid : Aid) :
      (UInt16.ofNat (aid.toNat % announcedAids)).toNat = aid.toNat % announcedAids :=
    UInt16.toNat_ofNat_of_lt'
      (Nat.lt_trans (Nat.mod_lt _ (by decide)) (by decide : announcedAids < 65536))
  unfold groupValue AidRange.onAir
  simp only [small, Nat.mod_mod]

theorem readPart_append {α β : Type} {read : List UInt8 → Except Shortage (β × List UInt8)}
    {seen : α → β} {bytes : α → List UInt8}
    (reads : ∀ part rest, read (bytes part ++ rest) = .ok (seen part, rest))
    (part : Option α) (rest : List UInt8) :
    readPart part.isSome read ((part.map bytes).getD [] ++ rest) =
      .ok (part.map seen, rest) := by
  cases part with
  | none => rfl
  | some part =>
      simp only [readPart, Option.isSome_some, if_true, Option.map_some, Option.getD_some, reads]

theorem readStartTime_append (units : UInt8) (rest : List UInt8) :
    readStartTime ([units] ++ rest) = .ok (units, rest) := by
  simp only [readStartTime, List.singleton_append, readNumber_byte, bind, Except.bind, pure,
    Except.pure, UInt8.ofNat_toNat]

theorem readGroup_append (range : AidRange) (rest : List UInt8) :
    readGroup (littleEndian 3 (groupValue range) ++ rest) = .ok (range.onAir, rest) := by
  simp only [readGroup, readNumber_littleEndian (groupValue_lt range), bind, Except.bind, pure,
    Except.pure, ofGroupValue_groupValue]

theorem readChannel_append (channel : UInt16) (rest : List UInt8) :
    readChannel (littleEndian 2 channel.toNat ++ rest) = .ok (channel, rest) := by
  have fits : channel.toNat < Nat.pow 256 2 := channel.toNat_lt
  simp only [readChannel, readNumber_littleEndian fits, bind, Except.bind, pure, Except.pure,
    UInt16.ofNat_toNat]

theorem readSchedule_append (schedule : AnnouncedSchedule) (rest : List UInt8) :
    readSchedule ([schedule.periodicity, schedule.validity, schedule.startOffset] ++ rest) =
      .ok (schedule, rest) := by
  simp only [readSchedule, List.cons_append, List.nil_append, readNumber_byte, bind, Except.bind,
    pure, Except.pure, UInt8.ofNat_toNat]

/-! ### Reading assignments -/

def bytes (assignment : Assignment) : List UInt8 :=
  assignment.chunks.flatten

theorem bytes_eq (assignment : Assignment) :
    assignment.bytes =
      UInt8.ofNat assignment.controlValue ::
        (littleEndian 2 assignment.slot.encode.toNat ++
          ((assignment.startTime.map (fun units => [units])).getD [] ++
            ((assignment.group.map (fun range => littleEndian 3 (groupValue range))).getD [] ++
              ((assignment.channel.map (fun channel => littleEndian 2 channel.toNat)).getD [] ++
                (assignment.periodic.map (fun schedule =>
                  [schedule.periodicity, schedule.validity, schedule.startOffset])).getD [])))) := by
  unfold bytes chunks
  cases assignment.startTime <;> cases assignment.group <;> cases assignment.channel <;>
    cases assignment.periodic <;>
    simp

theorem length_bytes (assignment : Assignment) : assignment.bytes.length = assignment.size := by
  rw [bytes_eq]
  unfold size
  cases assignment.startTime <;> cases assignment.group <;> cases assignment.channel <;>
    cases assignment.periodic <;>
    simp

theorem controlValue_lt (assignment : Assignment) : assignment.controlValue < 256 := by
  have kind := assignment.kind.code_lt
  have startTime := assignment.startTime.isSome.toNat_le
  have group := assignment.group.isSome.toNat_le
  have channel := assignment.channel.isSome.toNat_le
  have periodic := assignment.periodic.isSome.toNat_le
  unfold controlValue
  omega

theorem controlKind_controlValue (assignment : Assignment) :
    controlKind assignment.controlValue = assignment.kind := by
  have low : assignment.controlValue % 4 = assignment.kind.code := by
    have kind := assignment.kind.code_lt
    unfold controlValue
    omega
  unfold controlKind
  rw [low]
  cases assignment.kind <;> rfl

theorem testBit_controlValue (assignment : Assignment) :
    assignment.controlValue.testBit 4 = assignment.startTime.isSome ∧
      assignment.controlValue.testBit 5 = assignment.group.isSome ∧
      assignment.controlValue.testBit 6 = assignment.channel.isSome ∧
      assignment.controlValue.testBit 7 = assignment.periodic.isSome := by
  have flag (number : Nat) (set : Bool) (same : number % 2 = set.toNat) :
      decide (number % 2 = 1) = set := by
    rw [same]
    cases set <;> rfl
  have kind := assignment.kind.code_lt
  have startTime := assignment.startTime.isSome.toNat_le
  have group := assignment.group.isSome.toNat_le
  have channel := assignment.channel.isSome.toNat_le
  have periodic := assignment.periodic.isSome.toNat_le
  simp only [Nat.testBit_eq_decide_div_mod_eq]
  refine ⟨flag _ _ ?_, flag _ _ ?_, flag _ _ ?_, flag _ _ ?_⟩ <;>
    · unfold controlValue
      omega

theorem read_bytes_append (assignment : Assignment) (rest : List UInt8) :
    read (assignment.bytes ++ rest) = .ok (assignment.onAir, rest) := by
  have control : (UInt8.ofNat assignment.controlValue).toNat = assignment.controlValue :=
    UInt8.toNat_ofNat_of_lt' assignment.controlValue_lt
  have field : assignment.slot.encode.toNat < Nat.pow 256 2 := assignment.slot.encode.toNat_lt
  rcases assignment.testBit_controlValue with ⟨startTime, group, channel, periodic⟩
  rw [bytes_eq]
  simp only [List.cons_append, List.append_assoc]
  unfold read
  simp only [readNumber_byte, readNumber_littleEndian field, control, startTime, group, channel,
    periodic, readPart_append readStartTime_append, readPart_append readGroup_append,
    readPart_append readChannel_append, readPart_append readSchedule_append, bind, Except.bind,
    pure, Except.pure, UInt16.ofNat_toNat, controlKind_controlValue, Option.map_id', onAir]

theorem bytes_onAir (assignment : Assignment) : assignment.onAir.bytes = assignment.bytes := by
  have control : assignment.onAir.controlValue = assignment.controlValue := by
    unfold controlValue onAir
    simp only [Option.isSome_map]
  rw [bytes_eq, bytes_eq, control]
  unfold onAir
  simp only [SlotDefinition.encode_decode_encode, Option.map_map, Function.comp_def,
    groupValue_onAir]

end Assignment

/-! ### Payloads -/

theorem Wire.Buffer.appendAll_eq (buffer : Buffer) (chunks : List (List UInt8))
    (room : chunks.flatten.length ≤ buffer.remaining) :
    buffer.appendAll chunks = .ok { buffer with written := buffer.written ++ chunks.flatten } := by
  induction chunks generalizing buffer with
  | nil => rw [Buffer.appendAll, List.flatten_nil, List.append_nil]
  | cons chunk rest ih =>
      rw [List.flatten_cons, List.length_append] at room
      have fits : chunk.length ≤ buffer.remaining := by omega
      have roomLeft : rest.flatten.length ≤
          Buffer.remaining { buffer with written := buffer.written ++ chunk } := by
        unfold Buffer.remaining Buffer.position at room ⊢
        simp only [List.length_append]
        omega
      rw [Buffer.appendAll, Buffer.append, if_pos fits]
      simp only [ih _ roomLeft, List.flatten_cons, List.append_assoc]

theorem Assignment.write_eq (assignment : Assignment) {buffer : Buffer}
    (room : assignment.size ≤ buffer.remaining) :
    assignment.write buffer =
      .ok { buffer with written := buffer.written ++ assignment.bytes } := by
  apply buffer.appendAll_eq assignment.chunks
  change assignment.bytes.length ≤ buffer.remaining
  rw [assignment.length_bytes]
  exact room

theorem Assignment.totalSize_cons (assignment : Assignment) (rest : List Assignment) :
    Assignment.totalSize (assignment :: rest) = assignment.size + Assignment.totalSize rest :=
  rfl

theorem Assignment.remaining_write (assignment : Assignment) {buffer : Buffer} {rest : Nat}
    (room : assignment.size + rest ≤ buffer.remaining) :
    rest ≤ Buffer.remaining { buffer with written := buffer.written ++ assignment.bytes } := by
  have length := assignment.length_bytes
  unfold Buffer.remaining Buffer.position at room ⊢
  simp only [List.length_append]
  omega

namespace ParameterSet

def payloadOf (assignments : List Assignment) : List UInt8 :=
  assignments.flatMap Assignment.bytes

theorem payloadOf_cons (assignment : Assignment) (rest : List Assignment) :
    payloadOf (assignment :: rest) = assignment.bytes ++ payloadOf rest :=
  List.flatMap_cons

theorem length_payloadOf (assignments : List Assignment) :
    (payloadOf assignments).length = Assignment.totalSize assignments := by
  induction assignments with
  | nil => rfl
  | cons assignment rest ih =>
      rw [payloadOf_cons, List.length_append, ih, assignment.length_bytes]
      rfl

theorem payloadOf_onAir (assignments : List Assignment) :
    payloadOf (assignments.map Assignment.onAir) = payloadOf assignments := by
  unfold payloadOf
  rw [List.flatMap_map]
  exact congrArg List.flatten
    (List.map_congr_left (fun assignment _ => assignment.bytes_onAir))

theorem readAll_payloadOf (assignments : List Assignment) :
    readAll (payloadOf assignments) = .ok (assignments.map Assignment.onAir) := by
  induction assignments with
  | nil =>
      rw [readAll]
      rfl
  | cons assignment rest ih =>
      have nonempty : payloadOf (assignment :: rest) ≠ [] := by
        rw [payloadOf_cons, Assignment.bytes_eq]
        exact List.cons_ne_nil _ _
      have first : Assignment.read (payloadOf (assignment :: rest)) =
          .ok (assignment.onAir, payloadOf rest) := by
        rw [payloadOf_cons]
        exact assignment.read_bytes_append _
      rw [readAll, if_neg nonempty]
      split
      · rename_i failed
        rw [first] at failed
        cases failed
      · rename_i read
        rw [first] at read
        cases read
        rw [ih]
        rfl

/-- A payload of assignments decodes to what receivers see of them. -/
theorem decode_payloadOf (assignments : List Assignment) :
    decode (payloadOf assignments) = .ok ⟨assignments.map Assignment.onAir⟩ := by
  unfold decode
  rw [readAll_payloadOf]

theorem writeAll_eq (assignments : List Assignment) (buffer : Buffer)
    (room : Assignment.totalSize assignments ≤ buffer.remaining) :
    writeAll assignments buffer =
      .ok { buffer with written := buffer.written ++ payloadOf assignments } := by
  induction assignments generalizing buffer with
  | nil =>
      rw [writeAll]
      change Except.ok buffer = .ok { buffer with written := buffer.written ++ [] }
      rw [List.append_nil]
  | cons assignment rest ih =>
      rw [Assignment.totalSize_cons] at room
      have fits : assignment.size ≤ buffer.remaining := by omega
      have roomLeft := assignment.remaining_write room
      rw [writeAll, assignment.write_eq fits]
      simp only [ih _ roomLeft, payloadOf_cons, List.append_assoc]

theorem encode_eq (set : ParameterSet) (fits : set.size ≤ maxAllocation) :
    set.encode = .ok (payloadOf set.assignments) := by
  have room : Assignment.totalSize set.assignments ≤ Buffer.remaining ⟨set.size, [], 0⟩ :=
    Nat.le_refl _
  unfold encode Buffer.withCapacity
  rw [if_pos fits]
  simp only [bind, Except.bind, pure, Except.pure, writeAll_eq _ _ room, List.nil_append]

end ParameterSet

end RestrictedAccess
