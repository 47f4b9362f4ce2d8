/-
The bytes of command fields. A tag fixes how many bytes follow it, and any bytes of that number
are a payload: a field is refused for its tag or its length alone. Reading loses nothing but the
difference between the bytes that mean true.
-/

import RestrictedAccess.Command.Codec
import RestrictedAccess.Proofs.Wire.Framing

namespace RestrictedAccess

open Wire

namespace FieldTag

theorem code_of_ofCode? {number : Nat} {tag : FieldTag} (known : ofCode? number = some tag) :
    number = tag.code := by
  unfold ofCode? at known
  split at known <;> cases known <;> rfl

end FieldTag

namespace CommandField

/-! ### Payloads -/

/-- The byte that is written for a byte that was read as a truth value. -/
def asBoolean (byte : UInt8) : UInt8 :=
  if byte = 0 then 0 else 1

/-- The payload with its truth value, if it has one, as a writer puts it. -/
def settle (tag : FieldTag) (payload : List UInt8) : List UInt8 :=
  match tag with
  | .slots => payload.modify 5 asBoolean
  | .periodic => payload.modify 3 asBoolean
  | _ => payload

theorem length_settle (tag : FieldTag) (payload : List UInt8) :
    (settle tag payload).length = payload.length := by
  cases tag <;> simp [settle]

theorem length_payload (field : CommandField) :
    field.payload.length = field.tag.payloadLength := by
  cases field <;> simp [payload, tag, FieldTag.payloadLength]

theorem length_encode (field : CommandField) : field.encode.length = field.size := by
  unfold encode size
  rw [List.length_cons, field.length_payload, Nat.add_comm]

theorem byte_of_truth (byte : UInt8) : UInt8.ofNat (byte != 0).toNat = asBoolean byte := by
  unfold asBoolean
  by_cases clear : byte = 0
  · rw [if_pos clear, clear]
    rfl
  · rw [if_neg clear, bne_iff_ne.mpr clear]
    rfl

theorem two_words (b0 b1 b2 b3 : UInt8) :
    littleEndian 2 (UInt16.ofNat (ofLittleEndian [b0, b1])).toNat ++
      littleEndian 2 (UInt16.ofNat (ofLittleEndian [b2, b3])).toNat = [b0, b1, b2, b3] := by
  have first := littleEndian_ofNat16 (rfl : [b0, b1].length = 2)
  have second := littleEndian_ofNat16 (rfl : [b2, b3].length = 2)
  rw [first, second]
  rfl

theorem length_of_ofPayload? {tag : FieldTag} {payload : List UInt8} {field : CommandField}
    (read : ofPayload? tag payload = some field) : payload.length = tag.payloadLength := by
  unfold ofPayload? at read
  split at read <;> cases read <;> rfl

theorem exists_field {tag : FieldTag} {payload : List UInt8}
    (exactly : payload.length = tag.payloadLength) :
    ∃ field, ofPayload? tag payload = some field ∧ field.tag = tag ∧
      field.payload = settle tag payload := by
  cases tag with
  | slots =>
      match payload, exactly with
      | [b0, b1, b2, b3, count, crosses], _ =>
          refine ⟨_, rfl, rfl, ?_⟩
          have duration := littleEndian_ofNat32 (rfl : [b0, b1, b2, b3].length = 4)
          simp only [CommandField.payload, duration, byte_of_truth]
          rfl
  | group =>
      match payload, exactly with
      | [b0, b1, b2, b3], _ => exact ⟨_, rfl, rfl, two_words b0 b1 b2 b3⟩
  | startTime =>
      match payload, exactly with
      | [b0, b1, b2, b3], _ =>
          refine ⟨_, rfl, rfl, ?_⟩
          exact littleEndian_ofNat32 (rfl : [b0, b1, b2, b3].length = 4)
  | periodic =>
      match payload, exactly with
      | [periodicity, validity, startOffset, refreshes], _ =>
          refine ⟨_, rfl, rfl, ?_⟩
          simp only [CommandField.payload, byte_of_truth]
          rfl
  | spread =>
      match payload, exactly with
      | [b0, b1, b2, b3], _ => exact ⟨_, rfl, rfl, two_words b0 b1 b2 b3⟩
  | kind =>
      match payload, exactly with
      | [code], _ => exact ⟨_, rfl, rfl, rfl⟩

theorem truth_of_byte (truth : Bool) : (UInt8.ofNat truth.toNat != 0) = truth := by
  cases truth <;> rfl

theorem ofPayload?_payload (field : CommandField) :
    ofPayload? field.tag field.payload = some field := by
  cases field with
  | slots windowDuration count crosses =>
      change some (slots (UInt32.ofNat (ofLittleEndian (littleEndian 4 windowDuration.toNat))) count
        (UInt8.ofNat crosses.toNat != 0)) = _
      rw [ofLittleEndian_toNat32, truth_of_byte]
  | group startAid endAid =>
      change some (group (UInt16.ofNat (ofLittleEndian (littleEndian 2 startAid.toNat)))
        (UInt16.ofNat (ofLittleEndian (littleEndian 2 endAid.toNat)))) = _
      rw [ofLittleEndian_toNat16, ofLittleEndian_toNat16]
  | startTime duration =>
      change some (startTime (UInt32.ofNat (ofLittleEndian (littleEndian 4 duration.toNat)))) = _
      rw [ofLittleEndian_toNat32]
  | periodic periodicity validity startOffset refreshes =>
      change some (periodic periodicity validity startOffset
        (UInt8.ofNat refreshes.toNat != 0)) = _
      rw [truth_of_byte]
  | spread maxSpread nominal =>
      change some (spread (UInt16.ofNat (ofLittleEndian (littleEndian 2 maxSpread.toNat)))
        (UInt16.ofNat (ofLittleEndian (littleEndian 2 nominal.toNat)))) = _
      rw [ofLittleEndian_toNat16, ofLittleEndian_toNat16]
  | kind code => rfl

/-! ### Frames -/

structure Frame where
  tag : FieldTag
  payload : List UInt8
  length_payload : payload.length = tag.payloadLength

namespace Frame

def bytes (frame : Frame) : List UInt8 :=
  UInt8.ofNat frame.tag.code :: frame.payload

def field (frame : Frame) : CommandField :=
  (ofPayload? frame.tag frame.payload).get (by
    rcases exists_field frame.length_payload with ⟨field, read, _tag, _payload⟩
    rw [read]
    rfl)

def settled (frame : Frame) : Frame :=
  ⟨frame.tag, settle frame.tag frame.payload,
    (length_settle frame.tag frame.payload).trans frame.length_payload⟩

theorem ofPayload?_eq (frame : Frame) :
    ofPayload? frame.tag frame.payload = some frame.field :=
  (Option.some_get _).symm

theorem encode_field (frame : Frame) : frame.field.encode = frame.settled.bytes := by
  rcases exists_field frame.length_payload with ⟨field, read, tag, payload⟩
  rw [frame.ofPayload?_eq] at read
  cases read
  unfold encode bytes settled
  rw [tag, payload]

theorem length_bytes_settled (frame : Frame) :
    frame.settled.bytes.length = frame.bytes.length := by
  unfold bytes settled
  rw [List.length_cons, List.length_cons, length_settle]

end Frame

def frame (field : CommandField) : Frame :=
  ⟨field.tag, field.payload, field.length_payload⟩

theorem field_frame (field : CommandField) : field.frame.field = field := by
  have read := field.frame.ofPayload?_eq
  change ofPayload? field.tag field.payload = _ at read
  rw [ofPayload?_payload] at read
  exact (Option.some.inj read).symm

theorem bytes_frame (field : CommandField) : field.frame.bytes = field.encode :=
  rfl

/-! ### Reading -/

theorem decode_frame_append (frame : Frame) (rest : List UInt8) :
    decode (frame.bytes ++ rest) = .ok (frame.field, rest) := by
  have small : frame.tag.code < 256 := Nat.lt_trans frame.tag.code_lt (by decide)
  have code : (UInt8.ofNat frame.tag.code).toNat = frame.tag.code :=
    UInt8.toNat_ofNat_of_lt' small
  unfold Frame.bytes
  rw [List.cons_append, decode, code, FieldTag.ofCode?_code]
  simp only [← frame.length_payload, List.take_left, List.drop_left, frame.ofPayload?_eq]

theorem exists_frame_of_decode {input rest : List UInt8} {found : CommandField}
    (read : decode input = .ok (found, rest)) :
    ∃ frame : Frame, input = frame.bytes ++ rest ∧ found = frame.field := by
  cases input with
  | nil => cases read
  | cons code left =>
      simp only [decode] at read
      cases known : FieldTag.ofCode? code.toNat with
      | none =>
          rw [known] at read
          cases read
      | some tag =>
          rw [known] at read
          simp only at read
          cases taken : ofPayload? tag (left.take tag.payloadLength) with
          | none =>
              rw [taken] at read
              cases read
          | some field =>
              rw [taken] at read
              cases read
              let frame : Frame :=
                ⟨tag, left.take tag.payloadLength, length_of_ofPayload? taken⟩
              have written : code = UInt8.ofNat tag.code := by
                rw [← FieldTag.code_of_ofCode? known, UInt8.ofNat_toNat]
              refine ⟨frame, ?_, ?_⟩
              · change code :: left = UInt8.ofNat tag.code ::
                  (left.take tag.payloadLength ++ left.drop tag.payloadLength)
                rw [List.take_append_drop, written]
              · exact Option.some.inj (taken.symm.trans frame.ofPayload?_eq)

theorem framing : Framing Frame.bytes Frame.field decode where
  nonempty _frame := List.cons_ne_nil _ _
  read_iff := by
    intro input found rest
    constructor
    · exact exists_frame_of_decode
    · rintro ⟨frame, rfl, rfl⟩
      exact decode_frame_append frame rest

theorem readsOn : ReadsOn decode decodeAll := by
  intro input
  rw [decodeAll]
  by_cases empty : input = []
  · rw [if_pos empty, if_pos empty]
  · rw [if_neg empty, if_neg empty]
    split
    · rename_i result
      rw [result]
    · rename_i rest result
      rw [result]
      change _ = (decodeAll rest).map _
      cases decodeAll rest <;> rfl

theorem category_of_decode {input : List UInt8} {fault : Fault}
    (failed : decode input = .error fault) : fault.category = .invalidArgument := by
  unfold decode at failed
  split at failed
  · cases failed
    rfl
  · split at failed
    · cases failed
      rfl
    · split at failed
      · cases failed
      · cases failed
        rfl

end CommandField

end RestrictedAccess
