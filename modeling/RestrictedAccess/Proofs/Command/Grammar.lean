/-
The bytes of whole commands. The announced length cuts the body out of the input, and the body is
cut into fields by their tags, so an input starts with at most one command. A command whose fields
fill no more than the sixteen bits of the length is found again in front of any bytes; of a longer
one the length wraps around and the command is lost.
-/

import Mathlib.Algebra.GroupWithZero.Nat
import RestrictedAccess.Proofs.Command.FieldFrames

namespace RestrictedAccess

open Wire

namespace CommandFlags

theorem byte_ofCode (flags : UInt8) :
    UInt8.ofNat (ofCode flags.toNat).code = flags &&& 7 := by
  have bit (number : Nat) : (decide (number % 2 = 1)).toNat = number % 2 := by
    rcases Nat.mod_two_eq_zero_or_one number with even | odd
    · rw [even]
      rfl
    · rw [odd]
      rfl
  have low : flags.toNat &&& 7 = flags.toNat % 8 :=
    Nat.and_two_pow_sub_one_eq_mod flags.toNat 3
  have small := (ofCode flags.toNat).code_lt
  have value : (ofCode flags.toNat).code = flags.toNat % 8 := by
    simp only [code, ofCode, bit]
    omega
  have masked : (flags &&& 7).toNat = flags.toNat % 8 := (UInt8.toNat_and flags 7).trans low
  rw [← UInt8.toNat_inj, masked, ← value]
  exact UInt8.toNat_ofNat_of_lt' (Nat.lt_trans small (by decide))

end CommandFlags

namespace Command

theorem bodyLength_eq_sum (command : Command) :
    command.bodyLength = (command.fields.map CommandField.size).sum := by
  unfold bodyLength
  rw [List.sum_eq_foldr, List.foldr_map]

theorem length_fields (fields : List CommandField) :
    (fields.flatMap CommandField.encode).length = (fields.map CommandField.size).sum := by
  rw [List.length_flatMap, funext CommandField.length_encode]

theorem length_encode (command : Command) :
    command.encode.length = 5 + (command.fields.map CommandField.size).sum := by
  unfold encode
  rw [List.length_append, List.length_append, List.length_cons, length_littleEndian,
    length_littleEndian, length_fields]

/-! ### Frames -/

/-- A command as it stands in an input. The last two bytes of its header announce the length of
its body. -/
structure Frame where
  id0 : UInt8
  id1 : UInt8
  flags : UInt8
  length0 : UInt8
  length1 : UInt8
  fields : List CommandField.Frame
  announced : ofLittleEndian [length0, length1] =
    (fields.flatMap CommandField.Frame.bytes).length

namespace Frame

def bytes (frame : Frame) : List UInt8 :=
  frame.id0 :: frame.id1 :: frame.flags :: frame.length0 :: frame.length1 ::
    frame.fields.flatMap CommandField.Frame.bytes

def command (frame : Frame) : Command where
  id := UInt16.ofNat (ofLittleEndian [frame.id0, frame.id1])
  flags := CommandFlags.ofCode frame.flags.toNat
  fields := frame.fields.map CommandField.Frame.field

theorem length_settled (fields : List CommandField.Frame) :
    ((fields.map CommandField.Frame.settled).flatMap CommandField.Frame.bytes).length =
      (fields.flatMap CommandField.Frame.bytes).length := by
  rw [List.flatMap_map, List.length_flatMap, List.length_flatMap]
  simp only [CommandField.Frame.length_bytes_settled]

/-- The form in which a writer puts the command: undefined flags are clear, and truth values are
zero or one. -/
def settled (frame : Frame) : Frame :=
  { frame with
    flags := frame.flags &&& 7
    fields := frame.fields.map CommandField.Frame.settled
    announced := frame.announced.trans (length_settled frame.fields).symm }

theorem announced_lt (frame : Frame) :
    ofLittleEndian [frame.length0, frame.length1] < 65536 := by
  have two : [frame.length0, frame.length1].length = 2 := rfl
  have bound := ofLittleEndian_lt [frame.length0, frame.length1]
  rw [two] at bound
  exact bound

theorem length_bytes (frame : Frame) :
    frame.bytes.length = 5 + ofLittleEndian [frame.length0, frame.length1] := by
  rw [frame.announced, Nat.add_comm]
  rfl

theorem encode_fields (fields : List CommandField.Frame) :
    (fields.map CommandField.Frame.field).flatMap CommandField.encode =
      (fields.map CommandField.Frame.settled).flatMap CommandField.Frame.bytes := by
  rw [List.flatMap_map, List.flatMap_map]
  simp only [CommandField.Frame.encode_field]

theorem bodyLength_command (frame : Frame) :
    frame.command.bodyLength = ofLittleEndian [frame.length0, frame.length1] := by
  rw [bodyLength_eq_sum, ← length_fields, frame.announced]
  unfold command
  rw [encode_fields, length_settled]

theorem bodyLength_command_lt (frame : Frame) : frame.command.bodyLength < 65536 := by
  rw [frame.bodyLength_command]
  exact frame.announced_lt

theorem encode_command (frame : Frame) : frame.command.encode = frame.settled.bytes := by
  have id : littleEndian 2 frame.command.id.toNat = [frame.id0, frame.id1] :=
    littleEndian_ofNat16 rfl
  have flags : UInt8.ofNat frame.command.flags.code = frame.flags &&& 7 :=
    CommandFlags.byte_ofCode frame.flags
  have length : littleEndian 2 (ofLittleEndian [frame.length0, frame.length1]) =
      [frame.length0, frame.length1] :=
    littleEndian_ofLittleEndian [frame.length0, frame.length1]
  unfold encode
  rw [id, flags, frame.bodyLength_command, length]
  unfold command
  rw [encode_fields]
  rfl

end Frame

/-! ### Reading -/

theorem decode_frame_append (frame : Frame) (rest : List UInt8) :
    decode (frame.bytes ++ rest) = .ok (frame.command, rest) := by
  have body := CommandField.framing.readAll_frames CommandField.readsOn frame.fields
  have enough : ¬ (frame.fields.flatMap CommandField.Frame.bytes ++ rest).length <
      (frame.fields.flatMap CommandField.Frame.bytes).length := by
    rw [List.length_append]
    omega
  unfold Frame.bytes
  simp only [List.cons_append, decode, frame.announced]
  rw [if_neg enough, List.take_left, List.drop_left, body]
  rfl

theorem exists_frame_of_decode {input rest : List UInt8} {found : Command}
    (read : decode input = .ok (found, rest)) :
    ∃ frame : Frame, input = frame.bytes ++ rest ∧ found = frame.command := by
  unfold decode at read
  split at read
  · rename_i id0 id1 flags length0 length1 left
    simp only at read
    split at read
    · cases read
    · rename_i enough
      split at read
      · cases read
      · rename_i fields body
        cases read
        rcases (CommandField.framing.readAll_iff CommandField.readsOn).mp body with
          ⟨frames, cut, same⟩
        have announced : ofLittleEndian [length0, length1] =
            (frames.flatMap CommandField.Frame.bytes).length := by
          rw [← cut, List.length_take_of_le (Nat.le_of_not_lt enough)]
        refine ⟨⟨id0, id1, flags, length0, length1, frames, announced⟩, ?_, ?_⟩
        · simp only [Frame.bytes, List.cons_append, ← cut, List.take_append_drop]
        · rw [same]
          rfl
  · cases read

theorem category_of_decode {input : List UInt8} {fault : Fault}
    (failed : decode input = .error fault) : fault.category = .invalidArgument := by
  unfold decode at failed
  split at failed
  · simp only at failed
    split at failed
    · cases failed
      rfl
    · split at failed
      · rename_i body
        cases failed
        rcases CommandField.framing.error_of_readAll CommandField.readsOn body with
          ⟨_frames, _rest, _cut, _occupied, refused⟩
        exact CommandField.category_of_decode refused
      · cases failed
  · cases failed
    rfl

/-! ### Writing and reading -/

def frame (command : Command) (fits : command.bodyLength < 65536) : Frame where
  id0 := UInt8.ofNat (command.id.toNat % 256)
  id1 := UInt8.ofNat (command.id.toNat / 256 % 256)
  flags := UInt8.ofNat command.flags.code
  length0 := UInt8.ofNat (command.bodyLength % 256)
  length1 := UInt8.ofNat (command.bodyLength / 256 % 256)
  fields := command.fields.map CommandField.frame
  announced := by
    change ofLittleEndian (littleEndian 2 command.bodyLength) = _
    rw [ofLittleEndian_littleEndian, Nat.mod_eq_of_lt fits, List.flatMap_map,
      funext CommandField.bytes_frame, length_fields, bodyLength_eq_sum]

theorem bytes_frame (command : Command) (fits : command.bodyLength < 65536) :
    (command.frame fits).bytes = command.encode := by
  unfold Frame.bytes frame encode
  simp only [List.flatMap_map, CommandField.bytes_frame]
  rfl

theorem command_frame (command : Command) (fits : command.bodyLength < 65536) :
    (command.frame fits).command = command := by
  have id : UInt16.ofNat (ofLittleEndian (littleEndian 2 command.id.toNat)) = command.id :=
    ofLittleEndian_toNat16 command.id
  have flags : CommandFlags.ofCode (UInt8.ofNat command.flags.code).toNat = command.flags := by
    rw [UInt8.toNat_ofNat_of_lt' (Nat.lt_trans command.flags.code_lt (by decide)),
      CommandFlags.ofCode_code]
  have fields : (command.fields.map CommandField.frame).map CommandField.Frame.field =
      command.fields := by
    rw [List.map_map]
    exact (List.map_congr_left (fun field _member => field.field_frame)).trans (List.map_id _)
  change Command.mk _ _ _ = Command.mk command.id command.flags command.fields
  rw [Command.mk.injEq]
  exact ⟨id, flags, fields⟩

theorem decode_encode_append (command : Command) (fits : command.bodyLength < 65536)
    (rest : List UInt8) : decode (command.encode ++ rest) = .ok (command, rest) := by
  have read := decode_frame_append (command.frame fits) rest
  rw [bytes_frame, command_frame] at read
  exact read

/-- A command is found in front of any bytes, with its fields in order and all that follows left
unread, as long as its fields fill no more than the sixteen bits of the announced length. -/
theorem decode_encode_append_iff (command : Command) :
    command.encode.length = 5 + (command.fields.map CommandField.size).sum ∧
      ∀ rest : List UInt8, decode (command.encode ++ rest) = .ok (command, rest) ↔
        (command.fields.flatMap CommandField.encode).length ≤ 65535 := by
  constructor
  · exact command.length_encode
  · intro rest
    constructor
    · intro read
      rcases exists_frame_of_decode read with ⟨frame, same, _command⟩
      have written : command.encode.length = frame.bytes.length :=
        congrArg List.length (List.append_cancel_right same)
      have announced := frame.announced_lt
      rw [command.length_encode, frame.length_bytes, ← length_fields] at written
      omega
    · intro fits
      rw [length_fields, ← bodyLength_eq_sum] at fits
      exact command.decode_encode_append (Nat.lt_succ_of_le fits) rest

theorem ofBytes_iff {bytes : List UInt8} {command : Command} :
    ofBytes bytes = .ok command ↔ ∃ rest, decode bytes = .ok (command, rest) := by
  unfold ofBytes
  cases decode bytes with
  | error fault => simp
  | ok pair =>
      cases pair with
      | mk found rest => simp [eq_comm]

theorem ofBytes_frame (frame : Frame) (rest : List UInt8) :
    ofBytes (frame.bytes ++ rest) = .ok frame.command :=
  ofBytes_iff.mpr ⟨rest, decode_frame_append frame rest⟩

theorem category_of_ofBytes {bytes : List UInt8} {fault : Fault}
    (failed : ofBytes bytes = .error fault) : fault.category = .invalidArgument := by
  unfold ofBytes at failed
  split at failed
  · rename_i refused
    cases failed
    exact category_of_decode refused
  · cases failed

/-- Inputs that start with a command, and no others, are accepted. What follows the command has no
influence, and it is written as the bytes that it was read from but for undefined flags and truth
values that are neither zero nor one. -/
theorem ofBytes_grammar :
    (∀ bytes : List UInt8,
      ((∃ command, ofBytes bytes = .ok command) ↔
        ∃ (frame : Frame) (rest : List UInt8), bytes = frame.bytes ++ rest) ∧
      ∀ fault, ofBytes bytes = .error fault → fault.category = .invalidArgument) ∧
    ∀ (frame : Frame) (rest : List UInt8),
      ofBytes (frame.bytes ++ rest) = .ok frame.command ∧
      frame.command.encode = frame.settled.bytes ∧
      frame.command.encode.length = 5 + ofLittleEndian [frame.length0, frame.length1] ∧
      ofBytes frame.command.encode = .ok frame.command := by
  constructor
  · intro bytes
    constructor
    · constructor
      · rintro ⟨command, read⟩
        rcases ofBytes_iff.mp read with ⟨rest, found⟩
        rcases exists_frame_of_decode found with ⟨frame, same, _command⟩
        exact ⟨frame, rest, same⟩
      · rintro ⟨frame, rest, rfl⟩
        exact ⟨frame.command, ofBytes_frame frame rest⟩
    · intro fault
      exact category_of_ofBytes
  · intro frame rest
    have written := frame.encode_command
    have length : frame.settled.bytes.length = 5 + ofLittleEndian [frame.length0, frame.length1] :=
      frame.settled.length_bytes
    have again := frame.command.decode_encode_append frame.bodyLength_command_lt []
    rw [List.append_nil] at again
    refine ⟨ofBytes_frame frame rest, written, ?_, ofBytes_iff.mpr ⟨[], again⟩⟩
    rw [written, length]

end Command

end RestrictedAccess
