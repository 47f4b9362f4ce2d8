/-
The byte form of commands. A header of five bytes announces the identifier, the flags and the
length of the body; the body is a sequence of tagged fields of fixed length. Reading returns the
bytes after the command unread and rejects the whole command if any field of the body is unknown
or cut short.
-/

import RestrictedAccess.Command
import RestrictedAccess.Wire.Bytes

namespace RestrictedAccess

open Wire

namespace CommandField

def payload : CommandField → List UInt8
  | slots windowDuration count crossesBoundary =>
      littleEndian 4 windowDuration.toNat ++ [count, UInt8.ofNat crossesBoundary.toNat]
  | group startAid endAid => littleEndian 2 startAid.toNat ++ littleEndian 2 endAid.toNat
  | startTime duration => littleEndian 4 duration.toNat
  | periodic periodicity validity startOffset refreshes =>
      [periodicity, validity, startOffset, UInt8.ofNat refreshes.toNat]
  | spread maxSpread nominal => littleEndian 2 maxSpread.toNat ++ littleEndian 2 nominal.toNat
  | kind code => [code]

def encode (field : CommandField) : List UInt8 :=
  UInt8.ofNat field.tag.code :: field.payload

/-- Read a payload of the tag's length. Any byte but zero is true. -/
def ofPayload? : FieldTag → List UInt8 → Option CommandField
  | .slots, [b0, b1, b2, b3, count, crosses] =>
      some (slots (UInt32.ofNat (ofLittleEndian [b0, b1, b2, b3])) count (crosses != 0))
  | .group, [b0, b1, b2, b3] =>
      some (group (UInt16.ofNat (ofLittleEndian [b0, b1])) (UInt16.ofNat (ofLittleEndian [b2, b3])))
  | .startTime, [b0, b1, b2, b3] =>
      some (startTime (UInt32.ofNat (ofLittleEndian [b0, b1, b2, b3])))
  | .periodic, [periodicity, validity, startOffset, refreshes] =>
      some (periodic periodicity validity startOffset (refreshes != 0))
  | .spread, [b0, b1, b2, b3] =>
      some (spread (UInt16.ofNat (ofLittleEndian [b0, b1]))
        (UInt16.ofNat (ofLittleEndian [b2, b3])))
  | .kind, [code] => some (kind code)
  | _, _ => none

def decode : List UInt8 → Except Fault (CommandField × List UInt8)
  | [] => .error .fieldTagMissing
  | code :: bytes =>
      match FieldTag.ofCode? code.toNat with
      | none => .error (.fieldTagUnknown code)
      | some tag =>
          match ofPayload? tag (bytes.take tag.payloadLength) with
          | some field => .ok (field, bytes.drop tag.payloadLength)
          | none => .error (.fieldTruncated tag bytes.length tag.payloadLength)

theorem length_of_decode {bytes rest : List UInt8} {field : CommandField}
    (read : decode bytes = .ok (field, rest)) : rest.length < bytes.length := by
  cases bytes with
  | nil => cases read
  | cons code bytes =>
      simp only [decode] at read
      cases found : FieldTag.ofCode? code.toNat with
      | none => simp [found] at read
      | some tag =>
          simp only [found] at read
          cases payload : ofPayload? tag (bytes.take tag.payloadLength) with
          | none => simp [payload] at read
          | some field =>
              simp only [payload, Except.ok.injEq, Prod.mk.injEq] at read
              rw [← read.2, List.length_drop, List.length_cons]
              omega

def decodeAll (bytes : List UInt8) : Except Fault (List CommandField) :=
  if bytes = [] then .ok []
  else
    match _ : decode bytes with
    | .error fault => .error fault
    | .ok (field, rest) =>
        match decodeAll rest with
        | .error fault => .error fault
        | .ok fields => .ok (field :: fields)
termination_by bytes.length
decreasing_by exact length_of_decode (by assumption)

end CommandField

namespace Command

def bodyLength (command : Command) : Nat :=
  command.fields.foldr (fun field total => field.size + total) 0

/-- The bytes of a command. The header has room for sixteen bits of body length. -/
def encode (command : Command) : List UInt8 :=
  littleEndian 2 command.id.toNat
    ++ (UInt8.ofNat command.flags.code :: littleEndian 2 command.bodyLength)
    ++ command.fields.flatMap CommandField.encode

def decode : List UInt8 → Except Fault (Command × List UInt8)
  | id0 :: id1 :: flags :: length0 :: length1 :: rest =>
      let length := ofLittleEndian [length0, length1]
      if rest.length < length then .error (.commandBodyTruncated rest.length length)
      else
        match CommandField.decodeAll (rest.take length) with
        | .error fault => .error fault
        | .ok fields =>
            let id := UInt16.ofNat (ofLittleEndian [id0, id1])
            .ok (⟨id, CommandFlags.ofCode flags.toNat, fields⟩, rest.drop length)
  | _ => .error .commandHeaderMissing

def ofBytes (bytes : List UInt8) : Except Fault Command :=
  match decode bytes with
  | .error fault => .error fault
  | .ok (command, _) => .ok command

end Command

end RestrictedAccess
