/-
Configuration commands and their effect on one window. A command carries three flags and a list of
fields; applying it patches the fields onto a configuration in order and is refused as a whole
when any of them is unacceptable.
-/

import RestrictedAccess.Window

namespace RestrictedAccess

structure CommandFlags where
  enable : Bool
  delete : Bool
  update : Bool
  deriving DecidableEq

namespace CommandFlags

def none : CommandFlags :=
  ⟨false, false, false⟩

def code (flags : CommandFlags) : Nat :=
  flags.enable.toNat + 2 * flags.delete.toNat + 4 * flags.update.toNat

/-- Undefined bits are ignored. -/
def ofCode (code : Nat) : CommandFlags :=
  ⟨code % 2 = 1, code / 2 % 2 = 1, code / 4 % 2 = 1⟩

theorem ofCode_code (flags : CommandFlags) : ofCode flags.code = flags := by
  rcases flags with ⟨enable, delete, update⟩
  cases enable <;> cases delete <;> cases update <;> rfl

theorem code_lt (flags : CommandFlags) : flags.code < 8 := by
  rcases flags with ⟨enable, delete, update⟩
  cases enable <;> cases delete <;> cases update <;> decide

end CommandFlags

inductive CommandField
  /-- The duration of the whole window and the number of slots it is divided into. -/
  | slots (windowDuration : UInt32) (count : UInt8) (crossesBoundary : Bool)
  | group (startAid endAid : Aid)
  | startTime (duration : UInt32)
  /-- A periodicity of zero makes the window plain again. -/
  | periodic (periodicity validity startOffset : UInt8) (refreshes : Bool)
  | spread (maxSpread nominal : UInt16)
  | kind (code : UInt8)
  deriving DecidableEq

namespace CommandField

def tag : CommandField → FieldTag
  | slots _ _ _ => .slots
  | group _ _ => .group
  | startTime _ => .startTime
  | periodic _ _ _ _ => .periodic
  | spread _ _ => .spread
  | kind _ => .kind

def size (field : CommandField) : Nat :=
  1 + field.tag.payloadLength

def applyTo (field : CommandField) (window : WindowConfig) : Except Fault WindowConfig :=
  match field with
  | slots windowDuration count crossesBoundary =>
      if count = 0 then .error .zeroSlots
      else
        let duration := UInt32.ofNat (windowDuration.toNat / count.toNat)
        .ok { window with slot := ⟨count, duration, crossesBoundary⟩ }
  | group startAid endAid => .ok { window with startAid, endAid, indices := .unresolved }
  | startTime duration => .ok { window with startTime := duration }
  | periodic periodicity validity startOffset refreshes =>
      if periodicity = 0 then .ok { window with periodic := none }
      else
        .ok { window with
          periodic := some (PeriodicSchedule.new periodicity validity startOffset refreshes) }
  | spread maxSpread nominal =>
      .ok { window with spreading := some (Spreading.new maxSpread nominal) }
  | kind code =>
      match WindowKind.ofCode? code.toNat with
      | none => .error (.windowKindUnknown code)
      | some asked =>
          if asked.isSupported then .ok { window with kind := asked }
          else .error (.windowKindRefused asked)

end CommandField

structure Command where
  id : WindowId
  flags : CommandFlags
  fields : List CommandField
  deriving DecidableEq

namespace Command

/-- Patch fields onto a configuration in order, up to the first that is refused. -/
def patch : List CommandField → WindowConfig → Except Fault WindowConfig
  | [], window => .ok window
  | field :: rest, window =>
      match field.applyTo window with
      | .error fault => .error fault
      | .ok patched => patch rest patched

/-- The patched version of a configuration. The kind starts over as generic. -/
def applyTo (command : Command) (window : WindowConfig) : Except Fault WindowConfig :=
  patch command.fields { window with kind := .generic }

end Command

end RestrictedAccess
