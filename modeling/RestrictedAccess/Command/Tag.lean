/-
The tags that announce the fields of a configuration command. Every field has a fixed length, so
the tag alone decides how many bytes follow it.
-/

namespace RestrictedAccess

inductive FieldTag
  | slots
  | group
  | startTime
  | periodic
  | spread
  | kind
  deriving DecidableEq

namespace FieldTag

def name : FieldTag → String
  | slots => "SlotDef"
  | group => "Group"
  | startTime => "StartTime"
  | periodic => "Praw"
  | spread => "BeaconSpread"
  | kind => "Kind"

def code : FieldTag → Nat
  | slots => 0
  | group => 1
  | startTime => 2
  | periodic => 3
  | spread => 4
  | kind => 5

def ofCode? : Nat → Option FieldTag
  | 0 => some slots
  | 1 => some group
  | 2 => some startTime
  | 3 => some periodic
  | 4 => some spread
  | 5 => some kind
  | _ => none

def payloadLength : FieldTag → Nat
  | slots => 6
  | group => 4
  | startTime => 4
  | periodic => 4
  | spread => 4
  | kind => 1

theorem ofCode?_code (tag : FieldTag) : ofCode? tag.code = some tag := by
  cases tag <;> rfl

theorem code_lt (tag : FieldTag) : tag.code < 6 := by
  cases tag <;> decide

end FieldTag

end RestrictedAccess
