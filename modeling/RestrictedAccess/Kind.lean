/-
Names shared by the whole library: identifiers of stations and windows, the kinds of window the
air format can announce and the kinds of interface an engine can be attached to. Only generic
windows are generated and only access points carry an engine; both facts are decided elsewhere.
-/

namespace RestrictedAccess

/-- An association identifier, the number by which an access point addresses a station. -/
abbrev Aid := UInt16

/-- The number of a window configuration. Zero addresses the engine as a whole. -/
abbrev WindowId := UInt16

/-- The largest association identifier a station can hold. -/
def maxAid : Nat := 2007

/-- The identifier of commands that address the engine instead of one window. -/
def engineId : WindowId := 0

/-- Identifiers from here on belong to windows the engine creates for itself. -/
def firstInternalId : WindowId := 0x8000

/-- The kind announced in the two low bits of an assignment's control byte. -/
inductive WindowKind
  | generic
  | sounding
  | simplex
  | triggering
  deriving DecidableEq

namespace WindowKind

def name : WindowKind → String
  | generic => "Generic"
  | sounding => "Sounding"
  | simplex => "Simplex"
  | triggering => "Triggering"

def code : WindowKind → Nat
  | generic => 0
  | sounding => 1
  | simplex => 2
  | triggering => 3

def ofCode? : Nat → Option WindowKind
  | 0 => some generic
  | 1 => some sounding
  | 2 => some simplex
  | 3 => some triggering
  | _ => none

def isSupported (kind : WindowKind) : Bool :=
  kind = generic

theorem code_lt (kind : WindowKind) : kind.code < 4 := by
  cases kind <;> decide

end WindowKind

inductive InterfaceKind
  | accessPoint
  | station
  | mesh
  | monitor
  deriving DecidableEq

namespace InterfaceKind

def name : InterfaceKind → String
  | accessPoint => "AccessPoint"
  | station => "Station"
  | mesh => "Mesh"
  | monitor => "Monitor"

def word : InterfaceKind → String
  | accessPoint => "access_point"
  | station => "station"
  | mesh => "mesh"
  | monitor => "monitor"

def ofWord? : String → Option InterfaceKind
  | "access_point" => some accessPoint
  | "station" => some station
  | "mesh" => some mesh
  | "monitor" => some monitor
  | _ => none

end InterfaceKind

end RestrictedAccess
