/-
Every way in which an operation of the library can fail, kept as its cause. The category and the
wording are functions of the cause, so the rules of the library never inspect a text.
-/

import RestrictedAccess.Kind
import RestrictedAccess.Command.Tag
import RestrictedAccess.Document.Format

namespace RestrictedAccess

inductive FileProblem
  | missing
  | notDirectory
  | isDirectory
  | nameTooLong
  | nulInName
  | notText
  | other (detail : String)
  deriving DecidableEq

namespace FileProblem

def message : FileProblem → String
  | missing => "No such file or directory (os error 2)"
  | notDirectory => "Not a directory (os error 20)"
  | isDirectory => "Is a directory (os error 21)"
  | nameTooLong => "File name too long (os error 36)"
  | nulInName => "file name contained an unexpected NUL byte"
  | notText => "stream did not contain valid UTF-8"
  | other detail => detail

end FileProblem

inductive SettingsError
  | nameEmpty
  | logLevelUnknown (level : String)
  | interfaceNotAccessPoint (kind : InterfaceKind)
  | dtimPeriodZero
  | maxAssignmentsZero
  deriving DecidableEq

namespace SettingsError

def message : SettingsError → String
  | nameEmpty => "Name cannot be empty"
  | logLevelUnknown level =>
      s!"Invalid log level '{level}', must be one of: trace, debug, info, warn, error"
  | interfaceNotAccessPoint kind =>
      s!"RAW requires an access point interface, got {kind.name}"
  | dtimPeriodZero => "DTIM period cannot be 0"
  | maxAssignmentsZero => "Max assignments cannot be 0"

end SettingsError

inductive ConfigFault
  | unreadable (problem : FileProblem)
  | unwritable (problem : FileProblem)
  | formatUnknown (path : String)
  | malformed (format : Document.Format)
  | unwritableAsToml
  | rejected (errors : List SettingsError)
  | noPath
  | scenarioUnreadable (problem : FileProblem)
  | scenarioMalformed (format : Document.Format)
  | logFilterInvalid (filter : String)
  deriving DecidableEq

namespace ConfigFault

def message : ConfigFault → String
  | unreadable problem => s!"Failed to read config file: {problem.message}"
  | unwritable problem => s!"Failed to write config file: {problem.message}"
  | formatUnknown path => s!"Unsupported config file format: {path}"
  | malformed format => s!"Failed to parse {format.name} config"
  | unwritableAsToml => "Failed to serialize config to TOML"
  | rejected errors =>
      "Configuration validation failed: " ++ ", ".intercalate (errors.map SettingsError.message)
  | noPath => "No config file path set"
  | scenarioUnreadable problem => s!"Failed to read scenario: {problem.message}"
  | scenarioMalformed format => s!"Failed to parse {format.name} scenario"
  | logFilterInvalid filter => s!"Invalid log level '{filter}'"

end ConfigFault

inductive FaultCategory
  | invalidArgument
  | resourceExhausted
  | unsupported
  | internalInconsistency
  | notFound
  | permissionDenied
  | config
  deriving DecidableEq

namespace FaultCategory

def name : FaultCategory → String
  | invalidArgument => "InvalidArgument"
  | resourceExhausted => "ResourceExhausted"
  | unsupported => "Unsupported"
  | internalInconsistency => "InternalInconsistency"
  | notFound => "NotFound"
  | permissionDenied => "PermissionDenied"
  | config => "Config"

end FaultCategory

inductive Fault
  | aidOutOfRange (aid : Aid)
  | commandHeaderMissing
  | commandBodyTruncated (available announced : Nat)
  | fieldTagMissing
  | fieldTagUnknown (code : UInt8)
  | fieldTruncated (tag : FieldTag) (available needed : Nat)
  /-- A window without slots cannot be divided among stations. -/
  | zeroSlots
  | windowKindUnknown (code : UInt8)
  /-- A command asks for a kind that is never generated. -/
  | windowKindRefused (kind : WindowKind)
  /-- The engine's own identifier names no window. -/
  | engineIdStored
  | elementTruncated (needed offset available : Nat)
  /-- An element without room for a single assignment is no element. -/
  | noAssignmentRoom
  /-- A window was to be activated before it was completely configured. -/
  | windowIncomplete (id : WindowId)
  | aidListTooLarge
  | bufferTooLarge
  /-- A window selected for the element has a kind that is never generated. -/
  | windowKindSelected (id : WindowId) (kind : WindowKind)
  | interfaceUnsupported (kind : InterfaceKind)
  | observerDeclined (reason : String)
  | stationsExceedCount (announced : Nat)
  | stationCountMismatch (found announced : Nat)
  | selectedWindowMissing (id : WindowId)
  | bufferOverflow (size offset capacity : Nat)
  | elementSizeMismatch (written announced : Nat)
  /-- The cached indices of a spread window do not describe a slice of the station list. -/
  | spreadSliceInvalid (id : WindowId)
  | windowNotFound (id : WindowId)
  | idReserved (id : WindowId)
  | passTimedOut
  | config (cause : ConfigFault)
  deriving DecidableEq

namespace Fault

def category : Fault → FaultCategory
  | aidOutOfRange _ => .invalidArgument
  | commandHeaderMissing => .invalidArgument
  | commandBodyTruncated _ _ => .invalidArgument
  | fieldTagMissing => .invalidArgument
  | fieldTagUnknown _ => .invalidArgument
  | fieldTruncated _ _ _ => .invalidArgument
  | zeroSlots => .invalidArgument
  | windowKindUnknown _ => .invalidArgument
  | windowKindRefused _ => .invalidArgument
  | engineIdStored => .invalidArgument
  | elementTruncated _ _ _ => .invalidArgument
  | noAssignmentRoom => .invalidArgument
  | windowIncomplete _ => .invalidArgument
  | aidListTooLarge => .resourceExhausted
  | bufferTooLarge => .resourceExhausted
  | windowKindSelected _ _ => .unsupported
  | interfaceUnsupported _ => .unsupported
  | observerDeclined _ => .unsupported
  | stationsExceedCount _ => .internalInconsistency
  | stationCountMismatch _ _ => .internalInconsistency
  | selectedWindowMissing _ => .internalInconsistency
  | bufferOverflow _ _ _ => .internalInconsistency
  | elementSizeMismatch _ _ => .internalInconsistency
  | spreadSliceInvalid _ => .internalInconsistency
  | windowNotFound _ => .notFound
  | idReserved _ => .permissionDenied
  | passTimedOut => .internalInconsistency
  | config _ => .config

def detail : Fault → String
  | aidOutOfRange aid => s!"AID {aid} out of range"
  | commandHeaderMissing => "Insufficient data for RAW command header"
  | commandBodyTruncated available announced =>
      s!"RAW command body truncated: {available} of {announced} bytes"
  | fieldTagMissing => "Missing RAW command tag"
  | fieldTagUnknown code => s!"Unknown RAW command tag {code}"
  | fieldTruncated tag available needed =>
      s!"Truncated RAW command field {tag.name}: {available} of {needed} bytes"
  | zeroSlots => "RAW with zero slots"
  | windowKindUnknown code => s!"Invalid RAW type: {code}"
  | windowKindRefused kind => s!"RAW type {kind.name} not supported"
  | engineIdStored => "RAW id 0 cannot be stored"
  | elementTruncated needed offset available =>
      s!"truncated data: {needed} bytes needed at offset {offset}, {available} available"
  | noAssignmentRoom => "max_assignments must be at least 1"
  | windowIncomplete id => s!"RAW {id} configuration incomplete"
  | aidListTooLarge => "AID list"
  | bufferTooLarge => "wire buffer"
  | windowKindSelected id kind => s!"RAW {id} has type {kind.name}"
  | interfaceUnsupported kind => s!"RAW on {kind.name} interface"
  | observerDeclined reason => reason
  | stationsExceedCount announced => s!"AID bitmap holds more than {announced} stations"
  | stationCountMismatch found announced =>
      s!"AID bitmap holds {found} stations, expected {announced}"
  | selectedWindowMissing id => s!"selected RAW {id} not stored"
  | bufferOverflow size offset capacity =>
      s!"wire buffer overflow: {size} bytes at offset {offset} of {capacity}"
  | elementSizeMismatch written announced =>
      s!"RPS IE written {written} bytes, expected {announced}"
  | spreadSliceInvalid id => s!"RAW {id} is spread over an invalid slice"
  | windowNotFound id => s!"RAW config {id} not found"
  | idReserved id => s!"RAW id {id} is reserved for internal use"
  | passTimedOut => "Timed out waiting for RAW update"
  | config cause => cause.message

def message (fault : Fault) : String :=
  match fault.category with
  | .invalidArgument => s!"Invalid argument: {fault.detail}"
  | .resourceExhausted => s!"Resource exhausted: {fault.detail}"
  | .unsupported => s!"Unsupported: {fault.detail}"
  | .internalInconsistency => s!"Internal inconsistency: {fault.detail}"
  | .notFound => fault.detail
  | .permissionDenied => fault.detail
  | .config => s!"Configuration error: {fault.detail}"

end Fault

end RestrictedAccess
