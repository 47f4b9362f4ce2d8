/-
Settings as documents. Every section and every field may be missing and then has its standard
value; unknown fields are ignored; a field of the wrong type, out of range or given twice makes
the whole document unusable.
-/

import RestrictedAccess.Document.Directory
import RestrictedAccess.Document.Json
import RestrictedAccess.Document.Toml
import RestrictedAccess.Document.Yaml
import RestrictedAccess.Settings

namespace RestrictedAccess

open Document

namespace InterfaceKind

def ofValue? (value : Value) : Option InterfaceKind :=
  value.asWord?.bind ofWord?

end InterfaceKind

namespace GeneralSettings

def fieldNames : List String :=
  ["name", "log_level", "interface_kind"]

def ofValue? (value : Value) : Option GeneralSettings := do
  match ← value.fields? fieldNames with
  | [name, logLevel, interfaceKind] =>
      return {
        name := ← Value.readOr standard.name Value.asText? name
        logLevel := ← Value.readOr standard.logLevel Value.asText? logLevel
        interfaceKind :=
          ← Value.readOr standard.interfaceKind InterfaceKind.ofValue? interfaceKind }
  | _ => none

def toSection (settings : GeneralSettings) : Document.Section :=
  { title := "general"
    entries := [("name", .text settings.name), ("log_level", .text settings.logLevel),
      ("interface_kind", .text settings.interfaceKind.word)] }

end GeneralSettings

namespace EngineSettings

def fieldNames : List String :=
  ["enabled_on_start", "dtim_period", "praw_dtims_for_tx", "max_assignments", "warn_interval_ms",
    "warn_burst"]

def ofValue? (value : Value) : Option EngineSettings := do
  match ← value.fields? fieldNames with
  | [enabledOnStart, dtimPeriod, announcedDtims, maxAssignments, warnInterval, warnBurst] =>
      return {
        enabledOnStart := ← Value.readOr standard.enabledOnStart Value.asBool? enabledOnStart
        dtimPeriod := ← Value.readOr standard.dtimPeriod Value.asUInt8? dtimPeriod
        announcedDtims := ← Value.readOr standard.announcedDtims Value.asUInt16? announcedDtims
        maxAssignments := ← Value.readOr standard.maxAssignments Value.asUInt64? maxAssignments
        warnInterval := ← Value.readOr standard.warnInterval Value.asUInt64? warnInterval
        warnBurst := ← Value.readOr standard.warnBurst Value.asUInt32? warnBurst }
  | _ => none

def toSection (settings : EngineSettings) : Document.Section :=
  { title := "raw"
    entries := [("enabled_on_start", .bool settings.enabledOnStart),
      ("dtim_period", .natural settings.dtimPeriod.toNat),
      ("praw_dtims_for_tx", .natural settings.announcedDtims.toNat),
      ("max_assignments", .natural settings.maxAssignments.toNat),
      ("warn_interval_ms", .natural settings.warnInterval.toNat),
      ("warn_burst", .natural settings.warnBurst.toNat)] }

end EngineSettings

namespace Settings

def ofValue? (value : Value) : Option Settings := do
  match ← value.fields? ["general", "raw"] with
  | [general, engine] =>
      return {
        general := ← Value.readOr .standard GeneralSettings.ofValue? general
        engine := ← Value.readOr .standard EngineSettings.ofValue? engine }
  | _ => none

def toSections (settings : Settings) : List Document.Section :=
  [settings.general.toSection, settings.engine.toSection]

def parse (format : Format) (text : String) : Except Fault Settings :=
  let value := match format with
    | .json => Json.read? text
    | .toml => Toml.read? text
    | .yaml => Yaml.read? text
  match value.bind ofValue? with
  | some settings => .ok settings
  | none => .error (.config (.malformed format))

def render (settings : Settings) (format : Format) : Except Fault String :=
  match format with
  | .json => .ok (Json.write settings.toSections)
  | .toml =>
      match Toml.write? settings.toSections with
      | some text => .ok text
      | none => .error (.config .unwritableAsToml)
  | .yaml => .ok (Yaml.write settings.toSections)

/-- Read the settings in a file. The file is read before its format is looked at. -/
def fetch (files : FileView) (path : String) : Except Fault Settings :=
  match files.readText path with
  | .error problem => .error (.config (.unreadable problem))
  | .ok text =>
      match Format.ofPath? path with
      | none => .error (.config (.formatUnknown path))
      | some format => parse format text

/-- Write the settings to a file. The format is looked at before the file is written. -/
def store (settings : Settings) (directory : Directory) (path : String) :
    Except Fault Directory := do
  match Format.ofPath? path with
  | none => throw (.config (.formatUnknown path))
  | some format =>
      let text ← settings.render format
      match directory.write path text.toUTF8 with
      | .error problem => throw (.config (.unwritable problem))
      | .ok next => return next

end Settings

end RestrictedAccess
