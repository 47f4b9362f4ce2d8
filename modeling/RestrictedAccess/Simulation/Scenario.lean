/-
Scenarios of a simulation. A scenario lists the stations that associate and the commands that
configure their windows. Its document may leave out any field of a scenario or of a command, but
a slot, schedule or spreading that is there has to be complete.
-/

import RestrictedAccess.Command
import RestrictedAccess.Document.FileView
import RestrictedAccess.Document.Json
import RestrictedAccess.Document.Toml

namespace RestrictedAccess

open Document

structure Scenario where
  /-- The stations to associate. When there are none, the stations from one up to a count given
  elsewhere associate. -/
  stations : List Aid
  commands : List Command
  deriving DecidableEq

namespace Scenario

/-- The scenario of a simulation that is given none. One window over the first hundred stations is
spread, three stations a beacon. -/
def standard : Scenario :=
  { stations := []
    commands :=
      [{ id := 1
         flags := ⟨true, false, true⟩
         fields := [.slots 4000 2 false, .group 1 100, .spread 0 3] }] }

/-! ### Fields of commands -/

def slotsOfValue? (value : Value) : Option CommandField := do
  match ← value.fields? ["duration_us", "num_slots", "cross_slot_boundary"] with
  | [duration, count, crosses] =>
      return .slots (← Value.required Value.asUInt32? duration)
        (← Value.required Value.asUInt8? count) (← Value.readOr false Value.asBool? crosses)
  | _ => none

def groupOfValue? (value : Value) : Option CommandField :=
  (value.asPair? Value.asUInt16?).map (fun (startAid, endAid) => .group startAid endAid)

def startTimeOfValue? (value : Value) : Option CommandField :=
  value.asUInt32?.map .startTime

def periodicOfValue? (value : Value) : Option CommandField := do
  match ← value.fields? ["periodicity", "validity", "start_offset", "refresh"] with
  | [periodicity, validity, startOffset, refreshes] =>
      return .periodic (← Value.required Value.asUInt8? periodicity)
        (← Value.required Value.asUInt8? validity) (← Value.required Value.asUInt8? startOffset)
        (← Value.readOr false Value.asBool? refreshes)
  | _ => none

def spreadOfValue? (value : Value) : Option CommandField := do
  match ← value.fields? ["max_spread", "nominal"] with
  | [maxSpread, nominal] =>
      return .spread (← Value.required Value.asUInt16? maxSpread)
        (← Value.required Value.asUInt16? nominal)
  | _ => none

/-! ### Commands and scenarios -/

def commandFieldNames : List String :=
  ["id", "enable", "delete", "update", "slot", "group", "start_time_us", "praw", "spread"]

/-- Read a command. Its fields stand in a fixed order, whatever the order of the document. -/
def commandOfValue? (value : Value) : Option Command := do
  match ← value.fields? commandFieldNames with
  | [id, enable, delete, update, slots, group, startTime, periodic, spread] =>
      let flags : CommandFlags :=
        { enable := ← Value.readOr false Value.asBool? enable
          delete := ← Value.readOr false Value.asBool? delete
          update := ← Value.readOr false Value.asBool? update }
      let fields :=
        [← Value.maybe slotsOfValue? slots, ← Value.maybe groupOfValue? group,
          ← Value.maybe startTimeOfValue? startTime, ← Value.maybe periodicOfValue? periodic,
          ← Value.maybe spreadOfValue? spread]
      return ⟨← Value.readOr 0 Value.asUInt16? id, flags, fields.filterMap (fun field => field)⟩
  | _ => none

def ofValue? (value : Value) : Option Scenario := do
  match ← value.fields? ["stations", "commands"] with
  | [stations, commands] =>
      return {
        stations := ← Value.readOr [] (Value.asList? Value.asUInt16?) stations
        commands := ← Value.readOr [] (Value.asList? commandOfValue?) commands }
  | _ => none

/-- The format of a scenario file. Every name without the extension of JSON means TOML. -/
def formatOf (path : String) : Format :=
  if Format.extension? path = some "json" then .json else .toml

def parse (format : Format) (text : String) : Except Fault Scenario :=
  let value := match format with
    | .json => Json.read? text
    | _ => Toml.read? text
  match value.bind ofValue? with
  | some scenario => .ok scenario
  | none => .error (.config (.scenarioMalformed format))

def fetch (files : FileView) (path : String) : Except Fault Scenario :=
  match files.readText path with
  | .error problem => .error (.config (.scenarioUnreadable problem))
  | .ok text => parse (formatOf path) text

end Scenario

end RestrictedAccess
