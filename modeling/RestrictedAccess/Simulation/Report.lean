/-
The report of the simulation program for its arguments and the files it can read. Arguments,
settings, log filter and scenario are looked at in this order, and the first that is unusable
ends the program.
-/

import RestrictedAccess.Settings.Codec
import RestrictedAccess.Settings.Manager
import RestrictedAccess.Simulation
import RestrictedAccess.Simulation.Arguments
import RestrictedAccess.Simulation.BeaconLines
import RestrictedAccess.Simulation.LogFilter
import RestrictedAccess.Text.Hidden

namespace RestrictedAccess.Simulation

open Document

/-! ### Error lines -/

def escapeChar (c : Char) : List Char :=
  if c = '"' then ['\\', '"']
  else if c = '\\' then ['\\', '\\']
  else if c = '\n' then ['\\', 'n']
  else if c = '\r' then ['\\', 'r']
  else if c = '\t' then ['\\', 't']
  else if c.toNat = 0 then ['\\', '0']
  else if !Text.isHidden c then [c]
  else "\\u\x7b".toList ++ Nat.toDigits 16 c.toNat ++ ['\x7d']

/-- Whether a cause goes on with a complaint of the reader that refused a text. The complaint is
not part of the report, which then breaks off before it. -/
def goesOn : Fault → Bool
  | .config (.malformed _) => true
  | .config (.scenarioMalformed _) => true
  | .config (.logFilterInvalid _) => true
  | _ => false

def errorLine (fault : Fault) : String :=
  "Error: " ++ fault.category.name ++ "(\""
    ++ String.ofList (fault.detail.toList.flatMap escapeChar)
    ++ (if goesOn fault then "" else "\")")

/-! ### Loading -/

def loadSettings? (files : FileView) (path : String) : Except Fault (Option Settings) :=
  if files.holds path then
    (SettingsManager.load (Settings.fetch files) path).map (fun loaded => some loaded.settings)
  else .ok none

structure Inputs where
  settings : Settings
  scenario : Scenario

def standardLogFilter : String := "info"

inductive Failure
  | argumentsRefused
  | notLoaded (fault : Fault)
  | brokenOff
  /-- The simulation itself failed, which is only logged. -/
  | stopped (fault : Fault)
  deriving DecidableEq

def loading {α : Type} (result : Except Fault α) : Except Failure α :=
  result.mapError .notLoaded

def checkLogFilter (filter : String) : Except Failure Unit :=
  (LogFilter.check filter).mapError (fun
    | .invalid => .notLoaded (.config (.logFilterInvalid filter))
    | .cut => .brokenOff)

/-- Load what arguments ask for. A filter in the arguments wins over one in the settings, and a
DTIM period over the one in the settings. -/
def loadInputs (files : FileView) (arguments : Arguments) : Except Failure Inputs := do
  let loaded ← match arguments.config with
    | some path => loading (loadSettings? files path)
    | none => pure none
  checkLogFilter ((arguments.logLevel <|> loaded.map (fun settings =>
    settings.general.logLevel)).getD standardLogFilter)
  let settings := loaded.getD .standard
  let period := arguments.dtimPeriod.getD settings.engine.dtimPeriod
  let scenario ← match arguments.scenario with
    | some path => loading (Scenario.fetch files path)
    | none => pure .standard
  return ⟨{ settings with engine := { settings.engine with dtimPeriod := period } }, scenario⟩

/-! ### The report -/

structure Report where
  lines : List String
  ending : Except Failure SchedulerStats

namespace Report

def exitCode (report : Report) : Nat :=
  match report.ending with
  | .ok _ => 0
  | .error .argumentsRefused => 2
  | .error .brokenOff => 101
  | .error _ => 1

def errorLine? (report : Report) : Option String :=
  match report.ending with
  | .error (.notLoaded fault) => some (errorLine fault)
  | _ => none

def ofRecord (finished : Record) : Report :=
  { lines := (finished.payloads.zipIdx.map (fun (payload, beacon) =>
      beaconLines beacon payload)).flatten
    ending := match finished.ending with
      | .ok stats => .ok stats
      | .error fault => .error (.stopped fault) }

def statsLine (stats : SchedulerStats) : String :=
  "\x7b" ++ ",".intercalate
      [s!"\"regenerations\":{stats.passes}", s!"\"beacons_processed\":{stats.beacons}",
        s!"\"dropped_assignments\":{stats.dropped}", s!"\"expired_praws\":{stats.expired}"]
    ++ "\x7d"

def produce (files : FileView) (texts : List String) : Report :=
  match Arguments.read? texts with
  | none => ⟨[], .error .argumentsRefused⟩
  | some arguments =>
      match loadInputs files arguments with
      | .error failure => ⟨[], .error failure⟩
      | .ok inputs =>
          ofRecord (record inputs.settings inputs.scenario arguments.stations.toNat
            arguments.beacons.toNat)

end Report

end RestrictedAccess.Simulation
