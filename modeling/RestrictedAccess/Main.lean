/-
The simulation program. It looks up the files its arguments name and prints the report.
-/

import RestrictedAccess.Simulation.Report

namespace RestrictedAccess.Main

open Document

def problemNumber (code : UInt32) : UInt32 :=
  min code (0 - code)

def problemOf : IO.Error → FileProblem
  | .noFileOrDirectory _ _ _ => .missing
  | .inappropriateType _ code _ =>
      if problemNumber code = 20 then .notDirectory else .isDirectory
  | .invalidArgument file code detail =>
      if problemNumber code = 36 then .nameTooLong
      else .other (toString (IO.Error.invalidArgument file code detail))
  | problem => .other (toString problem)

def lookUp (path : String) : IO (String × Except FileProblem ByteArray) := do
  try
    return (path, .ok (← IO.FS.readBinFile path))
  catch problem =>
    return (path, .error (problemOf problem))

def pathsIn (arguments : Simulation.Arguments) : List String :=
  arguments.config.toList ++ arguments.scenario.toList

def run (texts : List String) : IO UInt32 := do
  let paths := match Simulation.Arguments.read? texts with
    | some arguments => pathsIn arguments
    | none => []
  let report := Simulation.Report.produce (.ofLookups (← paths.mapM lookUp)) texts
  for line in report.lines do
    IO.println line
  if let .ok stats := report.ending then
    IO.println (Simulation.Report.statsLine stats)
  if let some line := report.errorLine? then
    IO.eprintln line
  return UInt32.ofNat report.exitCode

end RestrictedAccess.Main

def main (texts : List String) : IO UInt32 :=
  RestrictedAccess.Main.run texts
