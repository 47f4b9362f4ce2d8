/-
The lines printed for a beacon. The first shows the payload of the element as it is on the air,
the others show one assignment each.
-/

import RestrictedAccess.Document.Digits
import RestrictedAccess.Element.ParameterSet

namespace RestrictedAccess.Simulation

def padLeft (width number : Nat) : String :=
  let digits := toString number
  String.ofList (List.replicate (width - digits.length) ' ') ++ digits

def hexLine (payload : List UInt8) : String :=
  " ".intercalate (payload.map (fun byte =>
    String.ofList (Document.Digits.hexDigits .lower 2 byte.toNat)))

/-- The line of one assignment. One without a group has the identifiers zero. -/
def assignmentLine (assignment : Assignment) : String :=
  let group := assignment.group.getD ⟨0, 0⟩
  s!"            AID {group.first}-{group.last}, {assignment.slot.count} slot(s) of "
    ++ s!"{assignment.slot.duration} us"
    ++ (if assignment.periodic.isSome then ", periodic" else "")

/-- The lines of a beacon. An empty payload means that the beacon carries no element. -/
def beaconLines (beacon : Nat) (payload : List UInt8) : List String :=
  let head := s!"beacon {padLeft 3 beacon}: "
  if payload = [] then [head ++ "no RPS element"]
  else
    (head ++ s!"EID {elementId} len {payload.length}: {hexLine payload}")
      :: match ParameterSet.decode payload with
        | .ok set => set.assignments.map assignmentLine
        | .error _ => []

end RestrictedAccess.Simulation
