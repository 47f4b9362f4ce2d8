/-
The payload of the parameter set element, a plain concatenation of assignments. It is generated in
two passes over the selected windows: the first computes the exact size and the second writes into
a buffer of that size while advancing the spreading state of the windows.
-/

import RestrictedAccess.Element.Assignment
import RestrictedAccess.Registry

namespace RestrictedAccess

open Station Wire

/-- The identifier of the parameter set element in beacons. -/
def elementId : Nat := 208

/-- The most payload bytes a single element can carry. -/
def maxElementSize : Nat := 255

structure ParameterSet where
  assignments : List Assignment
  deriving DecidableEq

def Assignment.totalSize (assignments : List Assignment) : Nat :=
  assignments.foldr (fun assignment total => assignment.size + total) 0

namespace ParameterSet

def readAll (bytes : List UInt8) : Except Assignment.Shortage (List Assignment) :=
  if bytes = [] then .ok []
  else
    match _ : Assignment.read bytes with
    | .error shortage => .error shortage
    | .ok (assignment, rest) =>
        match readAll rest with
        | .error shortage => .error shortage
        | .ok assignments => .ok (assignment :: assignments)
termination_by bytes.length
decreasing_by
  have consumed := Assignment.length_of_read (by assumption)
  omega

/-- Decode a payload. A part that is cut short is reported with the offset at which it starts. -/
def decode (payload : List UInt8) : Except Fault ParameterSet :=
  match readAll payload with
  | .ok assignments => .ok ⟨assignments⟩
  | .error shortage =>
      .error (.elementTruncated shortage.needed (payload.length - shortage.available)
        shortage.available)

def writeAll : List Assignment → Buffer → Except Fault Buffer
  | [], buffer => .ok buffer
  | assignment :: rest, buffer =>
      match assignment.write buffer with
      | .error fault => .error fault
      | .ok next => writeAll rest next

def size (set : ParameterSet) : Nat :=
  Assignment.totalSize set.assignments

def encode (set : ParameterSet) : Except Fault (List UInt8) := do
  let buffer ← Buffer.withCapacity set.size
  let filled ← writeAll set.assignments buffer
  return filled.written

def encodeNotices (set : ParameterSet) : List Notice :=
  set.assignments.flatMap (fun assignment => assignment.slot.encodeNotices)

end ParameterSet

namespace WindowConfig

def assignmentSize (window : WindowConfig) : Nat :=
  3 + (if window.startTime = 0 then 0 else 1) + 3 + (if window.isPeriodic then 3 else 0)

end WindowConfig

namespace Element

/-- The size of the payload for windows in order. Only supported kinds have a size. -/
def size (windows : List WindowConfig) : Except Fault Nat :=
  windows.foldlM
    (fun total window =>
      if window.kind.isSupported then .ok (total + window.assignmentSize)
      else .error (.windowKindSelected window.id window.kind))
    0

def selected (registry : Registry) (selection : List WindowId) :
    Except Fault (List WindowConfig) :=
  selection.mapM (fun id =>
    match registry.find? id with
    | some window => .ok window
    | none => .error (.selectedWindowMissing id))

/-- Write the assignments of a selection and advance the spreading state of its windows. The
registry is returned in any case, as far as the windows were advanced. -/
def writeSelected (aids : AidList) : List WindowId → Registry → Buffer →
    Registry × Except Fault Buffer
  | [], registry, buffer => (registry, .ok buffer)
  | id :: rest, registry, buffer =>
      match registry.find? id with
      | none => (registry, .error (.selectedWindowMissing id))
      | some window =>
          match window.beaconRange aids with
          | .error fault => (registry, .error fault)
          | .ok (advanced, range) =>
              let registry := registry.put id advanced
              match (Assignment.ofWindow advanced range).write buffer with
              | .error fault => (registry, .error fault)
              | .ok next => writeSelected aids rest registry next

def selectedSize (registry : Registry) (selection : List WindowId) : Except Fault Nat := do
  let windows ← selected registry selection
  size windows

def build (registry : Registry) (selection : List WindowId) (aids : AidList) :
    Registry × Except Fault (List UInt8) :=
  if selection = [] then (registry, .ok [])
  else
    match selectedSize registry selection >>= Buffer.withCapacity with
    | .error fault => (registry, .error fault)
    | .ok buffer =>
        match writeSelected aids selection registry buffer with
        | (advanced, .error fault) => (advanced, .error fault)
        | (advanced, .ok filled) =>
            if filled.isFull then (advanced, .ok filled.written)
            else (advanced, .error (.elementSizeMismatch filled.position filled.capacity))

/-- The notices of a generated payload: one when it is longer than an element, then those of each
assignment. -/
def buildNotices (registry : Registry) (selection : List WindowId) : List Notice :=
  match selected registry selection, selectedSize registry selection with
  | .ok windows, .ok total =>
      (if maxElementSize < total then [.elementTooLong total] else [])
        ++ windows.flatMap (fun window =>
          startTimeNotices window.startTime ++ window.slot.encodeNotices)
  | _, _ => []

end Element

end RestrictedAccess
