/-
The configured windows of an interface and the two lists of those that are active, one for plain
windows and one for periodic ones, both in ascending order. Activation puts a window on the list
that matches its configuration.
-/

import RestrictedAccess.Registry.Table
import RestrictedAccess.Window.Countdown

namespace RestrictedAccess

inductive Membership
  | inactive
  | plain
  | periodic
  deriving DecidableEq

namespace Membership

def name : Membership → String
  | inactive => "Inactive"
  | plain => "Plain"
  | periodic => "Periodic"

end Membership

/-- Add an identifier to an ascending list unless it is there. -/
def insertAscending (id : WindowId) : List WindowId → List WindowId
  | [] => [id]
  | head :: tail =>
      if id < head then id :: head :: tail
      else if id = head then head :: tail
      else head :: insertAscending id tail

structure Registry where
  table : WindowTable
  /-- The active windows without a schedule, ascending. -/
  plain : List WindowId
  /-- The active windows with a schedule, ascending. -/
  periodic : List WindowId

namespace Registry

def empty : Registry :=
  ⟨.empty, [], []⟩

def find? (registry : Registry) (id : WindowId) : Option WindowConfig :=
  registry.table.find? id

/-- Active windows, plain ones first. -/
def active (registry : Registry) : List WindowId :=
  registry.plain ++ registry.periodic

def hasActive (registry : Registry) : Bool :=
  !registry.active.isEmpty

def membership (registry : Registry) (id : WindowId) : Membership :=
  if id ∈ registry.plain then .plain
  else if id ∈ registry.periodic then .periodic
  else .inactive

/-- Store a window and leave the active lists as they are. -/
def put (registry : Registry) (id : WindowId) (window : WindowConfig) : Registry :=
  { registry with table := registry.table.insert id window }

/-- The window of an identifier, which is stored empty if it was not there. -/
def findOrCreate (registry : Registry) (id : WindowId) : Except Fault (Registry × WindowConfig) :=
  if id = engineId then .error .engineIdStored
  else
    match registry.find? id with
    | some window => .ok (registry, window)
    | none => .ok (registry.put id (.empty id), .empty id)

def deactivate (registry : Registry) (id : WindowId) : Registry :=
  if id ∈ registry.plain then
    { registry with plain := registry.plain.filter (fun other => other ≠ id) }
  else
    { registry with periodic := registry.periodic.filter (fun other => other ≠ id) }

/-- Put a window on the list that matches it and on no other. -/
def enlist (registry : Registry) (id : WindowId) (window : WindowConfig) : Registry :=
  let cleared := registry.deactivate id
  if window.isPeriodic then
    { cleared with periodic := insertAscending id cleared.periodic }
  else
    { cleared with plain := insertAscending id cleared.plain }

def activate (registry : Registry) (id : WindowId) : Except Fault Registry :=
  match registry.find? id with
  | none => .error (.windowNotFound id)
  | some window =>
      match registry.membership id, window.isPeriodic with
      | .plain, false => .ok registry
      | .periodic, true => .ok registry
      | _, _ => .ok (registry.enlist id window)

/-- Store a new version of a window under its identifier. If it was active it stays active, on the
list that matches the new version. -/
def replace (registry : Registry) (window : WindowConfig) : Except Fault Registry :=
  if window.id = engineId then .error .engineIdStored
  else
    let stored := (registry.deactivate window.id).put window.id window
    if registry.membership window.id = .inactive then .ok stored
    else stored.activate window.id

def delete (registry : Registry) (id : WindowId) : Registry :=
  let cleared := registry.deactivate id
  { cleared with table := cleared.table.erase id }

/-- Change a window where it is stored. -/
def modify (registry : Registry) (id : WindowId) (change : WindowConfig → WindowConfig) :
    Registry :=
  match registry.find? id with
  | none => registry
  | some window => registry.put id (change window)

def anyPlainSpreading (registry : Registry) : Bool :=
  registry.plain.any (fun id => (registry.find? id).any WindowConfig.usesSpreading)

structure BeaconCount where
  registry : Registry
  /-- Windows that were deactivated because their schedule lapsed. -/
  expired : List WindowId
  anyRefreshed : Bool

def countBeaconFor (count : BeaconCount) (id : WindowId) : BeaconCount :=
  match count.registry.find? id with
  | none => count
  | some window =>
      match window.periodic with
      | none => count
      | some schedule =>
          let (advanced, event) := schedule.advance
          let registry := count.registry.put id { window with periodic := some advanced }
          match event with
          | .running => { count with registry }
          | .periodElapsed => { count with registry }
          | .refreshed => { count with registry, anyRefreshed := true }
          | .expired =>
              { count with
                registry := registry.deactivate id
                expired := count.expired ++ [id] }

/-- Count one beacon for every active schedule and deactivate those that lapse. -/
def countBeacon (registry : Registry) : BeaconCount :=
  registry.periodic.foldl countBeaconFor ⟨registry, [], false⟩

/-- Move every active schedule back to its configured offset. -/
def realign (registry : Registry) : Registry :=
  registry.periodic.foldl
    (fun current id => current.modify id (fun window =>
      { window with
        periodic := window.periodic.map (fun schedule =>
          { schedule with offsetLeft := schedule.startOffset }) }))
    registry

end Registry

end RestrictedAccess
