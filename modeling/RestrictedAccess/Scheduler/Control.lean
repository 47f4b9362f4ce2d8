/-
Configuration commands at the scheduler. A command addresses the scheduler as a whole or one
window; identifiers of windows the engine made for itself are out of reach. Whatever the outcome,
schedules are realigned afterwards and a pass is asked for.
-/

import RestrictedAccess.Command
import RestrictedAccess.Scheduler

namespace RestrictedAccess.Scheduler

/-- Cache the slice of a spread window. Before the first refresh there is no list to resolve it
in, and the refresh will do so. -/
def resolveWindow (scheduler : Scheduler) (id : WindowId) : Scheduler :=
  match scheduler.aidList with
  | none => scheduler
  | some aids =>
      { scheduler with
        registry := scheduler.registry.modify id (fun window => window.resolveIndices aids) }

def switchWindow (scheduler : Scheduler) (id : WindowId) (on : Bool) :
    Scheduler × Except Fault Unit :=
  if on then
    match scheduler.registry.activate id with
    | .error fault => (scheduler, .error fault)
    | .ok registry => ({ scheduler with registry }.resolveWindow id, .ok ())
  else ({ scheduler with registry := scheduler.registry.deactivate id }, .ok ())

/-- A command to the scheduler as a whole switches it on or off and may delete every window. -/
def applyToEngine (scheduler : Scheduler) (command : Command) : Scheduler :=
  let switched := if command.flags.enable then scheduler.enable else scheduler.disable
  if command.flags.delete then { switched with registry := .empty } else switched

/-- A command that updates a window patches its configuration. An incomplete configuration is
stored but not activated. -/
def applyUpdate (scheduler : Scheduler) (command : Command) : Scheduler × Except Fault Unit :=
  let current := (scheduler.registry.find? command.id).getD (.empty command.id)
  match command.applyTo current with
  | .error fault => (scheduler, .error fault)
  | .ok updated =>
      match scheduler.registry.replace updated with
      | .error fault => (scheduler, .error fault)
      | .ok registry =>
          let stored := { scheduler with registry }
          if updated.isValid then stored.switchWindow command.id command.flags.enable
          else
            ((stored.switchWindow command.id false).1,
              if command.flags.enable then .error (.windowIncomplete command.id) else .ok ())

/-- A command that does not update a window deletes it or switches it on or off. -/
def applyWithoutUpdate (scheduler : Scheduler) (command : Command) :
    Scheduler × Except Fault Unit :=
  match scheduler.registry.find? command.id with
  | none =>
      (scheduler, if command.flags.enable then .error (.windowNotFound command.id) else .ok ())
  | some _ =>
      if command.flags.delete then
        ({ scheduler with registry := scheduler.registry.delete command.id }, .ok ())
      else scheduler.switchWindow command.id command.flags.enable

def applyCommand (scheduler : Scheduler) (command : Command) : Scheduler × Except Fault Unit :=
  if firstInternalId ≤ command.id then (scheduler, .error (.idReserved command.id))
  else if command.id = engineId then (scheduler.applyToEngine command, .ok ())
  else if command.flags.update then scheduler.applyUpdate command
  else scheduler.applyWithoutUpdate command

/-- What follows every command. Active schedules are realigned and announced for a full burst. -/
def settleConfiguration (scheduler : Scheduler) : Scheduler :=
  if scheduler.registry.periodic.isEmpty then
    { scheduler with everyBeacon := scheduler.registry.anyPlainSpreading }
  else
    { scheduler with
      registry := scheduler.registry.realign
      burst := scheduler.fullBurst
      everyBeacon := true }

def commandNotices (id : WindowId) : Except Fault Unit → List Notice
  | .ok () => []
  | .error (.windowNotFound missing) =>
      [.enableWithoutWindow missing, .commandFailed id (.windowNotFound missing)]
  | .error fault => [.commandFailed id fault]

/-- Process a command. A pass is asked for whether or not the command succeeds. -/
def processCommand (scheduler : Scheduler) (command : Command) : Outcome (Except Fault Unit) :=
  let (applied, result) := scheduler.applyCommand command
  { scheduler := (applied.settleConfiguration.triggerUpdate false).1
    answer := result
    notices := commandNotices command.id result }

end RestrictedAccess.Scheduler
