/-
Protection of off-channel scans. While the access point listens on another channel, an internal
window with a single long slot keeps one station silent. Its identifier is out of the reach of
commands.
-/

import RestrictedAccess.Scheduler

namespace RestrictedAccess

def protectionId : WindowId := firstInternalId + 1

/-- The duration of the protection window's slot in microseconds. -/
def protectionDuration : UInt32 := 32767

def protectionWindow (aid : Aid) : WindowConfig :=
  .generic protectionId aid aid ⟨1, protectionDuration, false⟩

namespace Scheduler

/-- Activate the protection window for a station and enable the scheduler. The window is written
anew unless it already protects that station. -/
def installProtection (scheduler : Scheduler) (aid : Aid) : Scheduler × Except Fault Bool :=
  match scheduler.registry.findOrCreate protectionId with
  | .error fault => (scheduler, .error fault)
  | .ok (registry, window) =>
      let stored :=
        if window.slot.duration ≠ protectionDuration ∨ window.startAid ≠ aid then
          registry.put protectionId (protectionWindow aid)
        else registry
      match stored.activate protectionId with
      | .error fault => ({ scheduler with registry := stored }, .error fault)
      | .ok active =>
          let (next, needed) := { scheduler with registry := active }.enable.triggerUpdate false
          (next, .ok needed)

def removeProtection (scheduler : Scheduler) : Scheduler × Bool :=
  { scheduler with
    registry := scheduler.registry.deactivate protectionId }.triggerUpdate false

def isProtected (scheduler : Scheduler) : Bool :=
  protectionId ∈ scheduler.registry.plain

end Scheduler

end RestrictedAccess
