/-
Patches as writes. Whether a field of a command is acceptable does not depend on the window it is
applied to, and an acceptable field only writes configured values, resetting the running state that
belongs to them. So applying a command is a check of its fields followed by writes, and the writes
commute with changes of running state.
-/

import RestrictedAccess.Command
import RestrictedAccess.Proofs.Registry.RunningState

namespace RestrictedAccess

open Station

/-! ### Fields -/

namespace CommandField

def fault? : CommandField → Option Fault
  | slots _ count _ => if count = 0 then some .zeroSlots else none
  | kind code =>
      match WindowKind.ofCode? code.toNat with
      | none => some (.windowKindUnknown code)
      | some asked => if asked.isSupported then none else some (.windowKindRefused asked)
  | _ => none

/-- What an acceptable field writes. The only kind it can ask for is the generic one. -/
def write (field : CommandField) (window : WindowConfig) : WindowConfig :=
  match field with
  | slots windowDuration count crossesBoundary =>
      { window with
        slot := ⟨count, UInt32.ofNat (windowDuration.toNat / count.toNat), crossesBoundary⟩ }
  | group startAid endAid => { window with startAid, endAid, indices := .unresolved }
  | startTime duration => { window with startTime := duration }
  | periodic periodicity validity startOffset refreshes =>
      { window with
        periodic :=
          if periodicity = 0 then none
          else some (PeriodicSchedule.new periodicity validity startOffset refreshes) }
  | spread maxSpread nominal =>
      { window with spreading := some (Spreading.new maxSpread nominal) }
  | kind _ => { window with kind := .generic }

theorem applyTo_eq (field : CommandField) (window : WindowConfig) :
    field.applyTo window = field.fault?.elim (.ok (field.write window)) .error := by
  cases field with
  | slots windowDuration count crossesBoundary =>
      simp only [applyTo, fault?]
      split <;> rfl
  | periodic periodicity validity startOffset refreshes =>
      simp only [applyTo, fault?, write]
      split <;> rfl
  | kind code =>
      simp only [applyTo, fault?]
      cases WindowKind.ofCode? code.toNat with
      | none => rfl
      | some asked => cases asked <;> rfl
  | group startAid endAid => rfl
  | startTime duration => rfl
  | spread maxSpread nominal => rfl

end CommandField

/-! ### Commands -/

namespace Command

def fault? (fields : List CommandField) : Option Fault :=
  fields.findSome? CommandField.fault?

def writeAll (fields : List CommandField) (window : WindowConfig) : WindowConfig :=
  fields.foldl (fun current field => field.write current) window

theorem patch_eq (fields : List CommandField) (window : WindowConfig) :
    patch fields window = (fault? fields).elim (.ok (writeAll fields window)) .error := by
  induction fields generalizing window with
  | nil => rfl
  | cons field rest ih =>
      unfold patch fault?
      rw [CommandField.applyTo_eq, List.findSome?_cons]
      cases field.fault? with
      | some fault => rfl
      | none => exact ih (field.write window)

theorem applyTo_eq (command : Command) (window : WindowConfig) :
    command.applyTo window =
      (fault? command.fields).elim
        (.ok (writeAll command.fields { window with kind := .generic })) .error :=
  patch_eq command.fields { window with kind := .generic }

end Command

/-! ### Running state -/

namespace WindowConfig

/-- What commands configured of a window: all but its running state and its cached slice. -/
def configuration (window : WindowConfig) : WindowConfig :=
  { window.resting with indices := .unresolved }

theorem configuration_of_resting {earlier later : WindowConfig}
    (same : later.resting = earlier.resting) : later.configuration = earlier.configuration := by
  unfold configuration
  rw [same]

theorem configuration_resolveIndices (aids : AidList) (window : WindowConfig) :
    (window.resolveIndices aids).configuration = window.configuration := by
  unfold resolveIndices
  split <;> rfl

end WindowConfig

namespace CommandField

theorem write_realigned (field : CommandField) (window : WindowConfig) :
    field.write window.realigned = (field.write window).realigned := by
  cases field with
  | periodic periodicity validity startOffset refreshes =>
      simp only [write, WindowConfig.realigned]
      split <;> rfl
  | _ => rfl

theorem write_configuration (field : CommandField) (window : WindowConfig) :
    field.write window.configuration = (field.write window).configuration := by
  cases field with
  | periodic periodicity validity startOffset refreshes =>
      simp only [write, WindowConfig.configuration, WindowConfig.resting]
      split <;> rfl
  | _ => rfl

end CommandField

namespace Command

/-- Writes commute with what each of them commutes with. -/
theorem writeAll_change {change : WindowConfig → WindowConfig}
    (each : ∀ (field : CommandField) window, field.write (change window) =
      change (field.write window))
    (fields : List CommandField) (window : WindowConfig) :
    writeAll fields (change window) = change (writeAll fields window) := by
  unfold writeAll
  induction fields generalizing window with
  | nil => rfl
  | cons field rest ih =>
      rw [List.foldl_cons, List.foldl_cons, each]
      exact ih (field.write window)

/-- A command patches a realigned window as it patches the window. -/
theorem applyTo_realigned (command : Command) (window : WindowConfig) :
    command.applyTo window.realigned = (command.applyTo window).map WindowConfig.realigned := by
  have writes := writeAll_change CommandField.write_realigned command.fields
    { window with kind := .generic }
  rw [applyTo_eq, applyTo_eq]
  cases fault? command.fields with
  | some fault => rfl
  | none => exact congrArg Except.ok writes

end Command

namespace WindowConfig

theorem realigned_realigned (window : WindowConfig) :
    window.realigned.realigned = window.realigned := by
  unfold realigned
  simp only [Option.map_map]
  rfl

theorem isPeriodic_realigned (window : WindowConfig) :
    window.realigned.isPeriodic = window.isPeriodic :=
  isPeriodic_of_resting window.resting_realigned

theorem isValid_realigned (window : WindowConfig) :
    window.realigned.isValid = window.isValid := by
  rw [← isValid_resting window.realigned, resting_realigned, isValid_resting]

theorem resolveIndices_realigned (aids : AidList) (window : WindowConfig) :
    window.realigned.resolveIndices aids = (window.resolveIndices aids).realigned := by
  have spread : window.realigned.usesSpreading = window.usesSpreading := rfl
  unfold resolveIndices
  rw [spread]
  split <;> rfl

theorem realigned_of_plain {window : WindowConfig} (plain : window.isPeriodic = false) :
    window.realigned = window := by
  have unscheduled : window.periodic = none := by
    cases scheduled : window.periodic with
    | none => rfl
    | some schedule =>
        unfold isPeriodic at plain
        rw [scheduled] at plain
        cases plain
  rcases window with ⟨id, kind, startAid, endAid, indices, startTime, slot, periodic, spreading⟩
  subst unscheduled
  rfl

end WindowConfig

end RestrictedAccess
