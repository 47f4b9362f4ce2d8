/-
Patches that are written twice. A field overwrites what an earlier field of its tag wrote and does
not touch what any other field writes, so of the fields with one tag only the last one counts, and a
command written over its own result changes nothing. Resolving the range in between does not matter
either, since the slice that a spread window caches is decided by its range.
-/

import RestrictedAccess.Proofs.Window.Patches

namespace RestrictedAccess

open Station

/-! ### Fields -/

namespace CommandField

/-- A field overwrites what a field of the same tag wrote. -/
theorem write_write_of_tag {first second : CommandField} (same : first.tag = second.tag)
    (window : WindowConfig) : second.write (first.write window) = second.write window := by
  cases first with
  | slots windowDuration count crossesBoundary =>
      cases second with
      | slots _ _ _ => rfl
      | _ => cases same
  | group startAid endAid =>
      cases second with
      | group _ _ => rfl
      | _ => cases same
  | startTime duration =>
      cases second with
      | startTime _ => rfl
      | _ => cases same
  | periodic periodicity validity startOffset refreshes =>
      cases second with
      | periodic _ _ _ _ => rfl
      | _ => cases same
  | spread maxSpread nominal =>
      cases second with
      | spread _ _ => rfl
      | _ => cases same
  | kind code =>
      cases second with
      | kind _ => rfl
      | _ => cases same

/-- Fields of different tags write different parts of a window. -/
theorem write_comm {first second : CommandField} (different : first.tag ≠ second.tag)
    (window : WindowConfig) :
    second.write (first.write window) = first.write (second.write window) := by
  cases first with
  | slots windowDuration count crossesBoundary =>
      cases second with
      | slots _ _ _ => exact absurd rfl different
      | _ => rfl
  | group startAid endAid =>
      cases second with
      | group _ _ => exact absurd rfl different
      | _ => rfl
  | startTime duration =>
      cases second with
      | startTime _ => exact absurd rfl different
      | _ => rfl
  | periodic periodicity validity startOffset refreshes =>
      cases second with
      | periodic _ _ _ _ => exact absurd rfl different
      | _ => rfl
  | spread maxSpread nominal =>
      cases second with
      | spread _ _ => exact absurd rfl different
      | _ => rfl
  | kind code =>
      cases second with
      | kind _ => exact absurd rfl different
      | _ => rfl

end CommandField

/-! ### Lists of fields -/

namespace Command

/-- What a field wrote does not matter if a field of its tag is still to come. -/
theorem writeAll_write {field : CommandField} {fields : List CommandField}
    (overwritten : field.tag ∈ fields.map CommandField.tag) (window : WindowConfig) :
    writeAll fields (field.write window) = writeAll fields window := by
  induction fields generalizing window with
  | nil => cases overwritten
  | cons head rest ih =>
      unfold writeAll
      rw [List.foldl_cons, List.foldl_cons]
      by_cases same : field.tag = head.tag
      · rw [CommandField.write_write_of_tag same]
      · rw [CommandField.write_comm same]
        have later : field.tag ∈ rest.map CommandField.tag :=
          (List.mem_cons.mp overwritten).resolve_left same
        exact ih later (head.write window)

theorem writeAll_writeAll {earlier later : List CommandField}
    (overwritten : ∀ field, field ∈ earlier → field.tag ∈ later.map CommandField.tag)
    (window : WindowConfig) :
    writeAll later (writeAll earlier window) = writeAll later window := by
  induction earlier generalizing window with
  | nil => rfl
  | cons field rest ih =>
      have restOverwritten (other : CommandField) (member : other ∈ rest) :
          other.tag ∈ later.map CommandField.tag :=
        overwritten other (List.mem_cons_of_mem field member)
      have head := writeAll_write (overwritten field List.mem_cons_self) window
      exact (ih restOverwritten (field.write window)).trans head

/-- All that a command writes. Its kind starts over before its fields are written. -/
def writes (command : Command) : List CommandField :=
  .kind 0 :: command.fields

theorem applyTo_eq_writes (command : Command) (window : WindowConfig) :
    command.applyTo window =
      (fault? command.fields).elim (.ok (writeAll command.writes window)) .error :=
  command.applyTo_eq window

/-- Writing a command over its own result changes nothing. -/
theorem writeAll_writes_again (command : Command) (window : WindowConfig) :
    writeAll command.writes (writeAll command.writes window) = writeAll command.writes window :=
  writeAll_writeAll (fun _ member => List.mem_map_of_mem member) window

end Command

/-! ### Cached slices -/

namespace WindowConfig

def unresolved (window : WindowConfig) : WindowConfig :=
  { window with indices := .unresolved }

section Unresolved

variable {one other : WindowConfig}

theorem unresolved_resolveIndices (aids : AidList) (window : WindowConfig) :
    (window.resolveIndices aids).unresolved = window.unresolved := by
  unfold resolveIndices
  split <;> rfl

theorem isValid_of_unresolved (same : one.unresolved = other.unresolved) :
    one.isValid = other.isValid := by
  have valid := congrArg isValid same
  exact valid

/-- The slice of a spread window is decided by its range, whatever slice it cached before. -/
theorem resolveIndices_of_unresolved (same : one.unresolved = other.unresolved)
    (spread : other.usesSpreading = true) (aids : AidList) :
    one.resolveIndices aids = other.resolveIndices aids := by
  have spreadToo : one.usesSpreading = true := by
    have spreadings := congrArg usesSpreading same
    exact Eq.trans spreadings spread
  have range : aids.resolve one.startAid one.endAid = aids.resolve other.startAid other.endAid :=
    congrArg (fun window => aids.resolve window.startAid window.endAid) same
  unfold resolveIndices
  rw [if_pos spreadToo, if_pos spread, range]
  exact congrArg
    (fun window => { window with indices := aids.resolve other.startAid other.endAid }) same

theorem resolveIndices_of_unspread {window : WindowConfig}
    (unspread : window.usesSpreading = false) (aids : AidList) :
    window.resolveIndices aids = window := by
  unfold resolveIndices
  rw [unspread]
  rfl

end Unresolved

end WindowConfig

namespace CommandField

theorem write_unresolved (field : CommandField) (window : WindowConfig) :
    field.write window.unresolved = (field.write window).unresolved := by
  cases field <;> rfl

end CommandField

namespace Command

section Fixed

variable {fields : List CommandField} {window : WindowConfig}
  (fixed : writeAll fields window = window) (aids : AidList)

include fixed

/-- Writes that do not change a window change at most the cached slice after it was resolved. -/
theorem unresolved_writeAll_of_fixed :
    (writeAll fields (window.resolveIndices aids)).unresolved = window.unresolved := by
  rw [← writeAll_change CommandField.write_unresolved, WindowConfig.unresolved_resolveIndices,
    writeAll_change CommandField.write_unresolved, fixed]

theorem resolveIndices_writeAll_of_fixed :
    (writeAll fields (window.resolveIndices aids)).resolveIndices aids =
      window.resolveIndices aids := by
  cases spread : window.usesSpreading with
  | false =>
      have kept := WindowConfig.resolveIndices_of_unspread spread aids
      rw [kept, fixed, kept]
  | true =>
      exact WindowConfig.resolveIndices_of_unresolved (unresolved_writeAll_of_fixed fixed aids)
        spread aids

end Fixed

end Command

end RestrictedAccess
