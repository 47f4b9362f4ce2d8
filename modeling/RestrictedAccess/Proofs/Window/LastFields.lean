/-
The last field of each tag decides. Fields of one tag overwrite each other and fields of different
tags write different parts of a window, so what a command makes of a window can be read off the last
field of every tag. The order of fields with different tags does not matter, and a command that is
applied to its own result changes nothing.
-/

import Mathlib.Data.List.Induction
import RestrictedAccess.Proofs.Window.RepeatedPatches

namespace RestrictedAccess

/-! ### Acceptable fields -/

theorem WindowKind.ofCode?_eq_generic_iff (code : Nat) :
    ofCode? code = some .generic ↔ code = 0 := by
  refine ⟨fun read => ?_, fun zero => zero ▸ rfl⟩
  unfold ofCode? at read
  split at read
  · rfl
  all_goals cases read

namespace CommandField

def IsAcceptable : CommandField → Prop
  | slots _ count _ => 0 < count
  | kind code => code = 0
  | _ => True

theorem fault?_eq_none_iff (field : CommandField) :
    field.fault? = none ↔ field.IsAcceptable := by
  cases field with
  | slots windowDuration count crossesBoundary =>
      change (if count = 0 then some Fault.zeroSlots else none) = none ↔ 0 < count
      rw [UInt8.pos_iff_ne_zero, ite_eq_right_iff]
      exact imp_congr_right (fun _ => iff_of_false (Option.some_ne_none _) not_false)
  | kind code =>
      have generic : code = 0 ↔ WindowKind.ofCode? code.toNat = some .generic := by
        rw [WindowKind.ofCode?_eq_generic_iff, ← UInt8.toNat_inj]
        rfl
      change (kind code).fault? = none ↔ code = 0
      rw [generic]
      unfold fault?
      simp only
      cases WindowKind.ofCode? code.toNat with
      | none => exact iff_of_false (Option.some_ne_none _) (Option.some_ne_none _).symm
      | some asked => cases asked <;> simp [WindowKind.isSupported]
  | group startAid endAid => exact iff_of_true rfl trivial
  | startTime duration => exact iff_of_true rfl trivial
  | periodic periodicity validity startOffset refreshes => exact iff_of_true rfl trivial
  | spread maxSpread nominal => exact iff_of_true rfl trivial

instance (field : CommandField) : Decidable field.IsAcceptable :=
  decidable_of_iff _ field.fault?_eq_none_iff

end CommandField

namespace Command

theorem fault?_eq_none_iff (fields : List CommandField) :
    fault? fields = none ↔ ∀ field, field ∈ fields → field.IsAcceptable := by
  unfold fault?
  rw [List.findSome?_eq_none_iff]
  exact forall₂_congr (fun field _ => field.fault?_eq_none_iff)

/-! ### The last field of a tag -/

def last? (tag : FieldTag) (fields : List CommandField) : Option CommandField :=
  (fields.filter (fun field => field.tag = tag)).getLast?

theorem last?_concat (tag : FieldTag) (fields : List CommandField) (field : CommandField) :
    last? tag (fields ++ [field]) = if field.tag = tag then some field else last? tag fields := by
  unfold last?
  rw [List.filter_append]
  by_cases same : field.tag = tag
  · have single : [field].filter (fun listed => listed.tag = tag) = [field] :=
      List.filter_cons_of_pos (decide_eq_true same)
    rw [single, List.getLast?_concat, if_pos same]
  · have none : [field].filter (fun listed => listed.tag = tag) = [] :=
      List.filter_cons_of_neg (fun equal => same (of_decide_eq_true equal))
    rw [none, List.append_nil, if_neg same]

/-- The window that fields make of another one, part by part. What no field configures stays. -/
def decided (fields : List CommandField) (window : WindowConfig) : WindowConfig where
  id := window.id
  kind := .generic
  startAid :=
    match last? .group fields with
    | some (.group startAid _) => startAid
    | _ => window.startAid
  endAid :=
    match last? .group fields with
    | some (.group _ endAid) => endAid
    | _ => window.endAid
  indices := if (last? .group fields).isSome then ⟨-1, -1⟩ else window.indices
  startTime :=
    match last? .startTime fields with
    | some (.startTime duration) => duration
    | _ => window.startTime
  slot :=
    match last? .slots fields with
    | some (.slots windowDuration count crossesBoundary) =>
        ⟨count, windowDuration / count.toUInt32, crossesBoundary⟩
    | _ => window.slot
  periodic :=
    match last? .periodic fields with
    | some (.periodic periodicity validity startOffset refreshes) =>
        if periodicity = 0 then none
        else
          some
            { periodicity, validity, startOffset, refreshes
              validityLeft := validity
              offsetLeft := startOffset }
    | _ => window.periodic
  spreading :=
    match last? .spread fields with
    | some (.spread maxSpread nominal) => some { maxSpread, nominal, lastAid := 0 }
    | _ => window.spreading

theorem slotDuration_eq (windowDuration : UInt32) (count : UInt8) :
    UInt32.ofNat (windowDuration.toNat / count.toNat) = windowDuration / count.toUInt32 := by
  have small : windowDuration.toNat / count.toNat < 2 ^ 32 :=
    Nat.lt_of_le_of_lt (Nat.div_le_self _ _) windowDuration.toNat_lt
  rw [← UInt32.toNat_inj, UInt32.toNat_ofNat_of_lt' small, UInt32.toNat_div, UInt8.toNat_toUInt32]

theorem decided_concat (fields : List CommandField) (field : CommandField)
    (window : WindowConfig) :
    decided (fields ++ [field]) window = field.write (decided fields window) := by
  unfold decided
  simp only [last?_concat]
  cases field with
  | slots windowDuration count crossesBoundary =>
      simp [CommandField.tag, CommandField.write, slotDuration_eq]
  | _ =>
      simp [CommandField.tag, CommandField.write, PeriodicSchedule.new, Spreading.new,
        Station.IndexPair.unresolved]

theorem writeAll_eq_decided (fields : List CommandField) (window : WindowConfig) :
    writeAll fields { window with kind := .generic } = decided fields window := by
  induction fields using List.reverseRecOn with
  | nil => rfl
  | append_singleton earlier field ih =>
      rw [decided_concat, ← ih]
      exact List.foldl_append

/-- A command succeeds if all its fields are acceptable, and then makes of a window what the last
field of each tag says. -/
theorem applyTo_eq_ok_iff (command : Command) (window patched : WindowConfig) :
    command.applyTo window = .ok patched ↔
      (∀ field, field ∈ command.fields → field.IsAcceptable) ∧
        patched = decided command.fields window := by
  rw [applyTo_eq, writeAll_eq_decided, ← fault?_eq_none_iff]
  cases fault? command.fields with
  | some fault => exact iff_of_false (fun same => by cases same) (fun both => by cases both.1)
  | none =>
      change Except.ok _ = Except.ok patched ↔ _
      rw [Except.ok.injEq, eq_comm]
      exact (and_iff_right rfl).symm

/-! ### Order -/

/-- The same fields in another order, in which fields of one tag follow each other as before. -/
def ReorderedByTag (fields other : List CommandField) : Prop :=
  ∀ tag, other.filter (fun field => field.tag = tag) = fields.filter (fun field => field.tag = tag)

theorem ReorderedByTag.mem_iff {fields other : List CommandField}
    (reordered : ReorderedByTag fields other) (field : CommandField) :
    field ∈ other ↔ field ∈ fields := by
  have among (fields : List CommandField) :
      field ∈ fields.filter (fun listed => listed.tag = field.tag) ↔ field ∈ fields := by
    rw [List.mem_filter, decide_eq_true_iff]
    exact and_iff_left rfl
  rw [← among other, ← among fields, reordered field.tag]

theorem ReorderedByTag.decided_eq {fields other : List CommandField}
    (reordered : ReorderedByTag fields other) (window : WindowConfig) :
    decided other window = decided fields window := by
  have last (tag : FieldTag) : last? tag other = last? tag fields :=
    congrArg List.getLast? (reordered tag)
  unfold decided
  simp only [last]

theorem applyTo_again {command : Command} {window patched : WindowConfig}
    (applied : command.applyTo window = .ok patched) : command.applyTo patched = .ok patched := by
  rw [applyTo_eq_writes] at applied ⊢
  cases faulty : fault? command.fields with
  | some fault =>
      rw [faulty] at applied
      cases applied
  | none =>
      rw [faulty] at applied
      cases applied
      exact congrArg Except.ok (command.writeAll_writes_again window)

/-- A command is refused as a whole or does what the last field of each tag says, in any order of
its tags, and a second application finds nothing left to change. -/
theorem last_field_of_each_tag_decides (command : Command) (window : WindowConfig) :
    (∀ patched, command.applyTo window = .ok patched ↔
        (∀ field, field ∈ command.fields → field.IsAcceptable) ∧
          patched = decided command.fields window) ∧
      (∀ other : Command, ReorderedByTag command.fields other.fields → ∀ patched,
        other.applyTo window = .ok patched ↔ command.applyTo window = .ok patched) ∧
      (∀ patched, command.applyTo window = .ok patched →
        command.applyTo patched = .ok patched) := by
  refine ⟨command.applyTo_eq_ok_iff window, ?_, fun patched => applyTo_again⟩
  intro other reordered patched
  rw [applyTo_eq_ok_iff, applyTo_eq_ok_iff, reordered.decided_eq]
  exact and_congr_left (fun _ =>
    forall_congr' (fun field => imp_congr_left (reordered.mem_iff field)))

def midRunWindow : WindowConfig :=
  { id := 7
    kind := .generic
    startAid := 1
    endAid := 40
    indices := ⟨0, 12⟩
    startTime := 1000
    slot := ⟨2, 2000, false⟩
    periodic := some ⟨4, 3, 1, 2, 3, true⟩
    spreading := some ⟨0, 5, 23⟩ }

/-- Two ranges, two schedules and two start times, of which the later ones count. -/
def conflictingCommand : Command :=
  { id := 7
    flags := ⟨false, false, true⟩
    fields := [.group 5 9, .periodic 6 2 1 false, .startTime 50, .slots 4000 3 true, .group 2 3,
      .kind 0, .periodic 0 9 9 true, .spread 0 5, .startTime 700] }

def shuffledCommand : Command :=
  { conflictingCommand with
    fields := [.startTime 50, .spread 0 5, .startTime 700, .group 5 9, .group 2 3,
      .periodic 6 2 1 false, .kind 0, .slots 4000 3 true, .periodic 0 9 9 true] }

/-- The later schedule has no periodicity, so the window becomes plain, and its spreading starts over
although it is configured as before. -/
theorem last_field_of_each_tag_decides_amid_conflicts :
    ReorderedByTag conflictingCommand.fields shuffledCommand.fields ∧
      ∃ patched : WindowConfig, patched =
          { id := 7
            kind := .generic
            startAid := 2
            endAid := 3
            indices := .unresolved
            startTime := 700
            slot := ⟨3, 1333, true⟩
            periodic := none
            spreading := some ⟨0, 5, 0⟩ } ∧
        conflictingCommand.applyTo midRunWindow = .ok patched ∧
        shuffledCommand.applyTo midRunWindow = .ok patched ∧
        conflictingCommand.applyTo patched = .ok patched := by
  have reordered : ReorderedByTag conflictingCommand.fields shuffledCommand.fields := by
    intro tag
    cases tag <;> rfl
  obtain ⟨outcome, order, again⟩ :=
    last_field_of_each_tag_decides conflictingCommand midRunWindow
  refine ⟨reordered, _, rfl, ?_⟩
  have applied := (outcome _).mpr ⟨by decide, rfl⟩
  exact ⟨applied, (order shuffledCommand reordered _).mpr applied, again _ applied⟩

end Command

end RestrictedAccess
