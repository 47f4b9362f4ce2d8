/-
One assignment of the parameter set element. A control byte announces the kind and which optional
parts follow the slot definition; the parts come in a fixed order. The parts of an assignment are
the chunks in which it is written, so its length and its bytes have one source.
-/

import RestrictedAccess.Window.Spread
import RestrictedAccess.Wire.Buffer

namespace RestrictedAccess

open Wire

/-- The length of one start time unit in microseconds. -/
def startTimeUnit : Nat := 2048

/-- Identifiers are announced modulo this number. -/
def announcedAids : Nat := 2048

/-- Whole start time units, at most what one byte can hold. -/
def startTimeUnits (duration : UInt32) : UInt8 :=
  UInt8.ofNat (min (duration.toNat / startTimeUnit) 255)

def startTimeNotices (duration : UInt32) : List Notice :=
  if 255 < duration.toNat / startTimeUnit then [.startTimeCapped duration.toNat] else []

structure AnnouncedSchedule where
  periodicity : UInt8
  validity : UInt8
  startOffset : UInt8
  deriving DecidableEq

structure Assignment where
  kind : WindowKind
  slot : SlotDefinition
  /-- The start of the window in units of 2048 us. -/
  startTime : Option UInt8
  group : Option AidRange
  /-- Channel indication. It is read and written but never generated. -/
  channel : Option UInt16
  periodic : Option AnnouncedSchedule
  deriving DecidableEq

namespace Assignment

def ofWindow (window : WindowConfig) (range : AidRange) : Assignment :=
  { kind := window.kind
    slot := window.slot
    startTime := if window.startTime = 0 then none else some (startTimeUnits window.startTime)
    group := some range
    channel := none
    periodic := window.periodic.map (fun schedule =>
      ⟨schedule.periodicity, schedule.validityLeft, schedule.offsetLeft⟩) }

/-- The control byte as a number. Bits 2 and 3 are reserved and clear. -/
def controlValue (assignment : Assignment) : Nat :=
  assignment.kind.code + 16 * assignment.startTime.isSome.toNat
    + 32 * assignment.group.isSome.toNat + 64 * assignment.channel.isSome.toNat
    + 128 * assignment.periodic.isSome.toNat

/-- A range as a number of 24 bits. The two low bits select a page and are clear. -/
def groupValue (range : AidRange) : Nat :=
  4 * (range.first.toNat % announcedAids) + 8192 * (range.last.toNat % announcedAids)

def ofGroupValue (value : Nat) : AidRange :=
  ⟨UInt16.ofNat (value / 4 % announcedAids), UInt16.ofNat (value / 8192 % announcedAids)⟩

def chunks (assignment : Assignment) : List (List UInt8) :=
  [[UInt8.ofNat assignment.controlValue], littleEndian 2 assignment.slot.encode.toNat]
    ++ (match assignment.startTime with
        | some units => [[units]]
        | none => [])
    ++ (match assignment.group with
        | some range => [littleEndian 3 (groupValue range)]
        | none => [])
    ++ (match assignment.channel with
        | some channel => [littleEndian 2 channel.toNat]
        | none => [])
    ++ (match assignment.periodic with
        | some schedule =>
            [[schedule.periodicity], [schedule.validity], [schedule.startOffset]]
        | none => [])

def size (assignment : Assignment) : Nat :=
  3 + assignment.startTime.isSome.toNat + 3 * assignment.group.isSome.toNat
    + 2 * assignment.channel.isSome.toNat + 3 * assignment.periodic.isSome.toNat

def write (assignment : Assignment) (buffer : Buffer) : Except Fault Buffer :=
  buffer.appendAll assignment.chunks

/-- The notices of writing the assignment. The slot definition is encoded once the control byte is
written, whether or not there is room for it. -/
def writeNotices (assignment : Assignment) (buffer : Buffer) : List Notice :=
  if 0 < buffer.remaining then assignment.slot.encodeNotices else []

/-- Input that ends inside a part, with the bytes the part needs and the bytes left. -/
structure Shortage where
  needed : Nat
  available : Nat
  deriving DecidableEq

def readNumber (width : Nat) (bytes : List UInt8) : Except Shortage (Nat × List UInt8) :=
  match take? width bytes with
  | some (part, rest) => .ok (ofLittleEndian part, rest)
  | none => .error ⟨width, bytes.length⟩

def readPart {α : Type} (announced : Bool)
    (read : List UInt8 → Except Shortage (α × List UInt8)) (bytes : List UInt8) :
    Except Shortage (Option α × List UInt8) :=
  if announced then
    match read bytes with
    | .ok (part, rest) => .ok (some part, rest)
    | .error shortage => .error shortage
  else .ok (none, bytes)

def readStartTime (bytes : List UInt8) : Except Shortage (UInt8 × List UInt8) := do
  let (units, rest) ← readNumber 1 bytes
  return (UInt8.ofNat units, rest)

def readGroup (bytes : List UInt8) : Except Shortage (AidRange × List UInt8) := do
  let (value, rest) ← readNumber 3 bytes
  return (ofGroupValue value, rest)

def readChannel (bytes : List UInt8) : Except Shortage (UInt16 × List UInt8) := do
  let (channel, rest) ← readNumber 2 bytes
  return (UInt16.ofNat channel, rest)

def readSchedule (bytes : List UInt8) : Except Shortage (AnnouncedSchedule × List UInt8) := do
  let (periodicity, rest) ← readNumber 1 bytes
  let (validity, rest) ← readNumber 1 rest
  let (startOffset, rest) ← readNumber 1 rest
  return (⟨UInt8.ofNat periodicity, UInt8.ofNat validity, UInt8.ofNat startOffset⟩, rest)

def controlKind (control : Nat) : WindowKind :=
  match control % 4 with
  | 0 => .generic
  | 1 => .sounding
  | 2 => .simplex
  | _ => .triggering

def read (bytes : List UInt8) : Except Shortage (Assignment × List UInt8) := do
  let (control, rest) ← readNumber 1 bytes
  let (field, rest) ← readNumber 2 rest
  let (startTime, rest) ← readPart (control.testBit 4) readStartTime rest
  let (group, rest) ← readPart (control.testBit 5) readGroup rest
  let (channel, rest) ← readPart (control.testBit 6) readChannel rest
  let (periodic, rest) ← readPart (control.testBit 7) readSchedule rest
  return (
    { kind := controlKind control
      slot := SlotDefinition.decode (UInt16.ofNat field)
      startTime, group, channel, periodic }, rest)

/-! ### Reading consumes input -/

theorem length_of_readNumber {width value : Nat} {bytes rest : List UInt8}
    (found : readNumber width bytes = .ok (value, rest)) :
    rest.length + width = bytes.length := by
  simp only [readNumber, take?] at found
  split at found
  · rename_i split
    split at split
    · simp only [Option.some.injEq, Prod.mk.injEq] at split
      simp only [Except.ok.injEq, Prod.mk.injEq] at found
      rw [← found.2, ← split.2, List.length_drop]
      omega
    · cases split
  · cases found

theorem length_of_readPart {α : Type} {announced : Bool}
    {read : List UInt8 → Except Shortage (α × List UInt8)} {bytes rest : List UInt8}
    {part : Option α}
    (shrinks : ∀ {value : α} {left : List UInt8},
      read bytes = .ok (value, left) → left.length ≤ bytes.length)
    (found : readPart announced read bytes = .ok (part, rest)) : rest.length ≤ bytes.length := by
  simp only [readPart] at found
  split at found
  · split at found
    · rename_i _ value left result
      simp only [Except.ok.injEq, Prod.mk.injEq] at found
      rw [← found.2]
      exact shrinks result
    · cases found
  · simp only [Except.ok.injEq, Prod.mk.injEq] at found
    exact Nat.le_of_eq (congrArg List.length found.2.symm)

/-- A step that reads a value and hands it on consumed what the value took. -/
theorem length_of_bind {α β : Type} {first : Except Shortage (α × List UInt8)}
    {next : α × List UInt8 → Except Shortage (β × List UInt8)} {value : β} {rest : List UInt8}
    {bound : Nat} (found : first >>= next = .ok (value, rest))
    (decreasing : ∀ {part : α} {left : List UInt8}, first = .ok (part, left) →
      next (part, left) = .ok (value, rest) → rest.length ≤ bound) : rest.length ≤ bound := by
  cases result : first with
  | error shortage =>
      rw [result] at found
      cases found
  | ok pair =>
      rw [result] at found
      exact decreasing result found

theorem length_of_readStartTime {bytes rest : List UInt8} {units : UInt8}
    (found : readStartTime bytes = .ok (units, rest)) : rest.length ≤ bytes.length := by
  refine length_of_bind found ?_
  intro part left result last
  have consumed := length_of_readNumber result
  cases last
  omega

theorem length_of_readGroup {bytes rest : List UInt8} {range : AidRange}
    (found : readGroup bytes = .ok (range, rest)) : rest.length ≤ bytes.length := by
  refine length_of_bind found ?_
  intro part left result last
  have consumed := length_of_readNumber result
  cases last
  omega

theorem length_of_readChannel {bytes rest : List UInt8} {channel : UInt16}
    (found : readChannel bytes = .ok (channel, rest)) : rest.length ≤ bytes.length := by
  refine length_of_bind found ?_
  intro part left result last
  have consumed := length_of_readNumber result
  cases last
  omega

theorem length_of_readSchedule {bytes rest : List UInt8} {schedule : AnnouncedSchedule}
    (found : readSchedule bytes = .ok (schedule, rest)) : rest.length ≤ bytes.length := by
  refine length_of_bind found ?_
  intro _ left first next
  have consumedFirst := length_of_readNumber first
  refine length_of_bind next ?_
  intro _ left second next
  have consumedSecond := length_of_readNumber second
  refine length_of_bind next ?_
  intro _ left third last
  have consumedThird := length_of_readNumber third
  cases last
  omega

/-- Reading an assignment consumes at least the control byte and the slot definition. -/
theorem length_of_read {bytes rest : List UInt8} {assignment : Assignment}
    (found : read bytes = .ok (assignment, rest)) : rest.length + 3 ≤ bytes.length := by
  have bounded : rest.length ≤ bytes.length - 3 ∧ 3 ≤ bytes.length := by
    cases control : readNumber 1 bytes with
    | error shortage =>
        simp only [read, control] at found
        cases found
    | ok pair =>
        obtain ⟨value, afterControl⟩ := pair
        cases field : readNumber 2 afterControl with
        | error shortage =>
            simp only [read, control, bind, Except.bind, field] at found
            cases found
        | ok pair =>
            obtain ⟨slot, afterField⟩ := pair
            have consumedControl := length_of_readNumber control
            have consumedField := length_of_readNumber field
            refine ⟨?_, by omega⟩
            simp only [read, control, bind, Except.bind, field] at found
            have step : rest.length ≤ afterField.length := by
              refine length_of_bind found ?_
              intro _ afterStart start next
              have shrinkStart := length_of_readPart length_of_readStartTime start
              refine length_of_bind next ?_
              intro _ afterGroup group next
              have shrinkGroup := length_of_readPart length_of_readGroup group
              refine length_of_bind next ?_
              intro _ afterChannel channel next
              have shrinkChannel := length_of_readPart length_of_readChannel channel
              refine length_of_bind next ?_
              intro _ afterSchedule schedule last
              have shrinkSchedule := length_of_readPart length_of_readSchedule schedule
              cases last
              simp only at shrinkStart shrinkGroup shrinkChannel shrinkSchedule ⊢
              omega
            omega
  omega

end Assignment

end RestrictedAccess
