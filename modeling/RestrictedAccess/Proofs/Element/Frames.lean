/-
The bytes of assignments. A control byte announces which parts follow the slot definition, so the
input itself tells where an assignment ends. Reading succeeds exactly where all announced parts
are there, and a payload is read as the one sequence of assignments that it is cut into.
-/

import Mathlib.Data.List.Basic
import RestrictedAccess.Proofs.Element.SlotField
import RestrictedAccess.Proofs.Wire.Framing

namespace RestrictedAccess

open Wire

namespace Assignment

/-! ### Readers of a fixed width -/

theorem bind_ok_iff {ε α β : Type} {first : Except ε α} {next : α → Except ε β} {result : β} :
    first >>= next = .ok result ↔ ∃ value, first = .ok value ∧ next value = .ok result := by
  cases first with
  | error fault =>
      constructor
      · intro impossible
        cases impossible
      · rintro ⟨value, impossible, _result⟩
        cases impossible
  | ok value =>
      constructor
      · intro found
        exact ⟨value, rfl, found⟩
      · rintro ⟨other, same, found⟩
        cases same
        exact found

def TakesPart {α : Type} (width : Nat) (value : List UInt8 → α)
    (read : List UInt8 → Except Shortage (α × List UInt8)) : Prop :=
  ∀ input found rest, read input = .ok (found, rest) ↔
    ∃ part : List UInt8, part.length = width ∧ input = part ++ rest ∧ found = value part

theorem takesPart_readNumber (width : Nat) :
    TakesPart width ofLittleEndian (readNumber width) := by
  intro input found rest
  constructor
  · intro result
    unfold readNumber take? at result
    by_cases enough : width ≤ input.length
    · rw [if_pos enough] at result
      cases result
      exact ⟨input.take width, List.length_take_of_le enough, (List.take_append_drop _ _).symm, rfl⟩
    · rw [if_neg enough] at result
      cases result
  · rintro ⟨part, exactly, rfl, rfl⟩
    exact readNumber_append exactly rest

variable {α β : Type} {width : Nat} {value : List UInt8 → α}
  {read : List UInt8 → Except Shortage (α × List UInt8)}

theorem TakesPart.map (takes : TakesPart width value read) (change : α → β) :
    TakesPart width (fun part => change (value part))
      (fun input => do
        let (found, rest) ← read input
        return (change found, rest)) := by
  intro input found rest
  constructor
  · intro result
    rcases bind_ok_iff.mp result with ⟨⟨inner, left⟩, first, last⟩
    cases last
    rcases (takes input inner rest).mp first with ⟨part, exactly, same, rfl⟩
    exact ⟨part, exactly, same, rfl⟩
  · rintro ⟨part, exactly, same, rfl⟩
    exact bind_ok_iff.mpr ⟨(value part, rest),
      (takes input (value part) rest).mpr ⟨part, exactly, same, rfl⟩, rfl⟩

theorem TakesPart.readPart (takes : TakesPart width value read) (announced : Bool) :
    TakesPart (width * announced.toNat)
      (fun part => if announced then some (value part) else none)
      (readPart announced read) := by
  intro input found rest
  cases announced with
  | false =>
      constructor
      · intro result
        cases result
        exact ⟨[], rfl, rfl, rfl⟩
      · rintro ⟨part, exactly, rfl, rfl⟩
        rw [List.eq_nil_of_length_eq_zero exactly]
        rfl
  | true =>
      unfold Assignment.readPart
      simp only [if_true, Bool.toNat_true, Nat.mul_one]
      constructor
      · intro result
        cases inner : read input with
        | error shortage =>
            rw [inner] at result
            cases result
        | ok pair =>
            rw [inner] at result
            cases result
            rcases (takes input pair.1 pair.2).mp inner with ⟨part, exactly, same, made⟩
            exact ⟨part, exactly, same, congrArg some made⟩
      · rintro ⟨part, exactly, same, rfl⟩
        rw [(takes input (value part) rest).mpr ⟨part, exactly, same, rfl⟩]

theorem takesPart_readStartTime :
    TakesPart 1 (fun part => UInt8.ofNat (ofLittleEndian part)) readStartTime :=
  (takesPart_readNumber 1).map UInt8.ofNat

theorem takesPart_readGroup :
    TakesPart 3 (fun part => ofGroupValue (ofLittleEndian part)) readGroup :=
  (takesPart_readNumber 3).map ofGroupValue

theorem takesPart_readChannel :
    TakesPart 2 (fun part => UInt16.ofNat (ofLittleEndian part)) readChannel :=
  (takesPart_readNumber 2).map UInt16.ofNat

def scheduleOf (part : List UInt8) : AnnouncedSchedule :=
  ⟨part.getD 0 0, part.getD 1 0, part.getD 2 0⟩

theorem takesPart_readSchedule : TakesPart 3 scheduleOf readSchedule := by
  intro input found rest
  constructor
  · intro result
    rcases bind_ok_iff.mp result with ⟨⟨_, afterFirst⟩, first, result⟩
    rcases bind_ok_iff.mp result with ⟨⟨_, afterSecond⟩, second, result⟩
    rcases bind_ok_iff.mp result with ⟨⟨_, afterThird⟩, third, result⟩
    rcases (takesPart_readNumber 1 _ _ _).mp first with ⟨periodicity, one, rfl, rfl⟩
    rcases (takesPart_readNumber 1 _ _ _).mp second with ⟨validity, two, rfl, rfl⟩
    rcases (takesPart_readNumber 1 _ _ _).mp third with ⟨startOffset, three, rfl, rfl⟩
    rcases List.length_eq_one_iff.mp one with ⟨periodicity, rfl⟩
    rcases List.length_eq_one_iff.mp two with ⟨validity, rfl⟩
    rcases List.length_eq_one_iff.mp three with ⟨startOffset, rfl⟩
    cases result
    refine ⟨[periodicity, validity, startOffset], rfl, rfl, ?_⟩
    simp [scheduleOf, ofLittleEndian]
  · rintro ⟨part, exactly, rfl, rfl⟩
    rcases List.length_eq_three.mp exactly with ⟨periodicity, validity, startOffset, rfl⟩
    exact readSchedule_append ⟨periodicity, validity, startOffset⟩ rest

/-! ### Frames -/

/-- The bytes of one assignment, cut at the ends of the parts that its control byte announces. -/
structure Frame where
  control : UInt8
  slot : List UInt8
  startTime : List UInt8
  group : List UInt8
  channel : List UInt8
  periodic : List UInt8
  length_slot : slot.length = 2
  length_startTime : startTime.length = 1 * (control.toNat.testBit 4).toNat
  length_group : group.length = 3 * (control.toNat.testBit 5).toNat
  length_channel : channel.length = 2 * (control.toNat.testBit 6).toNat
  length_periodic : periodic.length = 3 * (control.toNat.testBit 7).toNat

namespace Frame

def bytes (frame : Frame) : List UInt8 :=
  frame.control :: (frame.slot ++ (frame.startTime ++ (frame.group ++
    (frame.channel ++ frame.periodic))))

def slotField (frame : Frame) : UInt16 :=
  UInt16.ofNat (ofLittleEndian frame.slot)

def assignment (frame : Frame) : Assignment :=
  { kind := controlKind frame.control.toNat
    slot := SlotDefinition.decode frame.slotField
    startTime := if frame.control.toNat.testBit 4 then
      some (UInt8.ofNat (ofLittleEndian frame.startTime)) else none
    group := if frame.control.toNat.testBit 5 then
      some (ofGroupValue (ofLittleEndian frame.group)) else none
    channel := if frame.control.toNat.testBit 6 then
      some (UInt16.ofNat (ofLittleEndian frame.channel)) else none
    periodic := if frame.control.toNat.testBit 7 then some (scheduleOf frame.periodic) else none }

end Frame

/-- Reading takes the bytes of a frame and leaves what follows them. -/
theorem read_frame_append (frame : Frame) (rest : List UInt8) :
    Assignment.read (frame.bytes ++ rest) = .ok (frame.assignment, rest) := by
  have control : readNumber 1 (frame.bytes ++ rest) = .ok (frame.control.toNat,
      frame.slot ++ (frame.startTime ++ (frame.group ++ (frame.channel ++
        (frame.periodic ++ rest))))) := by
    simp only [Frame.bytes, List.cons_append, List.append_assoc, readNumber_byte]
  have slot := fun left => (takesPart_readNumber 2 (frame.slot ++ left) _ left).mpr
    ⟨frame.slot, frame.length_slot, rfl, rfl⟩
  have startTime := fun left =>
    (takesPart_readStartTime.readPart _ (frame.startTime ++ left) _ left).mpr
      ⟨frame.startTime, frame.length_startTime, rfl, rfl⟩
  have group := fun left => (takesPart_readGroup.readPart _ (frame.group ++ left) _ left).mpr
    ⟨frame.group, frame.length_group, rfl, rfl⟩
  have channel := fun left =>
    (takesPart_readChannel.readPart _ (frame.channel ++ left) _ left).mpr
      ⟨frame.channel, frame.length_channel, rfl, rfl⟩
  have periodic := fun left =>
    (takesPart_readSchedule.readPart _ (frame.periodic ++ left) _ left).mpr
      ⟨frame.periodic, frame.length_periodic, rfl, rfl⟩
  unfold Assignment.read
  simp only [control, slot, startTime, group, channel, periodic, bind, Except.bind, pure,
    Except.pure, Frame.assignment, Frame.slotField]

/-- Where an assignment was read, all parts that its control byte announces were there. -/
theorem exists_frame_of_read {input rest : List UInt8} {found : Assignment}
    (result : Assignment.read input = .ok (found, rest)) :
    ∃ frame : Frame, input = frame.bytes ++ rest ∧ found = frame.assignment := by
  rcases bind_ok_iff.mp result with ⟨⟨_, _⟩, first, result⟩
  rcases bind_ok_iff.mp result with ⟨⟨_, _⟩, second, result⟩
  rcases bind_ok_iff.mp result with ⟨⟨_, _⟩, third, result⟩
  rcases bind_ok_iff.mp result with ⟨⟨_, _⟩, fourth, result⟩
  rcases bind_ok_iff.mp result with ⟨⟨_, _⟩, fifth, result⟩
  rcases bind_ok_iff.mp result with ⟨⟨_, _⟩, sixth, result⟩
  rcases (takesPart_readNumber 1 _ _ _).mp first with ⟨control, one, rfl, rfl⟩
  rcases List.length_eq_one_iff.mp one with ⟨control, rfl⟩
  have value : ofLittleEndian [control] = control.toNat := by simp [ofLittleEndian]
  rw [value] at third fourth fifth sixth result
  rcases (takesPart_readNumber 2 _ _ _).mp second with ⟨slot, length_slot, rfl, rfl⟩
  rcases (takesPart_readStartTime.readPart _ _ _ _).mp third with
    ⟨startTime, length_startTime, rfl, rfl⟩
  rcases (takesPart_readGroup.readPart _ _ _ _).mp fourth with
    ⟨group, length_group, rfl, rfl⟩
  rcases (takesPart_readChannel.readPart _ _ _ _).mp fifth with
    ⟨channel, length_channel, rfl, rfl⟩
  rcases (takesPart_readSchedule.readPart _ _ _ _).mp sixth with
    ⟨periodic, length_periodic, rfl, rfl⟩
  cases result
  refine ⟨⟨control, slot, startTime, group, channel, periodic, length_slot, length_startTime,
    length_group, length_channel, length_periodic⟩, ?_, rfl⟩
  simp only [Frame.bytes, List.cons_append, List.nil_append, List.append_assoc]

theorem framing : Framing Frame.bytes Frame.assignment Assignment.read where
  nonempty frame := List.cons_ne_nil _ _
  read_iff := by
    intro input found rest
    constructor
    · exact exists_frame_of_read
    · rintro ⟨frame, rfl, rfl⟩
      exact read_frame_append frame rest

end Assignment

namespace ParameterSet

theorem readsOn : ReadsOn Assignment.read readAll := by
  intro input
  rw [readAll]
  by_cases empty : input = []
  · rw [if_pos empty, if_pos empty]
  · rw [if_neg empty, if_neg empty]
    split
    · rename_i result
      rw [result]
    · rename_i rest result
      rw [result]
      change _ = (readAll rest).map _
      cases readAll rest <;> rfl

end ParameterSet

end RestrictedAccess
