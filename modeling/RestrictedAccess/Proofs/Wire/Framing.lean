/-
Inputs that are cut into frames. A reader takes the first frame off its input and turns it into a
value. Reading on until nothing is left succeeds with the sequences of whole frames and with no
other input, and what follows such a sequence is read as if it stood alone.
-/

import RestrictedAccess.Wire.Bytes

namespace RestrictedAccess.Wire

variable {ε α φ : Type}

/-- A reader that succeeds exactly where a frame stands at the front of its input. -/
structure Framing (bytes : φ → List UInt8) (value : φ → α)
    (read : List UInt8 → Except ε (α × List UInt8)) : Prop where
  nonempty : ∀ frame, bytes frame ≠ []
  read_iff : ∀ {input found rest},
    read input = .ok (found, rest) ↔ ∃ frame, input = bytes frame ++ rest ∧ found = value frame

def ReadsOn (read : List UInt8 → Except ε (α × List UInt8))
    (readAll : List UInt8 → Except ε (List α)) : Prop :=
  ∀ input, readAll input =
    if input = [] then .ok []
    else
      match read input with
      | .error fault => .error fault
      | .ok (found, rest) => (readAll rest).map (fun values => found :: values)

namespace ReadsOn

variable {read : List UInt8 → Except ε (α × List UInt8)}
  {readAll : List UInt8 → Except ε (List α)}

theorem nil (readsOn : ReadsOn read readAll) : readAll [] = .ok [] := by
  rw [readsOn, if_pos rfl]

theorem failed (readsOn : ReadsOn read readAll) {input : List UInt8} {fault : ε}
    (occupied : input ≠ []) (failed : read input = .error fault) :
    readAll input = .error fault := by
  rw [readsOn, if_neg occupied, failed]

theorem next (readsOn : ReadsOn read readAll) {input rest : List UInt8} {found : α}
    (occupied : input ≠ []) (read : read input = .ok (found, rest)) :
    readAll input = (readAll rest).map (fun values => found :: values) := by
  rw [readsOn, if_neg occupied, read]

end ReadsOn

namespace Framing

variable {bytes : φ → List UInt8} {value : φ → α}
  {read : List UInt8 → Except ε (α × List UInt8)} {readAll : List UInt8 → Except ε (List α)}

theorem length_of_read (framing : Framing bytes value read) {input rest : List UInt8} {found : α}
    (result : read input = .ok (found, rest)) : rest.length < input.length := by
  rcases framing.read_iff.mp result with ⟨frame, same, _value⟩
  have taken := List.length_pos_iff.mpr (framing.nonempty frame)
  rw [same, List.length_append]
  omega

/-- Frames at the front are read, and what follows them is read as if it stood alone. -/
theorem readAll_append (framing : Framing bytes value read) (readsOn : ReadsOn read readAll)
    (frames : List φ) (more : List UInt8) :
    readAll (frames.flatMap bytes ++ more) =
      (readAll more).map (fun values => frames.map value ++ values) := by
  induction frames with
  | nil =>
      rw [List.flatMap_nil, List.nil_append]
      cases readAll more <;> rfl
  | cons frame rest ih =>
      rw [List.flatMap_cons, List.append_assoc]
      have occupied : bytes frame ++ (rest.flatMap bytes ++ more) ≠ [] := by
        intro empty
        exact framing.nonempty frame (List.append_eq_nil_iff.mp empty).1
      have first : read (bytes frame ++ (rest.flatMap bytes ++ more)) =
          .ok (value frame, rest.flatMap bytes ++ more) :=
        framing.read_iff.mpr ⟨frame, rfl, rfl⟩
      rw [readsOn.next occupied first, ih]
      cases readAll more <;> rfl

theorem readAll_frames (framing : Framing bytes value read) (readsOn : ReadsOn read readAll)
    (frames : List φ) : readAll (frames.flatMap bytes) = .ok (frames.map value) := by
  have alone := framing.readAll_append readsOn frames []
  rw [List.append_nil, readsOn.nil] at alone
  rw [alone]
  change Except.ok (frames.map value ++ []) = _
  rw [List.append_nil]

theorem exists_frames (framing : Framing bytes value read) (input : List UInt8) :
    ∃ (frames : List φ) (rest : List UInt8), input = frames.flatMap bytes ++ rest ∧
      (rest ≠ [] → ∃ fault, read rest = .error fault) := by
  -- Each frame that is read leaves a shorter input.
  induction length : input.length using Nat.strongRecOn generalizing input with
  | ind size ih =>
      cases result : read input with
      | error fault => exact ⟨[], input, rfl, fun _ => ⟨fault, result⟩⟩
      | ok pair =>
          rcases pair with ⟨found, rest⟩
          have shorter := framing.length_of_read result
          rcases framing.read_iff.mp result with ⟨frame, same, _value⟩
          rcases ih rest.length (by omega) rest rfl with ⟨frames, left, split, ends⟩
          refine ⟨frame :: frames, left, ?_, ends⟩
          rw [List.flatMap_cons, List.append_assoc, ← split]
          exact same

/-- Reading on succeeds exactly with sequences of whole frames. -/
theorem readAll_iff (framing : Framing bytes value read) (readsOn : ReadsOn read readAll)
    {input : List UInt8} {values : List α} :
    readAll input = .ok values ↔
      ∃ frames : List φ, input = frames.flatMap bytes ∧ values = frames.map value := by
  constructor
  · intro result
    rcases framing.exists_frames input with ⟨frames, rest, same, ends⟩
    by_cases empty : rest = []
    · rw [empty, List.append_nil] at same
      rw [same, framing.readAll_frames readsOn] at result
      exact ⟨frames, same, (Except.ok.inj result).symm⟩
    · rcases ends empty with ⟨fault, failed⟩
      rw [same, framing.readAll_append readsOn, readsOn.failed empty failed] at result
      contradiction
  · rintro ⟨frames, rfl, rfl⟩
    exact framing.readAll_frames readsOn frames

/-- Where reading on fails, it fails at a frame. -/
theorem error_of_readAll (framing : Framing bytes value read) (readsOn : ReadsOn read readAll)
    {input : List UInt8} {fault : ε} (result : readAll input = .error fault) :
    ∃ (frames : List φ) (rest : List UInt8), input = frames.flatMap bytes ++ rest ∧ rest ≠ [] ∧
      read rest = .error fault := by
  rcases framing.exists_frames input with ⟨frames, rest, same, ends⟩
  rw [same, framing.readAll_append readsOn] at result
  by_cases empty : rest = []
  · rw [empty, readsOn.nil] at result
    contradiction
  · rcases ends empty with ⟨other, failed⟩
    rw [readsOn.failed empty failed] at result
    have equal : other = fault := Except.error.inj result
    exact ⟨frames, rest, same, empty, equal ▸ failed⟩

end Framing

end RestrictedAccess.Wire
