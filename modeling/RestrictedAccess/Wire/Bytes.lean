/-
Little-endian numbers as lists of bytes. Every multi-byte value of the formats in this library is
written by one function and read by another, for any width; the lemmas at the end say that they
undo each other.
-/

namespace RestrictedAccess.Wire

def littleEndian : Nat → Nat → List UInt8
  | 0, _ => []
  | width + 1, value => UInt8.ofNat (value % 256) :: littleEndian width (value / 256)

def ofLittleEndian : List UInt8 → Nat
  | [] => 0
  | byte :: rest => byte.toNat + 256 * ofLittleEndian rest

/-- Split off the first bytes, or nothing when there are not enough of them. -/
def take? (size : Nat) (bytes : List UInt8) : Option (List UInt8 × List UInt8) :=
  if size ≤ bytes.length then some (bytes.take size, bytes.drop size) else none

@[simp] theorem length_littleEndian (width value : Nat) :
    (littleEndian width value).length = width := by
  induction width generalizing value with
  | zero => rfl
  | succ width ih => simp only [littleEndian, List.length_cons, ih]

/-- Reading what was written gives the number back, less the part that did not fit. -/
theorem ofLittleEndian_littleEndian (width value : Nat) :
    ofLittleEndian (littleEndian width value) = value % Nat.pow 256 width := by
  induction width generalizing value with
  | zero => simp [littleEndian, ofLittleEndian, Nat.mod_one]
  | succ width ih =>
      have low : (UInt8.ofNat (value % 256)).toNat = value % 256 :=
        UInt8.toNat_ofNat_of_lt' (Nat.mod_lt value (by decide))
      have power : Nat.pow 256 (width + 1) = 256 * Nat.pow 256 width := Nat.mul_comm _ _
      rw [littleEndian, ofLittleEndian, ih, low, power, Nat.mod_mul]

theorem littleEndian_ofLittleEndian (bytes : List UInt8) :
    littleEndian bytes.length (ofLittleEndian bytes) = bytes := by
  induction bytes with
  | nil => rfl
  | cons byte rest ih =>
      have small := byte.toNat_lt
      have low : (byte.toNat + 256 * ofLittleEndian rest) % 256 = byte.toNat := by omega
      have high : (byte.toNat + 256 * ofLittleEndian rest) / 256 = ofLittleEndian rest := by omega
      simp only [List.length_cons, littleEndian, ofLittleEndian, low, high, ih, UInt8.ofNat_toNat]

theorem ofLittleEndian_lt (bytes : List UInt8) :
    ofLittleEndian bytes < Nat.pow 256 bytes.length := by
  induction bytes with
  | nil => decide
  | cons byte rest ih =>
      have small := byte.toNat_lt
      have power : Nat.pow 256 (rest.length + 1) = 256 * Nat.pow 256 rest.length :=
        Nat.mul_comm _ _
      rw [ofLittleEndian, List.length_cons, power]
      omega

/-- Bytes are written for the number that they hold, and for no other number of their width. -/
theorem littleEndian_eq_iff {bytes : List UInt8} {value : Nat}
    (fits : value < Nat.pow 256 bytes.length) :
    littleEndian bytes.length value = bytes ↔ value = ofLittleEndian bytes := by
  constructor
  · intro same
    have read := congrArg ofLittleEndian same
    rw [ofLittleEndian_littleEndian, Nat.mod_eq_of_lt fits] at read
    exact read
  · rintro rfl
    exact littleEndian_ofLittleEndian bytes

theorem ofLittleEndian_toNat16 (value : UInt16) :
    UInt16.ofNat (ofLittleEndian (littleEndian 2 value.toNat)) = value := by
  rw [ofLittleEndian_littleEndian, Nat.mod_eq_of_lt value.toNat_lt, UInt16.ofNat_toNat]

theorem ofLittleEndian_toNat32 (value : UInt32) :
    UInt32.ofNat (ofLittleEndian (littleEndian 4 value.toNat)) = value := by
  rw [ofLittleEndian_littleEndian, Nat.mod_eq_of_lt value.toNat_lt, UInt32.ofNat_toNat]

theorem littleEndian_ofNat16 {bytes : List UInt8} (two : bytes.length = 2) :
    littleEndian 2 (UInt16.ofNat (ofLittleEndian bytes)).toNat = bytes := by
  have fits := ofLittleEndian_lt bytes
  rw [two] at fits
  rw [UInt16.toNat_ofNat_of_lt' fits, ← two]
  exact littleEndian_ofLittleEndian bytes

theorem littleEndian_ofNat32 {bytes : List UInt8} (four : bytes.length = 4) :
    littleEndian 4 (UInt32.ofNat (ofLittleEndian bytes)).toNat = bytes := by
  have fits := ofLittleEndian_lt bytes
  rw [four] at fits
  rw [UInt32.toNat_ofNat_of_lt' fits, ← four]
  exact littleEndian_ofLittleEndian bytes

end RestrictedAccess.Wire
