/-
A buffer as it lies in memory: cells of one byte, zeros where nothing was stored yet, a position for
reading and one for writing. Calls work on it in place. They look first whether there is room or
whether there are bytes enough, then move a position, and then store or fetch the cells that the
position has passed. Numbers are taken apart and put together by shifts.
-/

import RestrictedAccess.Wire.Buffer

namespace RestrictedAccess.Wire

/-! ### Numbers -/

/-- A number on its way into a buffer. The highest byte of the longest ones is not written. -/
inductive WireNumber
  | one (value : UInt8)
  | two (value : UInt16)
  | three (value : UInt32)
  deriving DecidableEq

namespace WireNumber

def value : WireNumber → Nat
  | one value => value.toNat
  | two value => value.toNat
  | three value => value.toNat

def bytes : WireNumber → List UInt8
  | one value => [value]
  | two value => [value.toUInt8, (value >>> 8).toUInt8]
  | three value => [value.toUInt8, (value >>> 8).toUInt8, (value >>> 16).toUInt8]

def size (number : WireNumber) : Nat :=
  number.bytes.length

/-- Shifting a number and keeping its low byte gives one digit of it after the other. -/
theorem littleEndian_value (number : WireNumber) :
    littleEndian number.size number.value = number.bytes := by
  have lowByte (value : Nat) : UInt8.ofNat (value % 256) = UInt8.ofNat value :=
    UInt8.ofNat_mod_size
  cases number with
  | one value =>
      change [UInt8.ofNat (value.toNat % 256)] = [value]
      rw [Nat.mod_eq_of_lt value.toNat_lt, UInt8.ofNat_toNat]
  | two value =>
      have high : (value >>> 8).toNat = value.toNat / 256 := Nat.shiftRight_eq_div_pow _ 8
      change [UInt8.ofNat (value.toNat % 256), UInt8.ofNat (value.toNat / 256 % 256)] = _
      rw [← high, lowByte, lowByte]
      rfl
  | three value =>
      have middle : (value >>> 8).toNat = value.toNat / 256 := Nat.shiftRight_eq_div_pow _ 8
      have high : (value >>> 16).toNat = value.toNat / 256 / 256 := by
        rw [Nat.div_div_eq_div_mul]
        exact Nat.shiftRight_eq_div_pow _ 16
      change [UInt8.ofNat (value.toNat % 256), UInt8.ofNat (value.toNat / 256 % 256),
        UInt8.ofNat (value.toNat / 256 / 256 % 256)] = _
      rw [← high, ← middle, lowByte, lowByte, lowByte]
      rfl

end WireNumber

inductive NumberWidth
  | one
  | two
  | three
  deriving DecidableEq

def NumberWidth.size : NumberWidth → Nat
  | one => 1
  | two => 2
  | three => 3

theorem NumberWidth.size_le (width : NumberWidth) : width.size ≤ 4 := by
  cases width <;> decide

def assembled (bytes : List UInt8) : UInt32 :=
  bytes.foldr (fun byte high => byte.toUInt32 ||| high <<< 8) 0

theorem toNat_assembled {bytes : List UInt8} (few : bytes.length ≤ 4) :
    (assembled bytes).toNat = ofLittleEndian bytes := by
  induction bytes with
  | nil => rfl
  | cons byte rest ih =>
      -- The bytes above fill no more than 24 bits, so none of them is shifted out.
      have fewer : rest.length ≤ 3 := Nat.le_of_succ_le_succ few
      have below : (assembled rest).toNat < 256 ^ 3 := by
        rw [ih (Nat.le_succ_of_le fewer)]
        exact Nat.lt_of_lt_of_le (ofLittleEndian_lt rest)
          (Nat.pow_le_pow_right (by decide) fewer)
      have shifted : (assembled rest <<< 8).toNat = (assembled rest).toNat <<< 8 := by
        rw [UInt32.toNat_shiftLeft]
        apply Nat.mod_eq_of_lt
        rw [Nat.shiftLeft_eq]
        change (assembled rest).toNat * 256 < 4294967296
        omega
      have step : assembled (byte :: rest) = byte.toUInt32 ||| assembled rest <<< 8 := rfl
      rw [step, UInt32.toNat_or, shifted, UInt8.toNat_toUInt32, Nat.or_comm,
        ← Nat.shiftLeft_add_eq_or_of_lt byte.toNat_lt, Nat.shiftLeft_eq, ofLittleEndian,
        ih (Nat.le_succ_of_le fewer), Nat.mul_comm, Nat.add_comm]

/-! ### Calls -/

inductive BufferCall
  | write (number : WireNumber)
  | read (width : NumberWidth)
  deriving DecidableEq

inductive BufferReply
  | written
  | number (value : Nat)
  deriving DecidableEq

def runCalls {σ : Type} (perform : σ → BufferCall → Except Fault BufferReply × σ) (state : σ) :
    List BufferCall → List (BufferCall × Except Fault BufferReply) × σ
  | [] => ([], state)
  | call :: rest =>
      let (reply, next) := perform state call
      let (others, last) := runCalls perform next rest
      ((call, reply) :: others, last)

/-- Write a number. A buffer that refuses it stays as it is, and so with reading. -/
def Buffer.put (buffer : Buffer) (number : WireNumber) : Except Fault BufferReply × Buffer :=
  match buffer.write number.size number.value with
  | .ok next => (.ok .written, next)
  | .error fault => (.error fault, buffer)

def Buffer.get (buffer : Buffer) (width : NumberWidth) : Except Fault BufferReply × Buffer :=
  match buffer.read width.size with
  | .ok (value, next) => (.ok (.number value), next)
  | .error fault => (.error fault, buffer)

def Buffer.perform (buffer : Buffer) : BufferCall → Except Fault BufferReply × Buffer
  | .write number => buffer.put number
  | .read width => buffer.get width

section BufferCalls

variable {buffer : Buffer} {number : WireNumber} {width : NumberWidth}

theorem Buffer.write_value (buffer : Buffer) (number : WireNumber) :
    buffer.write number.size number.value = buffer.append number.bytes := by
  unfold write
  rw [number.littleEndian_value]

theorem Buffer.put_eq (fits : number.size ≤ buffer.remaining) :
    buffer.put number =
      (.ok .written, { buffer with written := buffer.written ++ number.bytes }) := by
  have appended : buffer.append number.bytes =
      .ok { buffer with written := buffer.written ++ number.bytes } := if_pos fits
  unfold put
  rw [buffer.write_value, appended]

theorem Buffer.put_of_full (tight : buffer.remaining < number.size) :
    buffer.put number =
      (.error (.bufferOverflow number.size buffer.position buffer.capacity), buffer) := by
  have refused : buffer.append number.bytes =
      .error (.bufferOverflow number.size buffer.position buffer.capacity) :=
    if_neg (Nat.not_le_of_lt tight)
  unfold put
  rw [buffer.write_value, refused]

theorem Buffer.get_eq (enough : width.size ≤ buffer.available) :
    buffer.get width =
      (.ok (.number (ofLittleEndian (buffer.unread.take width.size))),
        { buffer with readCount := buffer.readCount + width.size }) := by
  unfold get Buffer.read
  rw [if_pos enough]

theorem Buffer.get_of_short (scarce : buffer.available < width.size) :
    buffer.get width =
      (.error (.elementTruncated width.size buffer.readCount buffer.available), buffer) := by
  unfold get Buffer.read
  rw [if_neg (Nat.not_le_of_lt scarce)]

end BufferCalls

/-! ### Cells and positions -/

structure Block where
  cells : List UInt8
  readPosition : Nat
  writePosition : Nat
  deriving DecidableEq

namespace Block

def withCapacity (capacity : Nat) : Except Fault Block :=
  if capacity ≤ maxAllocation then .ok ⟨List.replicate capacity 0, 0, 0⟩
  else .error .bufferTooLarge

def ofBytes (bytes : List UInt8) : Block :=
  ⟨bytes, 0, bytes.length⟩

def capacity (block : Block) : Nat :=
  block.cells.length

def available (block : Block) : Nat :=
  block.writePosition - block.readPosition

def remaining (block : Block) : Nat :=
  block.capacity - block.writePosition

def isFull (block : Block) : Bool :=
  block.writePosition = block.capacity

def slice (block : Block) : List UInt8 :=
  block.cells.take block.writePosition

def truncate (block : Block) : Block :=
  { block with cells := block.cells.take block.writePosition }

def intoBytes (block : Block) : List UInt8 :=
  block.truncate.cells

def reserve (block : Block) (size : Nat) : Except Fault Nat × Block :=
  if block.remaining < size then
    (.error (.bufferOverflow size block.writePosition block.capacity), block)
  else
    (.ok block.writePosition, { block with writePosition := block.writePosition + size })

def claim (block : Block) (size : Nat) : Except Fault (List UInt8) × Block :=
  if block.available < size then
    (.error (.elementTruncated size block.readPosition block.available), block)
  else
    (.ok ((block.cells.drop block.readPosition).take size),
      { block with readPosition := block.readPosition + size })

def overwrite (cells : List UInt8) : Nat → List UInt8 → List UInt8
  | _, [] => cells
  | position, byte :: rest => overwrite (cells.set position byte) (position + 1) rest

def put (block : Block) (number : WireNumber) : Except Fault BufferReply × Block :=
  match block.reserve number.size with
  | (.error fault, next) => (.error fault, next)
  | (.ok start, next) =>
      (.ok .written, { next with cells := overwrite next.cells start number.bytes })

def get (block : Block) (width : NumberWidth) : Except Fault BufferReply × Block :=
  match block.claim width.size with
  | (.error fault, next) => (.error fault, next)
  | (.ok bytes, next) => (.ok (.number (assembled bytes).toNat), next)

def perform (block : Block) : BufferCall → Except Fault BufferReply × Block
  | .write number => block.put number
  | .read width => block.get width

section BlockCalls

variable {block : Block} {number : WireNumber} {width : NumberWidth}

theorem put_eq (fits : number.size ≤ block.remaining) :
    block.put number =
      (.ok .written,
        { block with
          cells := overwrite block.cells block.writePosition number.bytes
          writePosition := block.writePosition + number.size }) := by
  unfold put reserve
  rw [if_neg (Nat.not_lt_of_le fits)]

theorem put_of_full (tight : block.remaining < number.size) :
    block.put number =
      (.error (.bufferOverflow number.size block.writePosition block.capacity), block) := by
  unfold put reserve
  rw [if_pos tight]

theorem get_eq (enough : width.size ≤ block.available) :
    block.get width =
      (.ok (.number (ofLittleEndian ((block.cells.drop block.readPosition).take width.size))),
        { block with readPosition := block.readPosition + width.size }) := by
  have few : ((block.cells.drop block.readPosition).take width.size).length ≤ 4 :=
    Nat.le_trans (List.length_take_le _ _) width.size_le
  unfold get claim
  rw [if_neg (Nat.not_lt_of_le enough)]
  simp only [toNat_assembled few]

theorem get_of_short (scarce : block.available < width.size) :
    block.get width =
      (.error (.elementTruncated width.size block.readPosition block.available), block) := by
  unfold get claim
  rw [if_pos scarce]

end BlockCalls

/-- Bytes that are stored take the place of as many cells, and all other cells stay. -/
theorem overwrite_append (front old behind : List UInt8) {bytes : List UInt8}
    (length : old.length = bytes.length) :
    overwrite (front ++ old ++ behind) front.length bytes = front ++ bytes ++ behind := by
  induction bytes generalizing front old with
  | nil =>
      rw [List.length_eq_zero_iff.mp length]
      rfl
  | cons byte rest ih =>
      cases old with
      | nil => cases length
      | cons cell cells =>
          -- The first byte takes the place of a cell and joins those in front.
          have stored : (front ++ (cell :: cells) ++ behind).set front.length byte =
              (front ++ [byte]) ++ cells ++ behind := by
            simp only [List.append_assoc, List.cons_append, List.nil_append,
              List.set_append_right _ _ (Nat.le_refl _), Nat.sub_self, List.set_cons_zero]
          have next := ih (front ++ [byte]) cells (Nat.succ.inj length)
          rw [List.length_append] at next
          unfold overwrite
          rw [stored]
          refine next.trans ?_
          simp only [List.append_assoc, List.cons_append, List.nil_append]

/-- Behind the cells that were written, as many zeros give way as there are new bytes. -/
theorem overwrite_zeros (front bytes : List UInt8) (room : Nat) :
    overwrite (front ++ List.replicate (bytes.length + room) 0) front.length bytes =
      front ++ bytes ++ List.replicate room 0 := by
  rw [← List.replicate_append_replicate, ← List.append_assoc]
  exact overwrite_append front _ _ List.length_replicate

end Block

end RestrictedAccess.Wire
