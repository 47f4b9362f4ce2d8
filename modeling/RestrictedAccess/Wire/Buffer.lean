/-
A bounded queue of bytes. Numbers are appended little-endian at one end and taken from the other;
an operation that does not fit fails without moving anything. The bytes written so far are the
state, so there is no filler a reader could come across.
-/

import RestrictedAccess.Fault
import RestrictedAccess.Wire.Bytes

namespace RestrictedAccess.Wire

/-- No allocation can hold more bytes than this. -/
def maxAllocation : Nat := 9223372036854775807

structure Buffer where
  capacity : Nat
  written : List UInt8
  /-- How many of the written bytes have been read. -/
  readCount : Nat
  deriving DecidableEq

namespace Buffer

def withCapacity (capacity : Nat) : Except Fault Buffer :=
  if capacity ≤ maxAllocation then .ok ⟨capacity, [], 0⟩ else .error .bufferTooLarge

def ofBytes (bytes : List UInt8) : Buffer :=
  ⟨bytes.length, bytes, 0⟩

def position (buffer : Buffer) : Nat :=
  buffer.written.length

def unread (buffer : Buffer) : List UInt8 :=
  buffer.written.drop buffer.readCount

def available (buffer : Buffer) : Nat :=
  buffer.position - buffer.readCount

def remaining (buffer : Buffer) : Nat :=
  buffer.capacity - buffer.position

def isFull (buffer : Buffer) : Bool :=
  buffer.position = buffer.capacity

def append (buffer : Buffer) (chunk : List UInt8) : Except Fault Buffer :=
  if chunk.length ≤ buffer.remaining then
    .ok { buffer with written := buffer.written ++ chunk }
  else
    .error (.bufferOverflow chunk.length buffer.position buffer.capacity)

/-- Append chunks one after the other and stop at the first that does not fit. -/
def appendAll (buffer : Buffer) : List (List UInt8) → Except Fault Buffer
  | [] => .ok buffer
  | chunk :: rest =>
      match buffer.append chunk with
      | .error fault => .error fault
      | .ok next => next.appendAll rest

def write (buffer : Buffer) (width value : Nat) : Except Fault Buffer :=
  buffer.append (littleEndian width value)

def read (buffer : Buffer) (width : Nat) : Except Fault (Nat × Buffer) :=
  if width ≤ buffer.available then
    .ok (ofLittleEndian (buffer.unread.take width),
      { buffer with readCount := buffer.readCount + width })
  else
    .error (.elementTruncated width buffer.readCount buffer.available)

end Buffer

end RestrictedAccess.Wire
