/-
Buffers as bounded queues of bytes. A queue takes the bytes of a number if it has room for all of
them, gives out those that came first, and answers anything else without a change. Both a buffer and
its cells in memory take the steps of the queue that they hold and no others, so a reader gets the
bytes that were written, in their order, and none of the filler behind them.
-/

import RestrictedAccess.Proofs.Wire.CursorBlock

namespace RestrictedAccess.Wire

/-! ### The queue -/

/-- The bytes that were taken out of a queue, those that wait in it, and how many more fit in.
Taking bytes out makes no room. -/
structure ByteQueue where
  read : List UInt8
  waiting : List UInt8
  room : Nat

abbrev AnsweredCall := BufferCall × Except Fault BufferReply

namespace ByteQueue

def position (queue : ByteQueue) : Nat :=
  queue.read.length + queue.waiting.length

def capacity (queue : ByteQueue) : Nat :=
  queue.position + queue.room

inductive Step : ByteQueue → BufferCall → Except Fault BufferReply → ByteQueue → Prop
  | put (number : WireNumber) {read waiting : List UInt8} {room : Nat} :
      Step ⟨read, waiting, number.size + room⟩ (.write number) (.ok .written)
        ⟨read, waiting ++ number.bytes, room⟩
  | full (number : WireNumber) {queue : ByteQueue} (tight : queue.room < number.size) :
      Step queue (.write number)
        (.error (.bufferOverflow number.size queue.position queue.capacity)) queue
  | take (width : NumberWidth) {read bytes waiting : List UInt8} {room : Nat}
      (whole : bytes.length = width.size) :
      Step ⟨read, bytes ++ waiting, room⟩ (.read width) (.ok (.number (ofLittleEndian bytes)))
        ⟨read ++ bytes, waiting, room⟩
  | short (width : NumberWidth) {queue : ByteQueue} (scarce : queue.waiting.length < width.size) :
      Step queue (.read width)
        (.error (.elementTruncated width.size queue.read.length queue.waiting.length)) queue

inductive Run : ByteQueue → List AnsweredCall → ByteQueue → Prop
  | done (queue : ByteQueue) : Run queue [] queue
  | next {queue middle last : ByteQueue} {call : BufferCall} {reply : Except Fault BufferReply}
      {rest : List AnsweredCall} (step : queue.Step call reply middle)
      (run : Run middle rest last) : Run queue ((call, reply) :: rest) last

def stored : AnsweredCall → List UInt8
  | (.write number, .ok _) => number.bytes
  | _ => []

/-- The bytes that a call has taken out, told from the number that it gave. -/
def fetched : AnsweredCall → List UInt8
  | (.read width, .ok (.number value)) => littleEndian width.size value
  | _ => []

def refusal : BufferCall → FaultCategory
  | .write _ => .internalInconsistency
  | .read _ => .invalidArgument

section Steps

variable {queue later : ByteQueue} {call : BufferCall} {reply : Except Fault BufferReply}

theorem exists_put {number : WireNumber} (fits : number.size ≤ queue.room) :
    ∃ later, queue.Step (.write number) (.ok .written) later := by
  obtain ⟨read, waiting, room⟩ := queue
  obtain ⟨left, rfl⟩ := Nat.exists_eq_add_of_le fits
  exact ⟨_, .put number⟩

theorem exists_take {width : NumberWidth} (enough : width.size ≤ queue.waiting.length) :
    ∃ value later, queue.Step (.read width) (.ok (.number value)) later := by
  obtain ⟨read, waiting, room⟩ := queue
  have whole : (waiting.take width.size).length = width.size := List.length_take_of_le enough
  have step : Step ⟨read, waiting.take width.size ++ waiting.drop width.size, room⟩ _ _ _ :=
    .take width whole
  rw [List.take_append_drop] at step
  exact ⟨_, _, step⟩

theorem exists_step (queue : ByteQueue) (call : BufferCall) :
    ∃ reply later, queue.Step call reply later := by
  cases call with
  | write number =>
      rcases Nat.lt_or_ge queue.room number.size with tight | fits
      · exact ⟨_, _, .full number tight⟩
      · obtain ⟨later, step⟩ := exists_put fits
        exact ⟨_, later, step⟩
  | read width =>
      rcases Nat.lt_or_ge queue.waiting.length width.size with scarce | enough
      · exact ⟨_, _, .short width scarce⟩
      · obtain ⟨value, later, step⟩ := exists_take enough
        exact ⟨_, later, step⟩

theorem Step.capacity_eq (step : queue.Step call reply later) :
    later.capacity = queue.capacity := by
  cases step with
  | put number =>
      unfold capacity position WireNumber.size
      simp only [List.length_append]
      omega
  | full number tight => rfl
  | take width whole =>
      unfold capacity position
      simp only [List.length_append]
      omega
  | short width scarce => rfl

theorem Step.stored_eq (step : queue.Step call reply later) :
    later.read ++ later.waiting = queue.read ++ queue.waiting ++ stored (call, reply) := by
  cases step with
  | put number => exact (List.append_assoc _ _ _).symm
  | full number tight => exact (List.append_nil _).symm
  | take width whole => simp only [stored, List.append_assoc, List.append_nil]
  | short width scarce => exact (List.append_nil _).symm

theorem Step.fetched_eq (step : queue.Step call reply later) :
    later.read = queue.read ++ fetched (call, reply) := by
  cases step with
  | put number => exact (List.append_nil _).symm
  | full number tight => exact (List.append_nil _).symm
  | @take width read bytes waiting room whole =>
      change read ++ bytes = read ++ littleEndian width.size (ofLittleEndian bytes)
      rw [← whole, littleEndian_ofLittleEndian]
  | short width scarce => exact (List.append_nil _).symm

theorem Step.of_failed {fault : Fault} (step : queue.Step call (.error fault) later) :
    later = queue ∧ fault.category = refusal call := by
  cases step with
  | full number tight => exact ⟨rfl, rfl⟩
  | short width scarce => exact ⟨rfl, rfl⟩

end Steps

section Runs

variable {queue last : ByteQueue} {trace : List AnsweredCall}

theorem exists_run (queue : ByteQueue) (calls : List BufferCall) :
    ∃ trace last, trace.map Prod.fst = calls ∧ queue.Run trace last := by
  induction calls generalizing queue with
  | nil => exact ⟨[], queue, rfl, .done queue⟩
  | cons call rest ih =>
      obtain ⟨reply, later, step⟩ := queue.exists_step call
      obtain ⟨trace, last, calls, run⟩ := ih later
      exact ⟨(call, reply) :: trace, last, congrArg (call :: ·) calls, .next step run⟩

theorem Run.capacity_eq (run : queue.Run trace last) : last.capacity = queue.capacity := by
  induction run with
  | done queue => rfl
  | next step run ih => exact ih.trans step.capacity_eq

/-- Nothing is lost on the way: the bytes that are or were in a queue are those put in. -/
theorem Run.stored_eq (run : queue.Run trace last) :
    last.read ++ last.waiting = queue.read ++ queue.waiting ++ trace.flatMap stored := by
  induction run with
  | done queue => exact (List.append_nil _).symm
  | next step run ih => rw [ih, step.stored_eq, List.flatMap_cons, List.append_assoc]

theorem Run.fetched_eq (run : queue.Run trace last) :
    last.read = queue.read ++ trace.flatMap fetched := by
  induction run with
  | done queue => exact (List.append_nil _).symm
  | next step run ih => rw [ih, step.fetched_eq, List.flatMap_cons, List.append_assoc]

end Runs

end ByteQueue

/-! ### What holds a queue -/

structure BufferViews where
  capacity : Nat
  position : Nat
  readCount : Nat
  available : Nat
  remaining : Nat
  isFull : Bool
  /-- The bytes that are lent out, and those that are left when the buffer is given up. -/
  slice : List UInt8
  bytes : List UInt8

namespace ByteQueue

def views (queue : ByteQueue) : BufferViews :=
  { capacity := queue.capacity
    position := queue.position
    readCount := queue.read.length
    available := queue.waiting.length
    remaining := queue.room
    isFull := decide (queue.room = 0)
    slice := queue.read ++ queue.waiting
    bytes := queue.read ++ queue.waiting }

theorem views_injective : Function.Injective views := by
  intro one other same
  have written : one.read ++ one.waiting = other.read ++ other.waiting :=
    congrArg BufferViews.slice same
  obtain ⟨read, waiting⟩ := List.append_inj written (congrArg BufferViews.readCount same)
  have room : one.room = other.room := congrArg BufferViews.remaining same
  cases one
  cases other
  cases read
  cases waiting
  cases room
  rfl

end ByteQueue

section Held

variable {σ : Type} (perform : σ → BufferCall → Except Fault BufferReply × σ)
  (views : σ → BufferViews) (hold : ByteQueue → σ)

/-- States that hold queues look like them, and calls are answered for the queue that is held. -/
structure Holds : Prop where
  views_eq : ∀ queue, views (hold queue) = queue.views
  step : ∀ {queue later : ByteQueue} {call : BufferCall} {reply : Except Fault BufferReply},
    queue.Step call reply later → perform (hold queue) call = (reply, hold later)

structure Answers (queue : ByteQueue) : Prop where
  views_eq : views (hold queue) = queue.views
  step_iff : ∀ call reply later,
    perform (hold queue) call = (reply, hold later) ↔ queue.Step call reply later
  /-- No call makes something of a queue that is none. -/
  closed : ∀ call, ∃ later, (perform (hold queue) call).2 = hold later
  written_iff : ∀ number, (perform (hold queue) (.write number)).1 = .ok .written ↔
    number.size ≤ (views (hold queue)).remaining
  read_iff : ∀ width,
    (∃ value, (perform (hold queue) (.read width)).1 = .ok (.number value)) ↔
      width.size ≤ (views (hold queue)).available
  failed : ∀ call fault, (perform (hold queue) call).1 = .error fault →
    (perform (hold queue) call).2 = hold queue ∧ fault.category = ByteQueue.refusal call

variable {perform views hold} (holds : Holds perform views hold)
include holds

theorem Holds.injective : Function.Injective hold := by
  intro one other same
  apply ByteQueue.views_injective
  rw [← holds.views_eq, ← holds.views_eq, same]

theorem Holds.step_iff {queue later : ByteQueue} {call : BufferCall}
    {reply : Except Fault BufferReply} :
    perform (hold queue) call = (reply, hold later) ↔ queue.Step call reply later := by
  constructor
  · intro performed
    -- The queue has some answer to the call, and no other one is given for it.
    obtain ⟨answer, next, step⟩ := queue.exists_step call
    obtain ⟨rfl, held⟩ := Prod.mk.inj (performed.symm.trans (holds.step step))
    obtain rfl := holds.injective held
    exact step
  · exact holds.step

theorem Holds.run {queue last : ByteQueue} {trace : List AnsweredCall}
    (run : queue.Run trace last) :
    runCalls perform (hold queue) (trace.map Prod.fst) = (trace, hold last) := by
  induction run with
  | done queue => rfl
  | next step run ih =>
      rw [List.map_cons]
      unfold runCalls
      simp only [holds.step step, ih]

theorem Holds.answers (queue : ByteQueue) : Answers perform views hold queue := by
  refine
    { views_eq := holds.views_eq queue
      step_iff := fun _ _ _ => holds.step_iff
      closed := ?_
      written_iff := ?_
      read_iff := ?_
      failed := ?_ }
  · intro call
    obtain ⟨reply, later, step⟩ := queue.exists_step call
    exact ⟨later, congrArg Prod.snd (holds.step step)⟩
  · intro number
    rw [holds.views_eq]
    change _ ↔ number.size ≤ queue.room
    rcases Nat.lt_or_ge queue.room number.size with tight | fits
    · rw [holds.step (.full number tight)]
      exact iff_of_false (fun same => by cases same) (Nat.not_le_of_lt tight)
    · obtain ⟨later, step⟩ := ByteQueue.exists_put fits
      rw [holds.step step]
      exact iff_of_true rfl fits
  · intro width
    rw [holds.views_eq]
    change _ ↔ width.size ≤ queue.waiting.length
    rcases Nat.lt_or_ge queue.waiting.length width.size with scarce | enough
    · rw [holds.step (.short width scarce)]
      exact iff_of_false (fun ⟨_, same⟩ => by cases same) (Nat.not_le_of_lt scarce)
    · obtain ⟨value, later, step⟩ := ByteQueue.exists_take enough
      rw [holds.step step]
      exact iff_of_true ⟨value, rfl⟩ enough
  · intro call fault failed
    obtain ⟨reply, later, step⟩ := queue.exists_step call
    rw [holds.step step] at failed ⊢
    cases failed
    obtain ⟨rfl, category⟩ := step.of_failed
    exact ⟨rfl, category⟩

end Held

/-! ### Buffers and their cells -/

def Buffer.views (buffer : Buffer) : BufferViews :=
  { capacity := buffer.capacity
    position := buffer.position
    readCount := buffer.readCount
    available := buffer.available
    remaining := buffer.remaining
    isFull := buffer.isFull
    slice := buffer.written
    bytes := buffer.written }

def Block.views (block : Block) : BufferViews :=
  { capacity := block.capacity
    position := block.writePosition
    readCount := block.readPosition
    available := block.available
    remaining := block.remaining
    isFull := block.isFull
    slice := block.slice
    bytes := block.intoBytes }

namespace ByteQueue

def buffer (queue : ByteQueue) : Buffer :=
  ⟨queue.capacity, queue.read ++ queue.waiting, queue.read.length⟩

/-- The cells behind those that were written hold zeros. -/
def block (queue : ByteQueue) : Block :=
  ⟨queue.read ++ queue.waiting ++ List.replicate queue.room 0, queue.read.length, queue.position⟩

variable (queue : ByteQueue)

theorem length_written : (queue.read ++ queue.waiting).length = queue.position :=
  List.length_append

theorem isFull_eq : decide (queue.position = queue.capacity) = decide (queue.room = 0) := by
  unfold capacity
  exact decide_eq_decide.mpr Nat.left_eq_add

theorem capacity_sub_position : queue.capacity - queue.position = queue.room :=
  Nat.add_sub_cancel_left _ _

theorem position_sub_read : queue.position - queue.read.length = queue.waiting.length :=
  Nat.add_sub_cancel_left _ _

section Buffers

theorem position_buffer : queue.buffer.position = queue.position :=
  queue.length_written

theorem remaining_buffer : queue.buffer.remaining = queue.room := by
  unfold Buffer.remaining
  rw [position_buffer]
  exact queue.capacity_sub_position

theorem unread_buffer : queue.buffer.unread = queue.waiting :=
  List.drop_left

theorem available_buffer : queue.buffer.available = queue.waiting.length := by
  unfold Buffer.available
  rw [position_buffer]
  exact queue.position_sub_read

theorem views_buffer : queue.buffer.views = queue.views := by
  have full : queue.buffer.isFull = decide (queue.room = 0) := by
    unfold Buffer.isFull
    rw [position_buffer]
    exact queue.isFull_eq
  unfold Buffer.views views
  rw [position_buffer, remaining_buffer, available_buffer, full]
  rfl

theorem holds_buffer : Holds Buffer.perform Buffer.views buffer := by
  refine { views_eq := views_buffer, step := ?_ }
  intro queue later call reply step
  have capacity := step.capacity_eq
  cases step with
  | @put number read waiting room =>
      have fits : number.size ≤ (buffer ⟨read, waiting, number.size + room⟩).remaining := by
        rw [remaining_buffer]
        exact Nat.le_add_right _ _
      change ((buffer _).put number) = _
      rw [Buffer.put_eq fits]
      unfold buffer
      simp only [capacity, List.append_assoc]
  | full number tight =>
      rw [← remaining_buffer] at tight
      change queue.buffer.put number = _
      rw [Buffer.put_of_full tight, position_buffer]
      rfl
  | @take width read bytes waiting room whole =>
      have enough : width.size ≤ (buffer ⟨read, bytes ++ waiting, room⟩).available := by
        rw [available_buffer, ← whole, List.length_append]
        exact Nat.le_add_right _ _
      change ((buffer _).get width) = _
      rw [Buffer.get_eq enough, unread_buffer, List.take_left' whole]
      unfold buffer
      simp only [capacity, List.append_assoc, List.length_append, whole]
  | short width scarce =>
      rw [← available_buffer] at scarce
      change queue.buffer.get width = _
      rw [Buffer.get_of_short scarce, available_buffer]
      rfl

end Buffers

section Blocks

theorem capacity_block : queue.block.capacity = queue.capacity := by
  unfold Block.capacity block
  rw [List.length_append, length_written, List.length_replicate]
  rfl

theorem remaining_block : queue.block.remaining = queue.room := by
  unfold Block.remaining
  rw [capacity_block]
  exact queue.capacity_sub_position

theorem available_block : queue.block.available = queue.waiting.length :=
  queue.position_sub_read

theorem slice_block : queue.block.slice = queue.read ++ queue.waiting :=
  List.take_left' queue.length_written

theorem views_block : queue.block.views = queue.views := by
  have bytes : queue.block.intoBytes = queue.read ++ queue.waiting := queue.slice_block
  have full : queue.block.isFull = decide (queue.room = 0) := by
    unfold Block.isFull
    rw [capacity_block]
    exact queue.isFull_eq
  unfold Block.views views
  rw [capacity_block, remaining_block, available_block, slice_block, bytes, full]
  rfl

theorem cells_put (number : WireNumber) (read waiting : List UInt8) (room : Nat) :
    Block.overwrite (block ⟨read, waiting, number.size + room⟩).cells
        (block ⟨read, waiting, number.size + room⟩).writePosition number.bytes =
      (block ⟨read, waiting ++ number.bytes, room⟩).cells := by
  have stored := Block.overwrite_zeros (read ++ waiting) number.bytes room
  rw [List.length_append, List.append_assoc read waiting number.bytes] at stored
  exact stored

theorem cells_get (read bytes waiting : List UInt8) (room : Nat) :
    ((block ⟨read, bytes ++ waiting, room⟩).cells.drop
        (block ⟨read, bytes ++ waiting, room⟩).readPosition).take bytes.length = bytes := by
  unfold block
  rw [List.append_assoc read, List.drop_left, List.append_assoc bytes, List.take_left]

theorem holds_block : Holds Block.perform Block.views block := by
  refine { views_eq := views_block, step := ?_ }
  intro queue later call reply step
  cases step with
  | @put number read waiting room =>
      have fits : number.size ≤ (block ⟨read, waiting, number.size + room⟩).remaining := by
        rw [remaining_block]
        exact Nat.le_add_right _ _
      change ((block _).put number) = _
      rw [Block.put_eq fits, cells_put]
      simp only [block, position, List.length_append, Nat.add_assoc, WireNumber.size]
  | full number tight =>
      rw [← remaining_block] at tight
      change queue.block.put number = _
      rw [Block.put_of_full tight, capacity_block]
      rfl
  | @take width read bytes waiting room whole =>
      have enough : width.size ≤ (block ⟨read, bytes ++ waiting, room⟩).available := by
        rw [available_block, ← whole, List.length_append]
        exact Nat.le_add_right _ _
      change ((block _).get width) = _
      rw [Block.get_eq enough, ← whole, cells_get]
      simp only [block, position, List.append_assoc, List.length_append, Nat.add_assoc]
  | short width scarce =>
      rw [← available_block] at scarce
      change queue.block.get width = _
      rw [Block.get_of_short scarce, available_block]
      rfl

end Blocks

end ByteQueue

/-! ### From the start -/

inductive BufferStart
  | empty (capacity : Nat)
  | holding (bytes : List UInt8)

namespace BufferStart

def buffer : BufferStart → Except Fault Buffer
  | empty capacity => Buffer.withCapacity capacity
  | holding bytes => .ok (Buffer.ofBytes bytes)

def block : BufferStart → Except Fault Block
  | empty capacity => Block.withCapacity capacity
  | holding bytes => .ok (Block.ofBytes bytes)

def bytes : BufferStart → List UInt8
  | empty _ => []
  | holding bytes => bytes

def room : BufferStart → Nat
  | empty capacity => capacity
  | holding _ => 0

def queue (start : BufferStart) : ByteQueue :=
  ⟨[], start.bytes, start.room⟩

theorem buffer_eq (start : BufferStart) :
    start.buffer =
      if start.room ≤ maxAllocation then .ok start.queue.buffer else .error .bufferTooLarge := by
  cases start with
  | empty capacity =>
      have same : (empty capacity).queue.buffer = ⟨capacity, [], 0⟩ :=
        congrArg (Buffer.mk · [] 0) (Nat.zero_add capacity)
      rw [same]
      rfl
  | holding bytes =>
      have same : (holding bytes).queue.buffer = Buffer.ofBytes bytes :=
        congrArg (Buffer.mk · bytes 0) (Nat.zero_add bytes.length)
      rw [same]
      rfl

theorem block_eq (start : BufferStart) :
    start.block =
      if start.room ≤ maxAllocation then .ok start.queue.block else .error .bufferTooLarge := by
  cases start with
  | empty capacity => rfl
  | holding bytes =>
      have same : (holding bytes).queue.block = Block.ofBytes bytes := by
        unfold ByteQueue.block ByteQueue.position Block.ofBytes queue
        simp only [BufferStart.bytes, room, List.nil_append, List.replicate_zero, List.append_nil,
          List.length_nil, Nat.zero_add]
      rw [same]
      rfl

end BufferStart

/-- Where calls on a buffer lead: to a queue that accounts for all that was put in and taken out. -/
structure Served (start : BufferStart) (calls : List BufferCall) (trace : List AnsweredCall)
    (last : ByteQueue) : Prop where
  calls_eq : trace.map Prod.fst = calls
  run : start.queue.Run trace last
  buffer : runCalls Buffer.perform start.queue.buffer calls = (trace, last.buffer)
  block : runCalls Block.perform start.queue.block calls = (trace, last.block)
  bufferAnswers : Answers Buffer.perform Buffer.views ByteQueue.buffer last
  blockAnswers : Answers Block.perform Block.views ByteQueue.block last
  /-- So no difference of positions falls below zero, and no range between them leaves the cells. -/
  ordered : last.views.readCount ≤ last.views.position ∧ last.views.position ≤ last.views.capacity
  capacity : last.views.capacity = start.bytes.length + start.room
  slice : last.views.slice = start.bytes ++ trace.flatMap ByteQueue.stored
  bytes : last.views.bytes = start.bytes ++ trace.flatMap ByteQueue.stored
  /-- What was read is what was written first, and what is left waits in its order. -/
  read : last.views.slice = trace.flatMap ByteQueue.fetched ++ last.waiting
  readCount : last.views.readCount = (trace.flatMap ByteQueue.fetched).length

/-- However a buffer begins and whatever calls are made on it, it is a bounded queue of bytes, and
so are its cells in memory. -/
theorem calls_served_as_queue (start : BufferStart) (calls : List BufferCall) :
    start.buffer =
        (if start.room ≤ maxAllocation then .ok start.queue.buffer else .error .bufferTooLarge) ∧
      start.block =
        (if start.room ≤ maxAllocation then .ok start.queue.block else .error .bufferTooLarge) ∧
      ∃ trace last, Served start calls trace last := by
  refine ⟨start.buffer_eq, start.block_eq, ?_⟩
  obtain ⟨trace, last, rfl, run⟩ := start.queue.exists_run calls
  have read : last.read = trace.flatMap ByteQueue.fetched := run.fetched_eq
  have capacity : last.capacity = 0 + start.bytes.length + start.room := run.capacity_eq
  refine ⟨trace, last, ?_⟩
  exact
    { calls_eq := rfl
      run := run
      buffer := ByteQueue.holds_buffer.run run
      block := ByteQueue.holds_block.run run
      bufferAnswers := ByteQueue.holds_buffer.answers last
      blockAnswers := ByteQueue.holds_block.answers last
      ordered := ⟨Nat.le_add_right _ _, Nat.le_add_right _ _⟩
      capacity := by rw [Nat.zero_add] at capacity; exact capacity
      slice := run.stored_eq
      bytes := run.stored_eq
      read := congrArg (· ++ last.waiting) read
      readCount := congrArg List.length read }

/-- Calls that do not fit come between calls that do. -/
example :
    runCalls Block.perform ⟨[0, 0, 0, 0], 0, 0⟩
        [.write (.two 0xbeef), .write (.three 1), .read .three, .write (.one 7), .read .two,
          .read .two] =
      ([(.write (.two 0xbeef), .ok .written),
        (.write (.three 1), .error (.bufferOverflow 3 2 4)),
        (.read .three, .error (.elementTruncated 3 0 2)),
        (.write (.one 7), .ok .written),
        (.read .two, .ok (.number 0xbeef)),
        (.read .two, .error (.elementTruncated 2 2 1))], ⟨[0xef, 0xbe, 7, 0], 2, 3⟩) :=
  rfl

end RestrictedAccess.Wire
