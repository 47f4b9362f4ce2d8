/-
The turns of a worker, one at a time. Wherever the worker is interrupted, the rest of its turns leads
to the place where it would have come to rest without the interruption. Each turn with something to
do brings it nearer to that place.
-/

import RestrictedAccess.Dispatcher

namespace RestrictedAccess.Dispatcher

variable {dispatcher : Dispatcher}

structure IsIdle (dispatcher : Dispatcher) : Prop where
  waiting : dispatcher.phase = .waiting
  noPermit : dispatcher.permit = false

/-- The worker is idle, or it has delivered nothing so far and no permit is kept while it is busy. -/
inductive SinglePass (dispatcher : Dispatcher) : Prop
  | idle (idle : dispatcher.IsIdle)
  | busy (nothing : dispatcher.delivered = [])
      (alone : dispatcher.phase = .waiting ∨ dispatcher.permit = false)

def workAhead (dispatcher : Dispatcher) : Nat :=
  (if dispatcher.permit then 3 else 0) +
    match dispatcher.phase with
    | .waiting => 0
    | .due => 2
    | .delivering _ => 1

/-- A turn of the worker. It brings the worker nearer to the place where it would come to rest
anyway, or it has nothing to do. -/
structure IsTurn (now : Nat) (turn : Dispatcher → Dispatcher) : Prop where
  settle : ∀ dispatcher : Dispatcher, (turn dispatcher).settle now = dispatcher.settle now
  idle : ∀ dispatcher : Dispatcher, dispatcher.IsIdle → turn dispatcher = dispatcher
  single : ∀ dispatcher : Dispatcher, dispatcher.SinglePass → (turn dispatcher).SinglePass
  nearer : ∀ dispatcher : Dispatcher,
    turn dispatcher = dispatcher ∨ (turn dispatcher).workAhead < dispatcher.workAhead

theorem isTurn_takePermit (now : Nat) : IsTurn now takePermit := by
  have unchanged (dispatcher : Dispatcher) (idle : dispatcher.IsIdle) :
      dispatcher.takePermit = dispatcher := by
    unfold takePermit
    rw [idle.waiting, idle.noPermit]
  refine ⟨?_, unchanged, ?_, ?_⟩
  · rintro ⟨scheduler, journal, observers, permit, phase, delivered⟩
    cases permit <;> cases phase <;> rfl
  · rintro dispatcher (resting | ⟨nothing, alone⟩)
    · exact (unchanged dispatcher resting).symm ▸ .idle resting
    · unfold takePermit
      split
      · exact .busy nothing (Or.inr rfl)
      · exact .busy nothing alone
  · intro dispatcher
    unfold takePermit
    split
    · rename_i waiting permit
      right
      unfold workAhead
      rw [waiting, permit]
      exact Nat.lt_succ_self 2
    · exact Or.inl rfl

theorem isTurn_runPass (now : Nat) : IsTurn now (fun dispatcher => dispatcher.runPass now) := by
  have unchanged (dispatcher : Dispatcher) (idle : dispatcher.IsIdle) :
      dispatcher.runPass now = dispatcher := by
    unfold runPass
    rw [idle.waiting]
  refine ⟨?_, unchanged, ?_, ?_⟩
  · rintro ⟨scheduler, journal, observers, permit, phase, delivered⟩
    cases permit <;> cases phase <;> rfl
  · rintro dispatcher (resting | ⟨nothing, alone⟩)
    · exact (unchanged dispatcher resting).symm ▸ .idle resting
    · unfold runPass
      split
      · rename_i due
        rw [due] at alone
        exact .busy nothing (Or.inr (alone.resolve_left (fun same => by cases same)))
      · exact .busy nothing alone
  · intro dispatcher
    unfold runPass
    split
    · rename_i due
      right
      unfold workAhead
      rw [due]
      exact Nat.add_lt_add_left (Nat.lt_succ_self 1) _
    · exact Or.inl rfl

theorem isTurn_deliver (now : Nat) : IsTurn now (fun dispatcher => dispatcher.deliver now) := by
  have unchanged (dispatcher : Dispatcher) (idle : dispatcher.IsIdle) :
      dispatcher.deliver now = dispatcher := by
    unfold deliver
    rw [idle.waiting]
  refine ⟨?_, unchanged, ?_, ?_⟩
  · rintro ⟨scheduler, journal, observers, permit, phase, delivered⟩
    cases permit <;> cases phase <;> rfl
  · rintro dispatcher (resting | ⟨nothing, alone⟩)
    · exact (unchanged dispatcher resting).symm ▸ .idle resting
    · unfold deliver
      split
      · rename_i report delivering
        rw [delivering] at alone
        exact .idle ⟨rfl, alone.resolve_left (fun same => by cases same)⟩
      · exact .busy nothing alone
  · intro dispatcher
    unfold deliver
    split
    · rename_i report delivering
      right
      unfold workAhead
      rw [delivering]
      exact Nat.add_lt_add_left Nat.one_pos _
    · exact Or.inl rfl

theorem settle_of_fixed {now : Nat} (takes : dispatcher.takePermit = dispatcher)
    (runs : dispatcher.runPass now = dispatcher) (delivers : dispatcher.deliver now = dispatcher) :
    dispatcher.settle now = dispatcher := by
  unfold Dispatcher.settle turn
  rw [takes, runs, delivers, takes, takes, runs, delivers, takes]

theorem IsIdle.settle (idle : dispatcher.IsIdle) (now : Nat) :
    dispatcher.settle now = dispatcher :=
  settle_of_fixed ((isTurn_takePermit now).idle _ idle) ((isTurn_runPass now).idle _ idle)
    ((isTurn_deliver now).idle _ idle)

end RestrictedAccess.Dispatcher
