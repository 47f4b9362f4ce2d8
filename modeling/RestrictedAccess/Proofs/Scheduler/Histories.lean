/-
Conditions along histories. Where an operation breaks a condition exactly when some event occurs
with it, the condition holds throughout a history exactly when the event occurs at no step.
-/

import RestrictedAccess.Proofs.Scheduler.Reachability

namespace RestrictedAccess.Scheduler

/-- The condition holds before, between and after the operations of a history. -/
def Throughout (condition : Scheduler → Prop) (start : Scheduler)
    (history : List Operation) : Prop :=
  ∀ past rest, history = past ++ rest → condition (start.afterAll past)

/-- No operation of a history is an event for the scheduler that it finds. -/
def AtNoStep (event : Scheduler → Operation → Prop) (start : Scheduler)
    (history : List Operation) : Prop :=
  ∀ past operation rest, history = past ++ operation :: rest →
    ¬ event (start.afterAll past) operation

theorem afterAll_concat (start : Scheduler) (past : List Operation) (operation : Operation) :
    start.afterAll (past ++ [operation]) = (start.afterAll past).after operation :=
  List.foldl_concat after start operation past

section Exact

variable {condition : Scheduler → Prop} {event : Scheduler → Operation → Prop}
  {start : Scheduler} {history : List Operation}

/-- The step may rely on whatever else all operations keep. -/
theorem throughout_iff_atNoStep_of_kept {invariant : Scheduler → Prop}
    (kept : ∀ scheduler operation, invariant scheduler → invariant (scheduler.after operation))
    (step : ∀ scheduler operation, invariant scheduler → condition scheduler →
      (condition (scheduler.after operation) ↔ ¬ event scheduler operation))
    (holds : invariant start) (begins : condition start) :
    Throughout condition start history ↔ AtNoStep event start history := by
  constructor
  · intro throughout past operation rest split
    have before := throughout past (operation :: rest) split
    have after := throughout (past ++ [operation]) rest (by rw [split, List.append_assoc]; rfl)
    rw [afterAll_concat] at after
    exact (step _ operation (afterAll_kept kept holds past) before).mp after
  · intro never past rest split
    -- The past grows at its end, so the induction runs over its reversal.
    obtain ⟨backwards, reversed⟩ : ∃ backwards, past = List.reverse backwards :=
      ⟨past.reverse, (List.reverse_reverse past).symm⟩
    induction backwards generalizing past rest with
    | nil =>
        subst reversed
        exact begins
    | cons operation earlier ih =>
        rw [List.reverse_cons] at reversed
        subst reversed
        rw [List.append_assoc] at split
        have before := ih earlier.reverse (operation :: rest) split rfl
        rw [afterAll_concat]
        exact (step _ operation (afterAll_kept kept holds _) before).mpr
          (never earlier.reverse operation rest split)

theorem throughout_iff_atNoStep
    (step : ∀ scheduler operation, scheduler.Sound → condition scheduler →
      (condition (scheduler.after operation) ↔ ¬ event scheduler operation))
    (sound : start.Sound) (begins : condition start) :
    Throughout condition start history ↔ AtNoStep event start history :=
  throughout_iff_atNoStep_of_kept (fun _ operation sound => sound.after operation) step sound
    begins

end Exact

end RestrictedAccess.Scheduler
