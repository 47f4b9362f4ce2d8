/-
The rate limit over whole sequences of calls. The calls fall into windows, each opened by its first
call, and what a limiter answers and counts can be read off the windows alone. Windows open at least
an interval apart, so a span of time shorter than that touches two of them at most, however the calls
are placed.
-/

import Mathlib.Data.List.Chain
import RestrictedAccess.RateLimiter

namespace RestrictedAccess

structure CallWindow where
  opened : Nat
  later : List Nat
  deriving DecidableEq

namespace CallWindow

def calls (window : CallWindow) : List Nat :=
  window.opened :: window.later

def size (window : CallWindow) : Nat :=
  window.calls.length

def extend (window : CallWindow) (now : Nat) : CallWindow :=
  { window with later := window.later ++ [now] }

def answers (burst : Nat) (window : CallWindow) : List Bool :=
  List.replicate (min window.size burst) true ++ List.replicate (window.size - burst) false

def answered (burst : Nat) (window : CallWindow) : List (Nat × Bool) :=
  window.calls.zip (window.answers burst)

variable (burst : Nat) (window : CallWindow)

theorem calls_extend (now : Nat) : (window.extend now).calls = window.calls ++ [now] :=
  rfl

theorem size_extend (now : Nat) : (window.extend now).size = window.size + 1 := by
  unfold size
  rw [calls_extend, List.length_append]
  rfl

theorem length_answers : (window.answers burst).length = window.calls.length := by
  unfold answers size
  rw [List.length_append, List.length_replicate, List.length_replicate]
  omega

theorem count_false_answers : (window.answers burst).count false = window.size - burst := by
  unfold answers
  rw [List.count_append, List.count_replicate_self, List.count_eq_zero_of_not_mem (by simp),
    Nat.zero_add]

theorem answers_extend (now : Nat) :
    (window.extend now).answers burst =
      window.answers burst ++ [decide (window.size < burst)] := by
  unfold answers
  rw [size_extend]
  by_cases room : window.size < burst
  · have grown : min (window.size + 1) burst = min window.size burst + 1 := by omega
    have none : window.size + 1 - burst = 0 := by omega
    have noneBefore : window.size - burst = 0 := by omega
    rw [grown, none, noneBefore, decide_eq_true room, List.replicate_succ', List.replicate_zero,
      List.append_nil, List.append_nil]
  · have full : min (window.size + 1) burst = min window.size burst := by omega
    have grown : window.size + 1 - burst = window.size - burst + 1 := by omega
    rw [full, grown, decide_eq_false room, List.replicate_succ', List.append_assoc]

theorem answers_opening (now : Nat) : (mk now []).answers burst = [decide (0 < burst)] := by
  cases burst with
  | zero => rfl
  | succ more =>
      have positive : decide (0 < more + 1) = true := decide_eq_true (Nat.succ_pos more)
      unfold answers size calls
      rw [positive]
      simp

theorem count_true_answers : (window.answers burst).count true = min window.size burst := by
  unfold answers
  rw [List.count_append, List.count_replicate_self, List.count_eq_zero_of_not_mem (by simp),
    Nat.add_zero]

/-- A window admits no more calls than its burst, also if only some of its calls are looked at. -/
theorem admitted_le {chosen : List (Nat × Bool)} (among : chosen.Sublist (window.answered burst)) :
    (chosen.map Prod.snd).count true ≤ burst := by
  have marks : (window.answered burst).map Prod.snd = window.answers burst :=
    List.map_snd_zip (Nat.le_of_eq (window.length_answers burst))
  have fewer := (among.map Prod.snd).count_le true
  rw [marks, count_true_answers] at fewer
  exact Nat.le_trans fewer (Nat.min_le_right _ _)

end CallWindow

/-! ### Splitting calls into windows -/

/-- The windows of further calls, from a window that is open. A call opens the next one if it comes
an interval or more after the opening. -/
def windowsFrom (interval : Nat) (current : CallWindow) : List Nat → List CallWindow
  | [] => [current]
  | now :: rest =>
      if now < current.opened + interval then windowsFrom interval (current.extend now) rest
      else current :: windowsFrom interval ⟨now, []⟩ rest

def callWindows (interval : Nat) : List Nat → List CallWindow
  | [] => []
  | now :: rest => windowsFrom interval ⟨now, []⟩ rest

section Split

variable (interval : Nat)

theorem calls_windowsFrom (current : CallWindow) (rest : List Nat) :
    (windowsFrom interval current rest).flatMap CallWindow.calls = current.calls ++ rest := by
  induction rest generalizing current with
  | nil => rfl
  | cons now rest ih =>
      unfold windowsFrom
      split
      · rw [ih, CallWindow.calls_extend, List.append_assoc]
        rfl
      · rw [List.flatMap_cons, ih]
        rfl

theorem calls_callWindows (times : List Nat) :
    (callWindows interval times).flatMap CallWindow.calls = times := by
  cases times with
  | nil => rfl
  | cons now rest => exact calls_windowsFrom interval ⟨now, []⟩ rest

theorem windowsFrom_eq_cons (current : CallWindow) (rest : List Nat) :
    ∃ first others, windowsFrom interval current rest = first :: others ∧
      first.opened = current.opened := by
  induction rest generalizing current with
  | nil => exact ⟨current, [], rfl, rfl⟩
  | cons now rest ih =>
      unfold windowsFrom
      split
      · exact ih (current.extend now)
      · exact ⟨current, _, rfl, rfl⟩

def Spaced (windows : List CallWindow) : Prop :=
  windows.IsChain (fun earlier later => earlier.opened + interval ≤ later.opened)

theorem spaced_windowsFrom (current : CallWindow) (rest : List Nat) :
    Spaced interval (windowsFrom interval current rest) := by
  induction rest generalizing current with
  | nil => exact List.IsChain.singleton _
  | cons now rest ih =>
      unfold windowsFrom
      split
      · exact ih (current.extend now)
      · rename_i late
        obtain ⟨first, others, split, opened⟩ := windowsFrom_eq_cons interval ⟨now, []⟩ rest
        have spaced := ih ⟨now, []⟩
        rw [split] at spaced ⊢
        exact List.IsChain.cons_cons (opened ▸ Nat.le_of_not_lt late) spaced

theorem spaced_callWindows (times : List Nat) : Spaced interval (callWindows interval times) := by
  cases times with
  | nil => exact List.IsChain.nil
  | cons now rest => exact spaced_windowsFrom interval ⟨now, []⟩ rest

/-- No window holds more calls than there are. -/
theorem size_le_of_getLast? {times : List Nat} {window : CallWindow}
    (last : (callWindows interval times).getLast? = some window) :
    window.size ≤ times.length := by
  obtain ⟨earlier, split⟩ := List.getLast?_eq_some_iff.mp last
  have calls := calls_callWindows interval times
  rw [split, List.flatMap_append, List.flatMap_singleton] at calls
  rw [← calls, List.length_append]
  exact Nat.le_add_left _ _

end Split

theorem zip_answers (burst : Nat) (windows : List CallWindow) :
    (windows.flatMap CallWindow.calls).zip (windows.flatMap (CallWindow.answers burst)) =
      windows.flatMap (CallWindow.answered burst) := by
  induction windows with
  | nil => rfl
  | cons window others ih =>
      rw [List.flatMap_cons, List.flatMap_cons, List.flatMap_cons,
        List.zip_append (window.length_answers burst).symm, ih]
      rfl

/-! ### Short spans -/

section Span

variable {interval burst : Nat}

theorem fst_mem_of_answered {windows : List CallWindow} {call : Nat × Bool}
    (member : call ∈ windows.flatMap (CallWindow.answered burst)) :
    call.1 ∈ windows.flatMap CallWindow.calls := by
  obtain ⟨window, listed, inside⟩ := List.mem_flatMap.mp member
  exact List.mem_flatMap.mpr ⟨window, listed, (List.of_mem_zip inside).1⟩

theorem opened_le {first : CallWindow} {others : List CallWindow}
    (ordered : ((first :: others).flatMap CallWindow.calls).Pairwise (· ≤ ·)) {call : Nat}
    (member : call ∈ (first :: others).flatMap CallWindow.calls) : first.opened ≤ call := by
  have opening : (first :: others).flatMap CallWindow.calls =
      first.opened :: (first.later ++ others.flatMap CallWindow.calls) := rfl
  rw [opening] at ordered member
  rcases List.mem_cons.mp member with same | after
  · exact Nat.le_of_eq same.symm
  · exact (List.pairwise_cons.mp ordered).1 call after

/-- The calls from the third window on come an interval or more after those of the first. -/
theorem interval_le_of_third {first second : CallWindow} {others : List CallWindow}
    (ordered : ((first :: second :: others).flatMap CallWindow.calls).Pairwise (· ≤ ·))
    (spaced : Spaced interval (first :: second :: others)) {early late : Nat}
    (inFirst : early ∈ first.calls) (inOthers : late ∈ others.flatMap CallWindow.calls) :
    early + interval ≤ late := by
  cases others with
  | nil => cases inOthers
  | cons third further =>
      have apart : second.opened + interval ≤ third.opened := by
        cases spaced with
        | cons_cons _ spaced =>
            cases spaced with
            | cons_cons apart _ => exact apart
      obtain ⟨_, fromSecond, firstBelow⟩ := List.pairwise_append.mp ordered
      obtain ⟨_, fromThird, _⟩ := List.pairwise_append.mp fromSecond
      calc early + interval ≤ second.opened + interval :=
            Nat.add_le_add_right (firstBelow early inFirst _ List.mem_cons_self) interval
        _ ≤ third.opened := apart
        _ ≤ late := opened_le fromThird inOthers

/-- Calls within less than an interval come from two windows at most. -/
theorem admitted_within_span_le {windows : List CallWindow}
    (ordered : (windows.flatMap CallWindow.calls).Pairwise (· ≤ ·))
    (spaced : Spaced interval windows) {chosen : List (Nat × Bool)}
    (among : chosen.Sublist (windows.flatMap (CallWindow.answered burst)))
    (span : ∀ one, one ∈ chosen → ∀ other, other ∈ chosen → one.1 < other.1 + interval) :
    (chosen.map Prod.snd).count true ≤ 2 * burst := by
  induction windows generalizing chosen with
  | nil =>
      rw [List.sublist_nil.mp among]
      exact Nat.zero_le _
  | cons first others ih =>
      obtain ⟨here, further, rfl, inFirst, inOthers⟩ := List.sublist_append_iff.mp among
      cases here with
      | nil =>
          -- None of the calls is in the first window.
          exact ih (List.pairwise_append.mp ordered).2.1 spaced.tail inOthers span
      | cons early more =>
          have few := first.admitted_le burst inFirst
          suffices rest : (further.map Prod.snd).count true ≤ burst by
            rw [List.map_append, List.count_append]
            omega
          cases others with
          | nil =>
              rw [List.sublist_nil.mp inOthers]
              exact Nat.zero_le _
          | cons second thirds =>
              obtain ⟨inSecond, late, rfl, ofSecond, ofThirds⟩ :=
                List.sublist_append_iff.mp inOthers
              have none : late = [] := by
                refine List.eq_nil_iff_forall_not_mem.mpr (fun call member => ?_)
                have earlyCall := (List.of_mem_zip (inFirst.subset List.mem_cons_self)).1
                have far := interval_le_of_third ordered spaced earlyCall
                  (fst_mem_of_answered (ofThirds.subset member))
                have near := span call (by simp [member]) early (by simp)
                omega
              rw [none, List.append_nil]
              exact second.admitted_le burst ofSecond

end Span

/-! ### Sequences of calls -/

namespace RateLimiter

def answers (limiter : RateLimiter) : List Nat → List Bool
  | [] => []
  | now :: rest => (limiter.request now).2 :: (limiter.request now).1.answers rest

def afterAll (limiter : RateLimiter) (times : List Nat) : RateLimiter :=
  times.foldl (fun current now => (current.request now).1) limiter

def inWindow (interval burst : Nat) (window : CallWindow) : RateLimiter :=
  { interval
    burst
    opened := some window.opened
    admitted := (window.answers burst).count true
    suppressed := (window.answers burst).count false }

section Steps

variable {interval burst now : Nat} {window : CallWindow}

theorem request_of_open (ordered : window.opened ≤ now) (early : now < window.opened + interval) :
    (inWindow interval burst window).request now =
      (inWindow interval burst (window.extend now), decide (window.size < burst)) := by
  have isOpen : (inWindow interval burst window).isOpenAt now = true := by
    have within : now - window.opened < interval := by omega
    exact decide_eq_true within
  have admitted := window.count_true_answers burst
  unfold request openAt
  rw [if_pos isOpen]
  unfold inWindow
  simp only [CallWindow.answers_extend, List.count_append]
  by_cases room : window.size < burst
  · have below : (window.answers burst).count true < burst := by omega
    rw [if_pos below, decide_eq_true room]
    rfl
  · have full : ¬ (window.answers burst).count true < burst := by omega
    rw [if_neg full, decide_eq_false room]
    rfl

theorem request_of_closed {limiter : RateLimiter} (closed : limiter.isOpenAt now = false) :
    limiter.request now =
      (inWindow limiter.interval limiter.burst ⟨now, []⟩, decide (0 < limiter.burst)) := by
  unfold request openAt
  rw [closed]
  unfold inWindow
  simp only [CallWindow.answers_opening, Bool.false_eq_true, if_false]
  by_cases room : 0 < limiter.burst
  · rw [if_pos room, decide_eq_true room]
    rfl
  · rw [if_neg room, decide_eq_false room]
    rfl

theorem closed_of_late (late : ¬ now < window.opened + interval) :
    (inWindow interval burst window).isOpenAt now = false := by
  have beyond : ¬ now - window.opened < interval := by omega
  exact decide_eq_false beyond

end Steps

section Calls

variable {interval burst : Nat} {window : CallWindow} {rest : List Nat}
  (ordered : (window.calls ++ rest).Pairwise (· ≤ ·))

include ordered

/-- Further calls are answered as the windows say that they fall into. -/
theorem answers_inWindow :
    window.answers burst ++ (inWindow interval burst window).answers rest =
      (windowsFrom interval window rest).flatMap (CallWindow.answers burst) := by
  induction rest generalizing window with
  | nil => exact (List.append_nil _).trans (List.flatMap_singleton _ _).symm
  | cons now rest ih =>
      have opened : window.opened ≤ now :=
        (List.pairwise_append.mp ordered).2.2 _ List.mem_cons_self _ List.mem_cons_self
      unfold answers windowsFrom
      by_cases early : now < window.opened + interval
      · have extended : ((window.extend now).calls ++ rest).Pairwise (· ≤ ·) := by
          rw [CallWindow.calls_extend, List.append_assoc]
          exact ordered
        rw [if_pos early, request_of_open opened early, ← ih extended, CallWindow.answers_extend,
          List.append_assoc]
        rfl
      · have opening : ((⟨now, []⟩ : CallWindow).calls ++ rest).Pairwise (· ≤ ·) :=
          (List.pairwise_append.mp ordered).2.1
        have next := ih opening
        rw [CallWindow.answers_opening] at next
        rw [if_neg early, request_of_closed (closed_of_late early), List.flatMap_cons, ← next]
        rfl

/-- The limiter is at any time in the window that was opened last. -/
theorem afterAll_inWindow :
    (windowsFrom interval window rest).getLast?.map (inWindow interval burst) =
      some ((inWindow interval burst window).afterAll rest) := by
  induction rest generalizing window with
  | nil => rfl
  | cons now rest ih =>
      have opened : window.opened ≤ now :=
        (List.pairwise_append.mp ordered).2.2 _ List.mem_cons_self _ List.mem_cons_self
      unfold afterAll windowsFrom
      rw [List.foldl_cons]
      by_cases early : now < window.opened + interval
      · have extended : ((window.extend now).calls ++ rest).Pairwise (· ≤ ·) := by
          rw [CallWindow.calls_extend, List.append_assoc]
          exact ordered
        rw [if_pos early, request_of_open opened early]
        exact ih extended
      · have opening : ((⟨now, []⟩ : CallWindow).calls ++ rest).Pairwise (· ≤ ·) :=
          (List.pairwise_append.mp ordered).2.1
        have next := ih opening
        obtain ⟨first, others, split, _⟩ := windowsFrom_eq_cons interval ⟨now, []⟩ rest
        rw [if_neg early, request_of_closed (closed_of_late early), split, List.getLast?_cons_cons,
          ← split]
        exact next

end Calls

section Fresh

variable (interval burst : Nat) {times : List Nat} (ordered : times.Pairwise (· ≤ ·))

include ordered

theorem answers_new :
    (new interval burst).answers times =
      (callWindows interval times).flatMap (CallWindow.answers burst) := by
  cases times with
  | nil => rfl
  | cons now rest =>
      unfold answers callWindows
      rw [request_of_closed rfl, ← answers_inWindow ordered, CallWindow.answers_opening]
      rfl

/-- A limiter is as the calls of the current window left it. -/
theorem afterAll_new :
    (new interval burst).afterAll times =
      ((callWindows interval times).getLast?.map (inWindow interval burst)).getD
        (new interval burst) := by
  cases times with
  | nil => rfl
  | cons now rest =>
      have last : (windowsFrom interval ⟨now, []⟩ rest).getLast?.map (inWindow interval burst) =
          some ((inWindow interval burst ⟨now, []⟩).afterAll rest) :=
        afterAll_inWindow ordered
      unfold afterAll callWindows
      rw [List.foldl_cons, request_of_closed rfl, last]
      rfl

end Fresh

structure LimitedByWindows (interval burst : Nat) (times : List Nat) : Prop where
  split : (callWindows interval times).flatMap CallWindow.calls = times
  answers : (new interval burst).answers times =
    (callWindows interval times).flatMap (CallWindow.answers burst)
  /-- After each call the refused calls of the current window are counted. -/
  suppressed : ∀ past rest, times = past ++ rest →
    ((new interval burst).afterAll past).suppressed =
      ((callWindows interval past).getLast?.map (fun window =>
        (window.answers burst).count false)).getD 0
  /-- No counter outgrows the number of calls. -/
  counted : ∀ past rest, times = past ++ rest →
    ((new interval burst).afterAll past).admitted +
      ((new interval burst).afterAll past).suppressed ≤ past.length
  /-- Any calls whose times span less than an interval. -/
  span : ∀ chosen : List (Nat × Bool),
    chosen.Sublist (times.zip ((new interval burst).answers times)) →
    (∀ one, one ∈ chosen → ∀ other, other ∈ chosen → one.1 < other.1 + interval) →
    (chosen.map Prod.snd).count true ≤ 2 * burst

theorem calls_limited_by_windows (interval burst : Nat) {times : List Nat}
    (ordered : times.Pairwise (· ≤ ·)) : LimitedByWindows interval burst times := by
  have split := calls_callWindows interval times
  have answered := answers_new interval burst ordered
  have orderedPast {past rest : List Nat} (parts : times = past ++ rest) :
      past.Pairwise (· ≤ ·) := by
    rw [parts] at ordered
    exact (List.pairwise_append.mp ordered).1
  refine
    { split := split
      answers := answered
      suppressed := ?_
      counted := ?_
      span := ?_ }
  · intro past rest parts
    rw [afterAll_new interval burst (orderedPast parts)]
    cases (callWindows interval past).getLast? <;> rfl
  · intro past rest parts
    rw [afterAll_new interval burst (orderedPast parts)]
    cases last : (callWindows interval past).getLast? with
    | none => exact Nat.zero_le _
    | some window =>
        have few := size_le_of_getLast? interval last
        have admitted := window.count_true_answers burst
        have refused := window.count_false_answers burst
        change (window.answers burst).count true + (window.answers burst).count false ≤ past.length
        omega
  · intro chosen among span
    have marked := zip_answers burst (callWindows interval times)
    rw [split, ← answered] at marked
    rw [marked] at among
    rw [← split] at ordered
    exact admitted_within_span_le ordered (spaced_callWindows interval times) among span

def closeCalls : List Nat :=
  [0, 4, 4, 5, 6, 8, 11]

/-- From the last admitted call of one window on, three calls are admitted in less than an
interval. -/
theorem calls_limited_by_windows_around_opening :
    closeCalls.Pairwise (· ≤ ·) ∧
      (new 5 2).answers closeCalls = [true, true, false, true, true, false, true] ∧
      ((new 5 2).afterAll [0, 4, 4, 5, 6, 8]).suppressed = 1 ∧
      [(4, true), (5, true), (6, true), (8, false)].Sublist
        (closeCalls.zip ((new 5 2).answers closeCalls)) ∧
      ([(4, true), (5, true), (6, true), (8, false)].map Prod.snd).count true ≤ 2 * 2 := by
  have ordered : closeCalls.Pairwise (· ≤ ·) := by decide
  have limited := calls_limited_by_windows 5 2 ordered
  have among : [(4, true), (5, true), (6, true), (8, false)].Sublist
      (closeCalls.zip ((new 5 2).answers closeCalls)) := by decide
  refine ⟨ordered, limited.answers.trans (by decide), ?_, among,
    limited.span _ among (by decide)⟩
  exact (limited.suppressed [0, 4, 4, 5, 6, 8] [11] rfl).trans (by decide)

end RateLimiter

end RestrictedAccess
