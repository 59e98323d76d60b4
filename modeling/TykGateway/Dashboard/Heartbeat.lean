import Mathlib.Data.List.Basic

/-! # The heartbeat loops

`StartBeating` swaps `heartBeatStopSentinel` to `HeartBeatStarted` and loops:
its `select` returns when the context is done, then it returns when the
sentinel reads `HeartBeatStopped`, and otherwise it sends a heartbeat and
sleeps. `StopBeating` swaps the sentinel to `HeartBeatStopped`. All loops of
one `HTTPDashboardHandler` share the sentinel, and each reads it once per
iteration, before a send that can last the client timeout and a 2 s sleep.

A state of the model is the sentinel, the loops started so far and the log of
stops and heartbeats. A schedule is any list of actions; an action that is not
enabled leaves the state unchanged.
-/

namespace TykGateway

namespace Heartbeat

/-- Where one `StartBeating` loop is. -/
inductive Loop where
  /-- At the `select` at the top of `for`. -/
  | checking
  /-- Past the stop check: in `sendHeartBeat` or the sleep after it. -/
  | sending
  | returned
  deriving DecidableEq, Repr

/-- One `StartBeating` call. -/
structure LoopState where
  phase : Loop
  /-- Whether its `ctx` is done. -/
  ctxDone : Bool
  deriving DecidableEq, Repr

/-- What the log records. -/
inductive Event where
  | stop
  /-- Loop `i` sent a heartbeat. -/
  | beat (i : Nat)
  deriving DecidableEq, Repr

/-- The sentinel, the loops in start order, and the log. -/
structure Beating where
  /-- `heartBeatStopSentinel = HeartBeatStopped`. -/
  stopped : Bool
  loops : List LoopState
  log : List Event
  deriving DecidableEq, Repr

/-- One step of a caller or of a loop. -/
inductive Action where
  /-- `StartBeating`: the swap to `HeartBeatStarted`, and a new loop. -/
  | start
  /-- `StopBeating`. -/
  | stop
  /-- The context of loop `i` is done. -/
  | cancel (i : Nat)
  /-- The `select` of loop `i` and its `isHeartBeatStopped` check. -/
  | check (i : Nat)
  /-- Loop `i` sends its heartbeat and sleeps. -/
  | beat (i : Nat)
  deriving DecidableEq, Repr

/-- No loop yet; the sentinel's zero value is `HeartBeatStarted`. -/
def init : Beating := { stopped := false, loops := [], log := [] }

/-- One action of the schedule. -/
def step (s : Beating) : Action → Beating
  | .start => { s with stopped := false, loops := s.loops ++ [⟨.checking, false⟩] }
  | .stop => { s with stopped := true, log := s.log ++ [.stop] }
  | .cancel i => { s with loops := s.loops.modify (fun l => { l with ctxDone := true }) i }
  | .check i =>
    match s.loops[i]? with
    | some ⟨.checking, done⟩ =>
      if done || s.stopped then { s with loops := s.loops.set i ⟨.returned, done⟩ }
      else { s with loops := s.loops.set i ⟨.sending, done⟩ }
    | _ => s
  | .beat i =>
    match s.loops[i]? with
    | some ⟨.sending, done⟩ =>
      { s with loops := s.loops.set i ⟨.checking, done⟩, log := s.log ++ [.beat i] }
    | _ => s

/-- A schedule run from `s`. -/
def run (s : Beating) (acts : List Action) : Beating := acts.foldl step s

@[simp] theorem run_nil (s : Beating) : run s [] = s := rfl

@[simp] theorem run_cons (s : Beating) (a : Action) (acts : List Action) :
    run s (a :: acts) = run (step s a) acts := rfl

/-- The loops that have not returned. -/
def running (s : Beating) : Nat := s.loops.countP fun l => l.phase ≠ .returned

/-- `reLogin` stops the beating while loop 0 is past its stop check, and its
new `StartBeating` swaps the sentinel back before loop 0 checks again. -/
def abaSchedule : List Action := [.start, .check 0, .stop, .start, .beat 0, .check 0, .beat 0]

theorem restart_revives_stopped_loop :
    running (run init abaSchedule) = 2 ∧ (run init abaSchedule).log = [.stop, .beat 0, .beat 0] :=
  by decide

/-! ### After `StopBeating` with no new `StartBeating` -/

/-- The heartbeats a loop may still send: one when it is past its stop check. -/
def budget (l : Option LoopState) : Nat := if l.map LoopState.phase = some .sending then 1 else 0

theorem count_beat_append_stop (log : List Event) (i : Nat) :
    (log ++ [Event.stop]).count (Event.beat i) = log.count (Event.beat i) := by
  simp [List.count_singleton']

/-- While the sentinel is stopped, a step other than `StartBeating` keeps it
stopped, adds no loop, and keeps each loop's heartbeats sent plus its budget. -/
theorem step_of_stopped {s : Beating} (hs : s.stopped = true) {a : Action} (ha : a ≠ .start)
    (i : Nat) :
    (step s a).stopped = true ∧ (step s a).loops.length = s.loops.length ∧
      (step s a).log.count (.beat i) + budget (step s a).loops[i]? =
        s.log.count (.beat i) + budget s.loops[i]? := by
  cases a with
  | start => exact absurd rfl ha
  | stop => exact ⟨rfl, rfl, by simp only [step, count_beat_append_stop]⟩
  | cancel j =>
    refine ⟨hs, List.length_modify _ _ _, ?_⟩
    simp only [step, List.getElem?_modify]
    by_cases hji : j = i <;> rcases s.loops[i]? with _ | ⟨p, d⟩ <;> simp [hji, budget]
  | check j =>
    rcases hj : s.loops[j]? with _ | ⟨_ | _ | _, d⟩ <;> simp only [step, hj] <;>
      try exact ⟨hs, trivial, trivial⟩
    rw [hs, Bool.or_true, if_pos rfl]
    refine ⟨rfl, List.length_set .., ?_⟩
    by_cases hji : j = i
    · subst hji; simp [List.getElem?_set, hj, budget]
    · simp [List.getElem?_set, hji]
  | beat j =>
    rcases hj : s.loops[j]? with _ | ⟨_ | _ | _, d⟩ <;> simp only [step, hj] <;>
      try exact ⟨hs, trivial, trivial⟩
    refine ⟨hs, by simp, ?_⟩
    by_cases hji : j = i
    · subst hji; simp [List.getElem?_set, hj, budget, List.count_singleton']
    · simp [List.getElem?_set, hji, List.count_singleton', Ne.symm hji]

theorem run_of_stopped (i : Nat) :
    ∀ (post : List Action) (s : Beating), s.stopped = true → Action.start ∉ post →
      (run s post).stopped = true ∧ (run s post).loops.length = s.loops.length ∧
        (run s post).log.count (.beat i) + budget (run s post).loops[i]? =
          s.log.count (.beat i) + budget s.loops[i]?
  | [], _, hs, _ => ⟨hs, rfl, rfl⟩
  | a :: post, s, hs, hpost => by
    have ha : a ≠ .start := fun h => hpost (h ▸ List.mem_cons_self _ _)
    obtain ⟨hs', hl', hc'⟩ := step_of_stopped hs ha i
    obtain ⟨hs'', hl'', hc''⟩ :=
      run_of_stopped i post _ hs' fun h => hpost (List.mem_cons_of_mem _ h)
    exact ⟨hs'', hl''.trans hl', hc''.trans hc'⟩

/-- After `StopBeating`, as long as no `StartBeating` follows, each loop sends
at most the one heartbeat it was already past its stop check for, none if it
was not, and a loop at its check returns there. -/
theorem stopBeating_bounds_beats (s : Beating) (post : List Action) (hpost : Action.start ∉ post)
    (i : Nat) :
    (run (step s .stop) post).log.count (.beat i) ≤
        s.log.count (.beat i) + budget s.loops[i]? ∧
      ((run (step s .stop) post).loops[i]?.map LoopState.phase = some .checking →
        (step (run (step s .stop) post) (.check i)).loops[i]?.map LoopState.phase =
          some .returned) := by
  obtain ⟨hs, -, hc⟩ := run_of_stopped i post (step s .stop) rfl hpost
  have hstop : (step s .stop).log.count (.beat i) + budget (step s .stop).loops[i]? =
      s.log.count (.beat i) + budget s.loops[i]? := by
    rw [step, count_beat_append_stop]
  refine ⟨by omega, fun hp => ?_⟩
  generalize run (step s .stop) post = t at hs hp ⊢
  rcases hl : t.loops[i]? with _ | ⟨p, d⟩
  · simp [hl] at hp
  · simp only [hl, Option.map_some', Option.some.injEq] at hp
    subst hp
    simp [step, hl, hs, List.getElem?_set, (List.getElem?_eq_some_iff.mp hl).1]

/-- One loop, stopped while it sends its first heartbeat. -/
def midSend : Beating := run init [.start, .check 0]

theorem stopBeating_bounds_beats_mid_send :
    Action.start ∉ [Action.beat 0, Action.check 0] ∧
      ((run (step midSend .stop) [.beat 0, .check 0]).log.count (.beat 0) ≤
          midSend.log.count (.beat 0) + budget midSend.loops[0]? ∧
        ((run (step midSend .stop) [.beat 0, .check 0]).loops[0]?.map LoopState.phase =
            some .checking →
          (step (run (step midSend .stop) [.beat 0, .check 0]) (.check 0)).loops[0]?.map
            LoopState.phase = some .returned)) :=
  ⟨by decide, stopBeating_bounds_beats _ _ (by decide) 0⟩

end Heartbeat

end TykGateway
