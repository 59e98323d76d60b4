import TykGateway.Go.Basic
import Mathlib.Data.List.Chain

/-! # The reload coordinator

Two goroutines share `gw.requeue` under `requeueLock`. `reloadQueueLoop`
receives each callback that `reloadURLStructure` sends and appends it;
`reloadLoop`, on each tick, takes the whole list through `shouldReload` and,
when it was not empty, runs `DoReload` and then the non-nil callbacks in
order. Either loop returns once the gateway context is done and its `select`
picks that case.

A state of the model is the requeue, the phase of the tick goroutine, and the
log of what has happened. A schedule is any list of actions; an action that is
not enabled leaves the state unchanged. Each received callback is numbered in
arrival order, so the log tells apart two sends of the same function value.
-/

namespace TykGateway

namespace Coordinator

/-- A callback received by `reloadQueueLoop`: its arrival number, and whether
the `func()` sent was nil. -/
structure Callback where
  seq : Nat
  isNil : Bool
  deriving DecidableEq, Repr

/-- Where the `reloadLoop` goroutine is. -/
inductive Phase where
  /-- Blocked in its `select`. -/
  | idle
  /-- `shouldReload` returned the batch; `DoReload` has not started. -/
  | reloading (batch : List Callback)
  /-- `DoReload` has run; these callbacks are still to be called. -/
  | invoking (rest : List Callback)
  /-- Returned after `gw.ctx.Done()`. -/
  | stopped
  deriving DecidableEq, Repr

/-- What the log records. -/
inductive Event where
  | received (c : Callback)
  /-- A tick and the batch `shouldReload` returned, empty when it returned false. -/
  | tick (batch : List Callback)
  | reloadStarted
  | invoked (c : Callback)
  deriving DecidableEq, Repr

/-- One step of one of the two goroutines, or the cancellation of `gw.ctx`. -/
inductive Action where
  /-- `reloadQueueLoop` receives a callback, nil or not, and appends it. -/
  | receive (isNil : Bool)
  | tick
  | doReload
  /-- Call the next callback of the batch, or finish the cycle. -/
  | invokeNext
  | cancel
  /-- `reloadLoop`'s `select` takes `gw.ctx.Done()`. -/
  | exitReloadLoop
  /-- `reloadQueueLoop`'s `select` takes `gw.ctx.Done()`. -/
  | exitQueueLoop
  deriving DecidableEq, Repr

end Coordinator

open Coordinator

/-- The coordinator's shared state and history. -/
structure Coordinator where
  /-- `gw.requeue`. -/
  requeue : List Callback
  phase : Phase
  /-- The arrival number of the next received callback. -/
  nextSeq : Nat
  ctxDone : Bool
  queueLoopStopped : Bool
  log : List Event

namespace Coordinator

/-- The state of a freshly started gateway. -/
def init : Coordinator :=
  ⟨[], .idle, 0, false, false, []⟩

/-- `shouldReload`: the callbacks to run and whether to reload, and the
requeue it leaves behind. -/
def shouldReload (requeue : List Callback) : (List Callback × Bool) × List Callback :=
  if requeue.length = 0 then (([], false), requeue) else ((requeue, true), [])

/-- One iteration of `reloadQueueLoop` that receives `fn`. -/
def reloadQueueLoopReceive (s : Coordinator) (isNil : Bool) : Coordinator :=
  let c : Callback := ⟨s.nextSeq, isNil⟩
  { s with requeue := s.requeue ++ [c], nextSeq := s.nextSeq + 1,
           log := s.log ++ [.received c] }

/-- The `case <-tick` branch of `reloadLoop` up to `DoReload`. -/
def reloadLoopTick (s : Coordinator) : Coordinator :=
  match shouldReload s.requeue with
  | ((cb, true), rest) =>
    { s with requeue := rest, phase := .reloading cb, log := s.log ++ [.tick cb] }
  | ((_, false), _) => { s with log := s.log ++ [.tick []] }

/-- The `for _, c := range cb` loop: call `c` when it is not nil. -/
def invokeCallback (s : Coordinator) (c : Callback) (rest : List Callback) : Coordinator :=
  { s with phase := .invoking rest,
           log := if c.isNil then s.log else s.log ++ [.invoked c] }

def step (s : Coordinator) : Action → Coordinator
  | .receive isNil => if s.queueLoopStopped then s else reloadQueueLoopReceive s isNil
  | .tick => if s.phase = .idle then reloadLoopTick s else s
  | .doReload =>
    match s.phase with
    | .reloading b => { s with phase := .invoking b, log := s.log ++ [.reloadStarted] }
    | _ => s
  | .invokeNext =>
    match s.phase with
    | .invoking [] => { s with phase := .idle }
    | .invoking (c :: rest) => invokeCallback s c rest
    | _ => s
  | .cancel => { s with ctxDone := true }
  | .exitReloadLoop => if s.ctxDone ∧ s.phase = .idle then { s with phase := .stopped } else s
  | .exitQueueLoop => if s.ctxDone then { s with queueLoopStopped := true } else s

def run (s : Coordinator) (acts : List Action) : Coordinator := acts.foldl step s

@[simp] theorem run_nil (s : Coordinator) : run s [] = s := rfl

@[simp] theorem run_cons (s : Coordinator) (a : Action) (acts : List Action) :
    run s (a :: acts) = run (step s a) acts := rfl

theorem run_append (s : Coordinator) (as bs : List Action) :
    run s (as ++ bs) = run (run s as) bs := List.foldl_append _ _ _ _

/-! ### Projections of the log -/

/-- The callback an event received. -/
@[simp] def Event.receivedCb : Event → Option Callback
  | .received c => some c
  | _ => none

/-- The batch an event took. -/
@[simp] def Event.takenCbs : Event → List Callback
  | .tick b => b
  | _ => []

/-- The callback an event called. -/
@[simp] def Event.invokedCb : Event → Option Callback
  | .invoked c => some c
  | _ => none

/-- A tick that took `b` is `some b`, a `DoReload` start is `none`. -/
@[simp] def Event.tickMark : Event → Option (Option (List Callback))
  | .tick b => some (some b)
  | .reloadStarted => some none
  | _ => none

/-- The callbacks received, in order. -/
def receivedAll (log : List Event) : List Callback := log.filterMap Event.receivedCb

/-- The batches taken by `shouldReload`, concatenated in order. -/
def takenAll (log : List Event) : List Callback := log.flatMap Event.takenCbs

/-- The callbacks called, in order. -/
def invokedAll (log : List Event) : List Callback := log.filterMap Event.invokedCb

/-- The ticks and the `DoReload` starts, in order. -/
def tickTrace (log : List Event) : List (Option (List Callback)) :=
  log.filterMap Event.tickMark

@[simp] theorem receivedAll_append (l l' : List Event) :
    receivedAll (l ++ l') = receivedAll l ++ receivedAll l' := List.filterMap_append _ _ _
@[simp] theorem takenAll_append (l l' : List Event) :
    takenAll (l ++ l') = takenAll l ++ takenAll l' := List.flatMap_append _ _ _
@[simp] theorem invokedAll_append (l l' : List Event) :
    invokedAll (l ++ l') = invokedAll l ++ invokedAll l' := List.filterMap_append _ _ _
@[simp] theorem tickTrace_append (l l' : List Event) :
    tickTrace (l ++ l') = tickTrace l ++ tickTrace l' := List.filterMap_append _ _ _

@[simp] theorem receivedAll_cons (e : Event) (l : List Event) :
    receivedAll (e :: l) = e.receivedCb.toList ++ receivedAll l := by
  cases e <;> rfl
@[simp] theorem takenAll_cons (e : Event) (l : List Event) :
    takenAll (e :: l) = e.takenCbs ++ takenAll l := by
  simp [takenAll]
@[simp] theorem invokedAll_cons (e : Event) (l : List Event) :
    invokedAll (e :: l) = e.invokedCb.toList ++ invokedAll l := by
  cases e <;> rfl
@[simp] theorem tickTrace_cons (e : Event) (l : List Event) :
    tickTrace (e :: l) = e.tickMark.toList ++ tickTrace l := by
  cases e <;> rfl

@[simp] theorem receivedAll_nil : receivedAll [] = [] := rfl
@[simp] theorem takenAll_nil : takenAll [] = [] := rfl
@[simp] theorem invokedAll_nil : invokedAll [] = [] := rfl
@[simp] theorem tickTrace_nil : tickTrace [] = [] := rfl

theorem mem_receivedAll {c : Callback} {log : List Event} :
    c ∈ receivedAll log ↔ .received c ∈ log := by
  simp only [receivedAll, List.mem_filterMap]
  constructor
  · rintro ⟨e, he, hc⟩
    cases e <;> simp at hc
    exact hc ▸ he
  · exact fun h => ⟨_, h, rfl⟩

/-- Every `DoReload` directly follows, among ticks and reloads, a tick that
took at least one callback: so a tick runs at most one `DoReload`, and none
when nothing was pending. -/
def OneReloadPerTick (tr : List (Option (List Callback))) : Prop :=
  tr.head? ≠ some none ∧ tr.Chain' fun x y => y = none → ∃ b, x = some b ∧ b ≠ []

/-- The non-nil callbacks of a list. -/
def nonNil (cs : List Callback) : List Callback := cs.filter fun c => !c.isNil

/-- The callbacks of the current cycle not called yet. -/
def Phase.pending : Phase → List Callback
  | .reloading b => b
  | .invoking rest => rest
  | _ => []

/-! ### The invariant -/

/-- What holds in every reachable state. -/
structure Inv (s : Coordinator) : Prop where
  /-- Callbacks are numbered `0, 1, …` in arrival order. -/
  seqs : (receivedAll s.log).map Callback.seq = List.range s.nextSeq
  /-- The batches taken, followed by the requeue, are the callbacks received. -/
  partition : takenAll s.log ++ s.requeue = receivedAll s.log
  /-- The calls made, followed by those pending, are the non-nil callbacks taken. -/
  invoked : invokedAll s.log ++ nonNil s.phase.pending = nonNil (takenAll s.log)
  /-- A callback is called only after it was received and a `DoReload` then started. -/
  afterReload : ∀ c, .invoked c ∈ s.log →
    List.Sublist [.received c, .reloadStarted, .invoked c] s.log
  reloadingReceived : ∀ b, s.phase = .reloading b → ∀ c ∈ b, .received c ∈ s.log
  invokingAfterReload : ∀ rest, s.phase = .invoking rest → ∀ c ∈ rest,
    List.Sublist [.received c, .reloadStarted] s.log
  ticks : OneReloadPerTick (tickTrace s.log)
  lastTick : ∀ b, s.phase = .reloading b → (tickTrace s.log).getLast? = some (some b) ∧ b ≠ []

variable {s : Coordinator}

theorem inv_init : Inv init :=
  ⟨rfl, rfl, rfl, by simp [init], by simp [init], by simp [init],
    ⟨by simp [init, tickTrace], List.chain'_nil⟩, by simp [init]⟩

theorem Inv.congr {s' : Coordinator} (h : Inv s) (hr : s'.requeue = s.requeue)
    (hp : s'.phase = s.phase) (hn : s'.nextSeq = s.nextSeq) (hl : s'.log = s.log) : Inv s' := by
  obtain ⟨h1, h2, h3, h4, h5, h6, h7, h8⟩ := h
  exact ⟨hl ▸ hn ▸ h1, hl ▸ hr ▸ h2, hl ▸ hp ▸ h3, hl ▸ h4, hl ▸ hp ▸ h5, hl ▸ hp ▸ h6,
    hl ▸ h7, hl ▸ hp ▸ h8⟩

/-- Logging an event that is not a call keeps `afterReload`. -/
theorem Inv.afterReload_append (h : Inv s) {e : Event} (he : ∀ c, e ≠ .invoked c) (c : Callback)
    (hc : Event.invoked c ∈ s.log ++ [e]) :
    List.Sublist [.received c, .reloadStarted, .invoked c] (s.log ++ [e]) := by
  rcases List.mem_append.mp hc with hc | hc
  · exact (h.afterReload c hc).trans (List.sublist_append_left _ _)
  · exact absurd (List.mem_singleton.mp hc).symm (he c)

theorem Inv.receive (h : Inv s) (isNil : Bool) : Inv (reloadQueueLoopReceive s isNil) where
  seqs := by simp [reloadQueueLoopReceive, h.seqs, List.range_succ]
  partition := by simp [reloadQueueLoopReceive, ← h.partition]
  invoked := by simpa [reloadQueueLoopReceive] using h.invoked
  afterReload := h.afterReload_append fun _ => by simp
  reloadingReceived b hb c hc := List.mem_append_left _ (h.reloadingReceived b hb c hc)
  invokingAfterReload r hr c hc :=
    (h.invokingAfterReload r hr c hc).trans (List.sublist_append_left _ _)
  ticks := by simpa [reloadQueueLoopReceive] using h.ticks
  lastTick b hb := by simpa [reloadQueueLoopReceive] using h.lastTick b hb

theorem OneReloadPerTick.tick {tr : List (Option (List Callback))} (h : OneReloadPerTick tr)
    (b : List Callback) : OneReloadPerTick (tr ++ [some b]) := by
  refine ⟨?_, List.chain'_append.mpr ⟨h.2, List.chain'_singleton _, by simp⟩⟩
  cases tr with
  | nil => simp
  | cons x xs => simpa using h.1

theorem OneReloadPerTick.reload {tr : List (Option (List Callback))} (h : OneReloadPerTick tr)
    {b : List Callback} (hl : tr.getLast? = some (some b)) (hb : b ≠ []) :
    OneReloadPerTick (tr ++ [none]) := by
  refine ⟨?_, List.chain'_append.mpr ⟨h.2, List.chain'_singleton _, by simp [hl, hb]⟩⟩
  cases tr with
  | nil => simp at hl
  | cons x xs => simpa using h.1

/-- A tick with callbacks queued takes them all and starts a reload. -/
theorem reloadLoopTick_of_cons {c : Callback} {cs : List Callback} (hq : s.requeue = c :: cs) :
    reloadLoopTick s =
      { s with requeue := [], phase := .reloading (c :: cs),
               log := s.log ++ [.tick (c :: cs)] } := by
  simp [reloadLoopTick, shouldReload, hq]

theorem Inv.tick (h : Inv s) (hp : s.phase = .idle) : Inv (reloadLoopTick s) := by
  rcases hq : s.requeue with _ | ⟨c, cs⟩
  · have : reloadLoopTick s = { s with log := s.log ++ [.tick []] } := by
      simp [reloadLoopTick, shouldReload, hq]
    rw [this]
    exact
      { seqs := by simpa using h.seqs
        partition := by simpa [hq] using h.partition
        invoked := by simpa using h.invoked
        afterReload := h.afterReload_append fun _ => by simp
        reloadingReceived := by simp [hp]
        invokingAfterReload := by simp [hp]
        ticks := by simpa using h.ticks.tick []
        lastTick := by simp [hp] }
  · rw [reloadLoopTick_of_cons hq]
    have hpart := h.partition
    rw [hq] at hpart
    exact
      { seqs := by simpa using h.seqs
        partition := by simpa using hpart
        invoked := by simpa [hp, nonNil, Phase.pending] using h.invoked
        afterReload := h.afterReload_append fun _ => by simp
        reloadingReceived := fun b hb c' hc' => by
          cases hb
          refine List.mem_append_left _ (mem_receivedAll.mp ?_)
          rw [← hpart]
          exact List.mem_append_right _ hc'
        invokingAfterReload := by simp
        ticks := by simpa using h.ticks.tick (c :: cs)
        lastTick := fun b hb => by cases hb; simp }

theorem Inv.doReload (h : Inv s) {b : List Callback} (hp : s.phase = .reloading b) :
    Inv { s with phase := .invoking b, log := s.log ++ [.reloadStarted] } where
  seqs := by simpa using h.seqs
  partition := by simpa using h.partition
  invoked := by simpa [hp, Phase.pending] using h.invoked
  afterReload := h.afterReload_append fun _ => by simp
  reloadingReceived := by simp
  invokingAfterReload r hr c hc := by
    cases hr
    exact (List.singleton_sublist.mpr (h.reloadingReceived b hp c hc)).append
      (List.Sublist.refl [Event.reloadStarted])
  ticks := by
    have := h.lastTick b hp
    simpa using h.ticks.reload this.1 this.2
  lastTick := by simp

theorem Inv.invoke (h : Inv s) {c : Callback} {rest : List Callback}
    (hp : s.phase = .invoking (c :: rest)) : Inv (invokeCallback s c rest) where
  seqs := by cases hc : c.isNil <;> simpa [invokeCallback, hc] using h.seqs
  partition := by cases hc : c.isNil <;> simpa [invokeCallback, hc] using h.partition
  invoked := by
    have := h.invoked
    rw [hp] at this
    cases hc : c.isNil <;> simpa [invokeCallback, hc, Phase.pending, nonNil] using this
  afterReload c' hc' := by
    have hr := h.invokingAfterReload _ hp c (List.mem_cons_self _ _)
    cases hc : c.isNil
    · simp only [invokeCallback, hc, Bool.false_eq_true, if_false, List.mem_append,
        List.mem_singleton, Event.invoked.injEq] at hc' ⊢
      rcases hc' with hc' | rfl
      · exact (h.afterReload c' hc').trans (List.sublist_append_left _ _)
      · exact hr.append (List.Sublist.refl _)
    · simp only [invokeCallback, hc, if_true] at hc' ⊢
      exact h.afterReload c' hc'
  reloadingReceived := by simp [invokeCallback]
  invokingAfterReload r hr c' hc' := by
    simp only [invokeCallback, Phase.invoking.injEq] at hr
    subst hr
    have := h.invokingAfterReload _ hp c' (List.mem_cons_of_mem _ hc')
    cases hc : c.isNil
    · simpa [invokeCallback, hc] using this.trans (List.sublist_append_left _ _)
    · simpa [invokeCallback, hc] using this
  ticks := by cases hc : c.isNil <;> simpa [invokeCallback, hc] using h.ticks
  lastTick := by simp [invokeCallback]

/-- Ending a cycle, or returning from the loop, when nothing is pending. -/
theorem Inv.quiet (h : Inv s) (hp : s.phase.pending = []) {p : Phase}
    (hq : p = .idle ∨ p = .stopped) : Inv { s with phase := p } where
  seqs := h.seqs
  partition := h.partition
  invoked := by
    have := h.invoked
    rw [hp] at this
    rcases hq with rfl | rfl <;> simpa [Phase.pending] using this
  afterReload := h.afterReload
  reloadingReceived := by rcases hq with rfl | rfl <;> simp
  invokingAfterReload := by rcases hq with rfl | rfl <;> simp
  ticks := h.ticks
  lastTick := by rcases hq with rfl | rfl <;> simp

theorem step_inv (h : Inv s) (a : Action) : Inv (Coordinator.step s a) := by
  cases a with
  | receive isNil =>
    by_cases hq : s.queueLoopStopped
    · simpa [Coordinator.step, hq] using h
    · simpa [Coordinator.step, hq] using h.receive isNil
  | tick =>
    by_cases hp : s.phase = .idle
    · simpa [Coordinator.step, hp] using h.tick hp
    · simpa [Coordinator.step, hp] using h
  | doReload =>
    rcases hp : s.phase with _ | b | _ | _ <;> simp only [Coordinator.step, hp]
    all_goals first | exact h.doReload hp | exact h
  | invokeNext =>
    rcases hp : s.phase with _ | _ | (_ | ⟨c, rest⟩) | _ <;> simp only [Coordinator.step, hp]
    all_goals first
      | exact h.quiet (by simp [hp, Phase.pending]) (.inl rfl)
      | exact h.invoke hp
      | exact h
  | cancel => exact h.congr rfl rfl rfl rfl
  | exitReloadLoop =>
    by_cases hp : s.ctxDone ∧ s.phase = .idle
    · simpa [Coordinator.step, hp] using h.quiet (by simp [hp.2, Phase.pending]) (.inr rfl)
    · simpa [Coordinator.step, hp] using h
  | exitQueueLoop =>
    by_cases hc : s.ctxDone
    · have : Inv { s with queueLoopStopped := true } := h.congr rfl rfl rfl rfl
      simpa [Coordinator.step, hc] using this
    · simpa [Coordinator.step, hc] using h

theorem run_inv (h : Inv s) (acts : List Action) : Inv (run s acts) := by
  induction acts generalizing s with
  | nil => exact h
  | cons a acts ih => exact ih (step_inv h a)

/-! ### What the schedule sends -/

/-- The callback a `receive` action sends: whether the `func()` is nil. -/
def Action.sent : Action → Option Bool
  | .receive isNil => some isNil
  | _ => none

/-- A receive queues its callback while `reloadQueueLoop` runs; no other step
receives anything. -/
theorem received_step (s : Coordinator) (a : Action) :
    (receivedAll (Coordinator.step s a).log).map Callback.isNil =
      (receivedAll s.log).map Callback.isNil ++
        if s.queueLoopStopped then [] else a.sent.toList := by
  cases a with
  | receive isNil =>
    by_cases hq : s.queueLoopStopped <;>
      simp [Coordinator.step, hq, reloadQueueLoopReceive, Action.sent]
  | tick =>
    simp only [Coordinator.step, Action.sent, Option.toList_none, ite_self, List.append_nil]
    split
    · unfold reloadLoopTick; split <;> simp
    · rfl
  | doReload => simp only [Coordinator.step]; split <;> simp [Action.sent]
  | invokeNext =>
    simp only [Coordinator.step]
    split
    · simp [Action.sent]
    · unfold invokeCallback; split <;> simp [Action.sent]
    · simp [Action.sent]
  | cancel => simp [Coordinator.step, Action.sent]
  | exitReloadLoop => simp only [Coordinator.step]; split <;> simp [Action.sent]
  | exitQueueLoop => simp only [Coordinator.step]; split <;> simp [Action.sent]

/-- Only `reloadQueueLoop`'s return, once the context is done, stops it, and
nothing restarts it. -/
theorem queueLoopStopped_step (s : Coordinator) (a : Action) :
    (Coordinator.step s a).queueLoopStopped =
      (s.queueLoopStopped || a == .exitQueueLoop && s.ctxDone) := by
  cases a with
  | receive isNil =>
    by_cases hq : s.queueLoopStopped <;> simp [Coordinator.step, hq, reloadQueueLoopReceive]
  | tick =>
    simp only [Coordinator.step]
    split
    · unfold reloadLoopTick; split <;> simp
    · simp
  | doReload => simp only [Coordinator.step]; split <;> simp
  | invokeNext =>
    simp only [Coordinator.step]
    split
    · simp
    · simp [invokeCallback]
    · simp
  | cancel => simp [Coordinator.step]
  | exitReloadLoop => simp only [Coordinator.step]; split <;> simp
  | exitQueueLoop => by_cases hc : s.ctxDone <;> simp [Coordinator.step, hc]

/-- Along a run, the callbacks received are, in order, those the schedule
sends until `reloadQueueLoop` returns: none once it has, and all of them when
the run never stops it. -/
theorem run_received (acts : List Action) : ∀ s : Coordinator, ∃ pre,
    pre <+: acts.filterMap Action.sent ∧
    (receivedAll (run s acts).log).map Callback.isNil =
      (receivedAll s.log).map Callback.isNil ++ pre ∧
    (s.queueLoopStopped = true → pre = []) ∧
    (s.queueLoopStopped = false → Action.exitQueueLoop ∉ acts →
      pre = acts.filterMap Action.sent) := by
  induction acts with
  | nil => exact fun s => ⟨[], List.prefix_refl _, by simp, fun _ => rfl, fun _ _ => rfl⟩
  | cons a acts ih =>
    intro s
    obtain ⟨pre, hp, he, hstop, hall⟩ := ih (Coordinator.step s a)
    have hc : (a :: acts).filterMap Action.sent = a.sent.toList ++ acts.filterMap Action.sent := by
      cases a <;> rfl
    cases hq : s.queueLoopStopped
    · -- the queue loop runs: the step adds what `a` sends
      refine ⟨a.sent.toList ++ pre, ?_, ?_, fun h => absurd h Bool.false_ne_true, fun _ hx => ?_⟩
      · rw [hc]
        exact (List.prefix_append_right_inj _).mpr hp
      · rw [run_cons, he, received_step, hq, if_neg Bool.false_ne_true, List.append_assoc]
      · have ha : a ≠ .exitQueueLoop := fun h => hx (h ▸ List.mem_cons_self _ _)
        rw [hc, hall (by simp [queueLoopStopped_step, hq, ha])
          fun h => hx (List.mem_cons_of_mem _ h)]
    · -- it has returned: nothing is received any more
      have hs : (Coordinator.step s a).queueLoopStopped = true := by
        simp [queueLoopStopped_step, hq]
      refine ⟨[], List.nil_prefix, ?_, fun _ => rfl, fun h => absurd h.symm Bool.false_ne_true⟩
      rw [run_cons, he, hstop hs, received_step, hq, if_pos rfl, List.append_nil]

/-! ### Draining the requeue -/

/-- A step of the reload loop alone: a tick, `DoReload`, or a callback. -/
def Action.isLoopStep : Action → Bool
  | .tick | .doReload | .invokeNext => true
  | _ => false

/-- One more tick, its `DoReload`, and a call for each callback of `q`. -/
def cycle (q : List Callback) : List Action :=
  [.tick, .doReload] ++ List.replicate (q.length + 1) .invokeNext

/-- The reload loop's steps that finish the current cycle and then run one
more, with no callback received meanwhile. -/
def drain (s : Coordinator) : List Action :=
  (match s.phase with
    | .reloading b => .doReload :: List.replicate (b.length + 1) .invokeNext
    | .invoking rest => List.replicate (rest.length + 1) .invokeNext
    | _ => []) ++ cycle s.requeue

theorem drain_isLoopStep (s : Coordinator) : ∀ a ∈ drain s, a.isLoopStep := by
  have hr : ∀ n, ∀ a ∈ List.replicate n Action.invokeNext, a.isLoopStep := fun n a ha => by
    rw [List.eq_of_mem_replicate ha]; rfl
  intro a ha
  simp only [drain, cycle, List.mem_append, List.cons_append, List.nil_append,
    List.mem_cons] at ha
  rcases ha with ha | rfl | rfl | ha
  · split at ha
    · rcases List.mem_cons.mp ha with rfl | ha
      · rfl
      · exact hr _ a ha
    · exact hr _ a ha
    · simp at ha
  · rfl
  · rfl
  · exact hr _ a ha

theorem run_invokeNext_of_idle (hp : s.phase = .idle) (n : Nat) :
    run s (List.replicate n .invokeNext) = s := by
  induction n with
  | zero => rfl
  | succ n ih => rw [List.replicate_succ', run_append, ih]; simp [Coordinator.step, hp]

theorem run_invokeNext_of_invoking : ∀ (rest : List Callback) (s : Coordinator),
    s.phase = .invoking rest →
      (run s (List.replicate (rest.length + 1) .invokeNext)).phase = .idle ∧
      (run s (List.replicate (rest.length + 1) .invokeNext)).requeue = s.requeue ∧
      receivedAll (run s (List.replicate (rest.length + 1) .invokeNext)).log = receivedAll s.log
  | [], s, hp => by simp [Coordinator.step, hp]
  | c :: rest, s, hp => by
    rw [List.length_cons, List.replicate_succ, run_cons,
      show Coordinator.step s .invokeNext = invokeCallback s c rest by simp [Coordinator.step, hp]]
    obtain ⟨h1, h2, h3⟩ := run_invokeNext_of_invoking rest (invokeCallback s c rest) rfl
    refine ⟨h1, h2, ?_⟩
    rw [h3]
    cases hc : c.isNil <;> simp [invokeCallback, hc]

theorem run_cycle (hp : s.phase = .idle) :
    (run s (cycle s.requeue)).phase = .idle ∧ (run s (cycle s.requeue)).requeue = [] ∧
      receivedAll (run s (cycle s.requeue)).log = receivedAll s.log := by
  rcases hq : s.requeue with _ | ⟨c, cs⟩
  · simp [cycle, Coordinator.step, hp, reloadLoopTick, shouldReload, hq]
  · simp only [cycle, List.cons_append, List.nil_append, run_cons]
    rw [show Coordinator.step s .tick = reloadLoopTick s from if_pos hp, reloadLoopTick_of_cons hq]
    obtain ⟨h1, h2, h3⟩ := run_invokeNext_of_invoking (c :: cs)
      { s with requeue := [], phase := .invoking (c :: cs),
               log := s.log ++ [.tick (c :: cs)] ++ [.reloadStarted] } rfl
    refine ⟨h1, h2, ?_⟩
    simpa [Coordinator.step] using h3

/-- From any reachable state where the reload loop is still running, its own
steps call every non-nil callback received so far, and take every one. -/
theorem drain_calls_all (h : Inv s) (hs : s.phase ≠ .stopped) :
    (run s (drain s)).requeue = [] ∧ (run s (drain s)).phase = .idle ∧
      takenAll (run s (drain s)).log = receivedAll s.log ∧
      invokedAll (run s (drain s)).log = nonNil (receivedAll s.log) := by
  obtain ⟨s₁, hs₁, hq, hr⟩ : ∃ s₁, s₁.phase = .idle ∧ s₁.requeue = s.requeue ∧
      receivedAll s₁.log = receivedAll s.log ∧
      run s (drain s) = run s₁ (cycle s.requeue) := by
    rcases hp : s.phase with _ | b | rest | _
    · exact ⟨s, hp, rfl, rfl, by simp [drain, hp]⟩
    · obtain ⟨h1, h2, h3⟩ := run_invokeNext_of_invoking b
        { s with phase := .invoking b, log := s.log ++ [.reloadStarted] } rfl
      refine ⟨_, h1, h2, by simpa using h3, ?_⟩
      simp [drain, hp, run_append, Coordinator.step]
    · obtain ⟨h1, h2, h3⟩ := run_invokeNext_of_invoking rest s hp
      exact ⟨_, h1, h2, h3, by simp [drain, hp, run_append]⟩
    · exact absurd hp hs
  obtain ⟨h1, h2, h3⟩ := run_cycle hs₁
  rw [hq] at h1 h2 h3
  obtain ⟨hrec, hrun⟩ := hr
  have hi := run_inv h (drain s)
  rw [hrun] at hi ⊢
  have hpart := hi.partition
  have hinv := hi.invoked
  rw [h2, List.append_nil, h3, hrec] at hpart
  rw [h1] at hinv
  refine ⟨h2, h1, hpart, ?_⟩
  simpa [Phase.pending, nonNil, hpart] using hinv

theorem Inv.invoked_prefix (h : Inv s) :
    List.IsPrefix (invokedAll s.log) (nonNil (receivedAll s.log)) :=
  ⟨nonNil s.phase.pending ++ nonNil s.requeue, by
    rw [← List.append_assoc, h.invoked, nonNil, nonNil, nonNil, ← List.filter_append, h.partition]⟩

/-- For any interleaving of the two goroutines, with any number of callbacks,
nil or not, and of ticks: the callbacks received are, in order, those the
schedule sends until `reloadQueueLoop` returns, all of them when it never
does, numbered apart; every callback received is in exactly one batch taken
by `shouldReload`, or still in the requeue; the callbacks called are, in
order, a prefix of the non-nil callbacks received; each is called after it was
received and a `DoReload` then started;
every `DoReload` directly follows a tick that took at least one callback; and
while the reload loop runs, its own steps take every callback received so far
and call every non-nil one. -/
theorem reload_coordinator_runs (acts : List Action) :
    let s := run init acts
    (receivedAll s.log).map Callback.isNil <+: acts.filterMap Action.sent ∧
    (Action.exitQueueLoop ∉ acts →
      (receivedAll s.log).map Callback.isNil = acts.filterMap Action.sent) ∧
    (receivedAll s.log).map Callback.seq = List.range s.nextSeq ∧
    takenAll s.log ++ s.requeue = receivedAll s.log ∧
    List.IsPrefix (invokedAll s.log) (nonNil (receivedAll s.log)) ∧
    (∀ c, .invoked c ∈ s.log → List.Sublist [.received c, .reloadStarted, .invoked c] s.log) ∧
    OneReloadPerTick (tickTrace s.log) ∧
    (s.phase ≠ .stopped → ∃ more : List Action, (∀ a ∈ more, a.isLoopStep) ∧
      (run s more).requeue = [] ∧ takenAll (run s more).log = receivedAll s.log ∧
      invokedAll (run s more).log = nonNil (receivedAll s.log)) := by
  intro s
  have h : Inv s := run_inv inv_init acts
  obtain ⟨pre, hp, he, -, hall⟩ := run_received acts init
  have he : (receivedAll s.log).map Callback.isNil = pre := he
  refine ⟨he ▸ hp, fun hx => he.trans (hall rfl hx), h.seqs, h.partition, h.invoked_prefix,
    h.afterReload, h.ticks, fun hs => ?_⟩
  obtain ⟨hq, -, ht, hi⟩ := drain_calls_all h hs
  exact ⟨drain s, drain_isLoopStep s, hq, ht, hi⟩

/-- A callback received while `DoReload` runs waits for the next tick. -/
example :
    invokedAll (run init [.receive false, .tick, .receive false, .doReload, .invokeNext,
      .invokeNext]).log = [⟨0, false⟩] ∧
    (run init [.receive false, .tick, .receive false, .doReload, .invokeNext,
      .invokeNext]).requeue = [⟨1, false⟩] := by
  decide

end Coordinator

end TykGateway
