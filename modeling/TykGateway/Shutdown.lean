import TykGateway.Config

/-! # Graceful shutdown

`gracefulShutdown` starts one goroutine per HTTP server and one per TCP proxy
of `DefaultProxyMux.proxies`. A goroutine whose `server.Shutdown` or
`listener.Close` fails offers the error to `errChan`, a channel of capacity
10, with a `select` that drops it when the channel is full. The main goroutine
waits for all of them, closes the cache stores and `errChan`, and drains it.
When it received an error it returns one; otherwise it closes the listeners,
stops analytics, writes the profiles, stops the heartbeat and deregisters from
the dashboard, and disconnects from MDCB.

A state of the model is the set of goroutines still running, what `errChan`
holds, and whether it is closed. A schedule is any list of actions; an action
that is not enabled leaves the state unchanged.

## Implementation notes

The steps of a goroutine that touch no shared state commute with every other
step, so each goroutine is one action: its send, if it has an error, and its
`wg.Done()`. `proxy.Shutdown(ctx)` only logs its error and is left out; so is
the `select` on `ctx.Done()`, whose both branches wait for all goroutines.
-/

namespace TykGateway

namespace Shutdown

/-- One entry of `DefaultProxyMux.proxies`, with the results of its shutdown calls. -/
structure ProxyEntry where
  /-- `some r` when `p.httpServer != nil`: `server.Shutdown(ctx)` returns `r`. -/
  httpServer : Option (Option GoError)
  /-- `some r` when `p.tcpProxy != nil && p.listener != nil`: `listener.Close()` returns `r`. -/
  tcpListenerClose : Option (Option GoError)
  deriving DecidableEq, Repr

/-- The goroutines `shutdownHTTPServer` and `shutdownTCPProxy` start, in
order, each with the error it offers to `errChan`. -/
def shutdownGoroutines (proxies : List ProxyEntry) : List (Option GoError) :=
  proxies.flatMap fun p => p.httpServer.toList ++ p.tcpListenerClose.toList

/-- `select { case errChan <- err: default: }` on the open `errChan`. -/
def trySend (buffer : List GoError) (e : GoError) : List GoError :=
  if buffer.length < 10 then buffer ++ [e] else buffer

/-- The shutdown goroutines and `errChan`. -/
structure Channel where
  /-- The goroutines that have not called `wg.Done()`. -/
  pending : List Nat
  /-- What `errChan` holds. -/
  buffer : List GoError
  closed : Bool
  /-- A goroutine sent on the closed `errChan`, which panics. -/
  sentOnClosed : Bool
  deriving DecidableEq, Repr

/-- One step of the schedule. -/
inductive Action where
  /-- Goroutine `i` runs to its `wg.Done()`. -/
  | finish (i : Nat)
  /-- The main goroutine: `wg.Wait()` returns, `gw.cacheClose()`, `close(errChan)`. -/
  | close
  deriving DecidableEq, Repr

/-- `n` goroutines started, after `wg.Add(1)` for each. -/
def start (n : Nat) : Channel := ⟨List.range n, [], false, false⟩

section Run

variable (gs : List (Option GoError))

/-- One action, for the goroutines `gs`. -/
def step (s : Channel) : Action → Channel
  | .finish i =>
    if i ∈ s.pending then
      match gs[i]?.join with
      | some e =>
        if s.closed then { s with pending := s.pending.erase i, sentOnClosed := true }
        else { s with pending := s.pending.erase i, buffer := trySend s.buffer e }
      | none => { s with pending := s.pending.erase i }
    else s
  | .close => if s.pending = [] then { s with closed := true } else s

/-- A schedule run from `s`. -/
def run (s : Channel) (acts : List Action) : Channel := acts.foldl (step gs) s

@[simp] theorem run_nil (s : Channel) : run gs s [] = s := rfl

@[simp] theorem run_cons (s : Channel) (a : Action) (acts : List Action) :
    run gs s (a :: acts) = run gs (step gs s a) acts := rfl

theorem run_append (s : Channel) (acts acts' : List Action) :
    run gs s (acts ++ acts') = run gs (run gs s acts) acts' := List.foldl_append _ _ _ _

/-- How many of the goroutines no longer in `pending` had an error. -/
def failedDone (pending : List Nat) : Nat :=
  (List.range gs.length).countP fun i => i ∉ pending && (gs[i]?.join).isSome

/-- Counting over `range n` with a predicate that turns true at one `i < n`
and agrees elsewhere counts one more. -/
theorem countP_range_update {p q : Nat → Bool} {i : Nat} (hp : p i = false) (hq : q i = true)
    (h : ∀ j, j ≠ i → p j = q j) :
    ∀ n, i < n → (List.range n).countP q = (List.range n).countP p + 1
  | 0, hi => absurd hi (Nat.not_lt_zero i)
  | n + 1, hi => by
    rw [List.range_succ, List.countP_append, List.countP_append]
    rcases Nat.lt_succ_iff_lt_or_eq.mp hi with hi | rfl
    · rw [countP_range_update hp hq h n hi]
      simp only [List.countP_cons, List.countP_nil, h n (Nat.ne_of_gt hi)]
      omega
    · have hr : (List.range i).countP q = (List.range i).countP p :=
        List.countP_congr fun j hj => by
          rw [h j (Nat.ne_of_lt (List.mem_range.mp hj))]
      simp [hr, hp, hq]

/-- The invariant of every schedule: the running goroutines are distinct
started ones, `errChan` is closed only after all of them are done, nothing
was sent on it once closed, and it holds the errors of the finished
goroutines, up to its capacity. -/
structure ChannelInv (s : Channel) : Prop where
  nodup : s.pending.Nodup
  lt : ∀ i ∈ s.pending, i < gs.length
  closed_done : s.closed = true → s.pending = []
  no_panic : s.sentOnClosed = false
  buffer_length : s.buffer.length = min (failedDone gs s.pending) 10

theorem channelInv_start : ChannelInv gs (start gs.length) := by
  refine ⟨List.nodup_range _, fun _ => List.mem_range.mp, fun h => absurd h Bool.false_ne_true,
    rfl, ?_⟩
  simp only [start, failedDone, List.length_nil]
  rw [List.countP_eq_zero.mpr fun i hi => by simp [List.mem_range.mp hi]]
  rfl

theorem length_trySend {buffer : List GoError} (hb : buffer.length ≤ 10) (e : GoError) :
    (trySend buffer e).length = min (buffer.length + 1) 10 := by
  unfold trySend
  split_ifs with h
  · rw [List.length_append, List.length_singleton]; omega
  · omega

theorem ChannelInv.step {s : Channel} (h : ChannelInv gs s) (a : Action) :
    ChannelInv gs (Shutdown.step gs s a) := by
  cases a with
  | close =>
    simp only [Shutdown.step]
    split_ifs with hp
    · exact ⟨h.nodup, h.lt, fun _ => hp, h.no_panic, h.buffer_length⟩
    · exact h
  | finish i =>
    by_cases hi : i ∈ s.pending
    · have hc : s.closed = false := by
        cases hc : s.closed
        · rfl
        · simp [h.closed_done hc] at hi
      have hmem : ∀ j, j ∈ s.pending.erase i ↔ j ≠ i ∧ j ∈ s.pending := fun j =>
        h.nodup.mem_erase_iff
      have hlt : ∀ j ∈ s.pending.erase i, j < gs.length := fun j hj => h.lt j ((hmem j).1 hj).2
      have hfd : ∀ j, j ≠ i → (decide (j ∉ s.pending) && (gs[j]?.join).isSome) =
          (decide (j ∉ s.pending.erase i) && (gs[j]?.join).isSome) := fun j hj => by
        simp [hmem, hj]
      rcases he : gs[i]?.join with _ | e <;>
        simp only [Shutdown.step, if_pos hi, he, hc, Bool.false_eq_true, if_false]
      · refine ⟨h.nodup.erase i, hlt, by simp [hc], h.no_panic, ?_⟩
        dsimp only
        rw [h.buffer_length, failedDone, failedDone, List.countP_congr fun j _ => ?_]
        by_cases hji : j = i
        · simp only [hji, he, Option.isSome_none, Bool.and_false]
        · rw [hfd j hji]
      · refine ⟨h.nodup.erase i, hlt, by simp [hc], h.no_panic, ?_⟩
        have hq : (decide (i ∉ s.pending.erase i) && (gs[i]?.join).isSome) = true := by
          simp only [he, Option.isSome_some, Bool.and_true, decide_eq_true_eq]
          exact h.nodup.not_mem_erase
        dsimp only
        have hb : s.buffer.length ≤ 10 := by rw [h.buffer_length]; omega
        rw [length_trySend hb, h.buffer_length, failedDone, failedDone,
          countP_range_update (by simp [hi]) hq hfd _ (h.lt i hi)]
        omega
    · simpa only [Shutdown.step, if_neg hi] using h

theorem channelInv_run : ∀ (acts : List Action) (s : Channel), ChannelInv gs s →
    ChannelInv gs (run gs s acts)
  | [], _, h => h
  | a :: acts, _, h => channelInv_run acts _ (h.step gs a)

theorem pending_step_subset (s : Channel) (a : Action) : (step gs s a).pending ⊆ s.pending := by
  cases a with
  | close => simp only [step]; split_ifs <;> exact List.Subset.refl _
  | finish i =>
    by_cases hi : i ∈ s.pending
    · rcases he : gs[i]?.join with _ | e <;> simp only [step, if_pos hi, he]
      · exact List.erase_subset _ _
      · split_ifs <;> exact List.erase_subset _ _
    · simp only [step, if_neg hi, List.Subset.refl]

theorem pending_run_subset : ∀ (acts : List Action) (s : Channel),
    (run gs s acts).pending ⊆ s.pending
  | [], _ => List.Subset.refl _
  | a :: acts, s => (pending_run_subset acts _).trans (pending_step_subset gs s a)

theorem not_mem_pending_finish {s : Channel} (h : ChannelInv gs s) (i : Nat) :
    i ∉ (step gs s (.finish i)).pending := by
  by_cases hi : i ∈ s.pending
  · have hne : i ∉ s.pending.erase i := h.nodup.not_mem_erase
    rcases he : gs[i]?.join with _ | e <;> simp only [step, if_pos hi, he]
    · exact hne
    · split_ifs <;> exact hne
  · simpa only [step, if_neg hi] using hi

/-- Finishing every goroutine in turn leaves none running. -/
theorem pending_finishAll {s : Channel} (h : ChannelInv gs s) :
    (run gs s ((List.range gs.length).map .finish)).pending = [] := by
  have key : ∀ (l : List Nat) (s : Channel), ChannelInv gs s → ∀ i ∈ l,
      i ∉ (run gs s (l.map .finish)).pending := by
    intro l
    induction l with
    | nil => intro _ _ _ h; cases h
    | cons j l ih =>
      intro s hs i hi
      rcases List.mem_cons.mp hi with rfl | hi
      · exact fun hm => not_mem_pending_finish gs hs i (pending_run_subset gs _ _ hm)
      · exact ih _ (hs.step gs _) i hi
  refine List.eq_nil_iff_forall_not_mem.mpr fun i hi => ?_
  have hlt := (channelInv_run gs _ s h).lt i hi
  exact key _ s h i (List.mem_range.mpr hlt) hi

end Run

/-- What `gracefulShutdown` calls after the servers are down, in order. -/
inductive Effect where
  /-- `gw.cacheClose()`. -/
  | cacheClose
  /-- `gw.DefaultProxyMux.again.Close()`. -/
  | againClose
  /-- `gw.Analytics.Stop()`. -/
  | analyticsStop
  | writeProfiles
  /-- `gw.DashService.StopBeating()`. -/
  | stopBeating
  /-- `gw.DashService.DeRegister()`. -/
  | deRegister
  /-- `store.Disconnect()` of the MDCB storage handler. -/
  | rpcDisconnect
  deriving DecidableEq, Repr

/-- `fmt.Errorf("encountered %d errors during shutdown", n)`. -/
def shutdownErrors (n : Nat) : GoError :=
  .new ("encountered " ++ toString n ++ " errors during shutdown")

/-- The calls after the error check, when `errChan` held no error. -/
def cleanup (conf : Config) (analyticsStoreNil : Bool) : List Effect :=
  [.againClose] ++ (if conf.enableAnalytics && analyticsStoreNil then [.analyticsStop] else []) ++
    [.writeProfiles] ++ (if conf.useDBAppConfigs then [.stopBeating, .deRegister] else []) ++
    (if conf.useRPC then [.rpcDisconnect] else [])

/-- The rest of `gracefulShutdown` once `errChan` is closed and drained into `errs`. -/
def afterServersDown (conf : Config) (analyticsStoreNil : Bool) (errs : List GoError) :
    List Effect × Option GoError :=
  if errs.length > 0 then ([.cacheClose], some (shutdownErrors errs.length))
  else (.cacheClose :: cleanup conf analyticsStoreNil, none)

/-- After the servers are down the cache stores are closed first; the error
counts the errors `errChan` held, and the cleanup calls are made exactly when
none is returned. -/
theorem afterServersDown_spec (conf : Config) (analyticsStoreNil : Bool) (errs : List GoError) :
    (afterServersDown conf analyticsStoreNil errs).1.head? = some .cacheClose ∧
      (afterServersDown conf analyticsStoreNil errs).2 =
        (if errs.length = 0 then none else some (shutdownErrors errs.length)) ∧
      ((afterServersDown conf analyticsStoreNil errs).2 = none ↔
        (afterServersDown conf analyticsStoreNil errs).1 =
          .cacheClose :: cleanup conf analyticsStoreNil) := by
  unfold afterServersDown
  cases errs with
  | nil => simp
  | cons e es => simp [cleanup]

/-- `gracefulShutdown` under a schedule of its goroutines: the effects and the
returned error, or `none` while the main goroutine still waits. -/
def gracefulShutdown (conf : Config) (analyticsStoreNil : Bool) (proxies : List ProxyEntry)
    (acts : List Action) : Option (List Effect × Option GoError) :=
  let s := run (shutdownGoroutines proxies) (start (shutdownGoroutines proxies).length) acts
  if s.closed then some (afterServersDown conf analyticsStoreNil s.buffer) else none

/-- A proxy whose `server.Shutdown` hits the deadline, on a gateway that uses
the dashboard and MDCB. -/
theorem shutdown_error_skips_cleanup :
    gracefulShutdown { (default : Config) with useDBAppConfigs := true, useRPC := true } false
        [⟨some (some (.new "context deadline exceeded")), none⟩] [.finish 0, .close] =
      some ([.cacheClose], some (shutdownErrors 1)) := by
  decide

/-- Once every goroutine is done, `failedDone` counts the failed calls. -/
theorem failedDone_nil : ∀ gs : List (Option GoError), failedDone gs [] = gs.countP Option.isSome
  | [] => rfl
  | g :: gs => by
    rw [failedDone, List.length_cons, List.range_succ_eq_map, List.countP_cons, List.countP_map,
      List.countP_cons, ← failedDone_nil gs, failedDone]
    simp [Function.comp_def]

/-- For every list of proxies, every result of their shutdown calls and every
schedule of the goroutines: no goroutine sends on the closed `errChan`; the
main goroutine returns once all goroutines are done; and when it returns it
has closed the cache stores first, it returns an error exactly when a server
shutdown or a listener close failed, and it makes the cleanup calls exactly
when it returns no error. -/
theorem gracefulShutdown_returns (conf : Config) (analyticsStoreNil : Bool)
    (proxies : List ProxyEntry) (acts : List Action) :
    (run (shutdownGoroutines proxies) (start (shutdownGoroutines proxies).length)
        acts).sentOnClosed = false ∧
      (gracefulShutdown conf analyticsStoreNil proxies
        (acts ++ (List.range (shutdownGoroutines proxies).length).map .finish ++ [.close])).isSome ∧
      ∀ effects err, gracefulShutdown conf analyticsStoreNil proxies acts = some (effects, err) →
        effects.head? = some .cacheClose ∧
        err = (if (shutdownGoroutines proxies).countP Option.isSome = 0 then none
          else some (shutdownErrors (min ((shutdownGoroutines proxies).countP Option.isSome) 10))) ∧
        (err = none ↔ effects = .cacheClose :: cleanup conf analyticsStoreNil) := by
  have hinv := channelInv_run _ acts _ (channelInv_start (shutdownGoroutines proxies))
  refine ⟨hinv.no_panic, ?_, fun effects err h => ?_⟩
  · simp [gracefulShutdown, run_append, pending_finishAll _ hinv, step]
  · dsimp only [gracefulShutdown] at h
    generalize run (shutdownGoroutines proxies) (start (shutdownGoroutines proxies).length) acts = s
      at hinv h
    split at h
    · rename_i hc
      obtain ⟨h1, h2, h3⟩ := afterServersDown_spec conf analyticsStoreNil s.buffer
      rw [Option.some.inj h] at h1 h2 h3
      dsimp only at h1 h2 h3
      have hlen := hinv.buffer_length
      rw [hinv.closed_done hc, failedDone_nil] at hlen
      refine ⟨h1, ?_, h3⟩
      rw [h2, hlen]
      by_cases h0 : (shutdownGoroutines proxies).countP Option.isSome = 0
      · simp [h0]
      · rw [if_neg h0, if_neg (by omega)]
    · cases h

end Shutdown

end TykGateway
