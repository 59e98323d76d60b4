import TykGateway.Config

/-! # Retrying a resource sync

`syncResourcesWithReload` calls a sync function up to `RetryAttempts + 1`
times and, when the gateway is slaved over RPC and every attempt failed,
enables emergency mode and calls it once more. The loop bound
`RetryAttempts + 1` is computed in `int` arithmetic, so the number of
iterations is `(RetryAttempts + 1).toNat` after wrapping, which is zero for a
negative count and for `math.MaxInt`.

The sync function is state passing: `σ` is whatever the call reads and
changes, and `enableEmergencyMode` is `rpc.EnableEmergencyMode(true)` on it.

## Implementation notes

`retrySpec` is the same retry discipline over a natural number of attempts,
with the calls recorded as events. `syncResourcesWithReload_eq_retrySpec`
identifies the two for every `int` value of the retry count; the properties of
the retries are then proved on `retrySpec` by induction on the attempts left.
-/

namespace TykGateway

/-- `ErrSyncResourceNotKnown`, declared outside the modelled files. -/
def errSyncResourceNotKnown : GoError := .new "ErrSyncResourceNotKnown"

/-- `fmt.Errorf("syncing %s failed %w", resource, err)`. -/
def syncFailed (resource : String) (err : Option GoError) : GoError :=
  .errorf ("syncing " ++ resource ++ " failed ") err

section Loop

variable {σ : Type} (resource : String) (conf : Config)
  (syncFunc : σ → SyncResult × σ) (enableEmergencyMode : σ → σ)

/-- The loop `for i := 1; i <= RetryAttempts+1; i++` from iteration `i`, with
`err` the error of the previous call. -/
def retryLoop (bound i : GoInt) (err : Option GoError) (s : σ) : SyncResult × σ :=
  if i.val ≤ bound.val then
    match syncFunc s with
    | ((count, none), s₁) => ((count, none), s₁)
    | ((_, some e), s₁) =>
      if hb : i = bound then
        if conf.useRPC then
          match syncFunc (enableEmergencyMode s₁) with
          | ((count, none), s₂) => ((count, none), s₂)
          | ((_, err₂), s₂) => ((0, some (syncFailed resource err₂)), s₂)
        else ((0, some (syncFailed resource (some e))), s₁)
      else retryLoop bound (i + 1) (some e) s₁
  else ((0, some (syncFailed resource err)), s)
termination_by (bound.val - i.val).toNat
decreasing_by
  have hlt : i.val < bound.val := lt_of_le_of_ne ‹_› fun h => hb (GoInt.ext h)
  have := bound.upper
  rw [GoInt.add_one_val (by simp only [GoInt.maxInt_val]; omega)]
  omega

/-- `syncResourcesWithReload(resource, conf, syncFunc)`. -/
def syncResourcesWithReload (s : σ) : SyncResult × σ :=
  if resource ≠ "apis" ∧ resource ≠ "policies" then ((0, some errSyncResourceNotKnown), s)
  else retryLoop resource conf syncFunc enableEmergencyMode (conf.retryAttempts + 1) 1 none s

/-! ### What the retries change -/

/-- A frame for the retries: if a failed call, and enabling emergency mode,
keep the relation `R` to the state before, then a failed run ends in a state
related to the first one, and a successful run is the last call, made from a
state related to the first one. -/
theorem retryLoop_frame (R : σ → σ → Prop) (hrefl : ∀ s, R s s)
    (htrans : ∀ {a b c}, R a b → R b c → R a c)
    (hfail : ∀ s, (syncFunc s).1.2.isSome → R s (syncFunc s).2)
    (henable : ∀ s, R s (enableEmergencyMode s)) (bound : GoInt) (n : Nat) :
    ∀ (i : GoInt) (err : Option GoError) (s : σ), (bound.val - i.val).toNat = n →
      ((retryLoop resource conf syncFunc enableEmergencyMode bound i err s).1.2.isSome →
        R s (retryLoop resource conf syncFunc enableEmergencyMode bound i err s).2) ∧
      ((retryLoop resource conf syncFunc enableEmergencyMode bound i err s).1.2 = none →
        ∃ s', R s s' ∧
          syncFunc s' = retryLoop resource conf syncFunc enableEmergencyMode bound i err s) := by
  induction n using Nat.strong_induction_on with
  | _ n ih =>
  intro i err s hn
  rw [retryLoop]
  split
  · rcases h : syncFunc s with ⟨⟨c, _ | e⟩, s₁⟩
    · exact ⟨by simp, fun _ => ⟨s, hrefl s, h⟩⟩
    · have hf : R s s₁ := by simpa [h] using hfail s
      simp only
      split
      · have he := htrans hf (henable s₁)
        split
        · rcases h₂ : syncFunc (enableEmergencyMode s₁) with ⟨⟨c₂, _ | e₂⟩, s₂⟩
          · exact ⟨by simp, fun _ => ⟨_, he, h₂⟩⟩
          · exact ⟨fun _ => htrans he (by simpa [h₂] using hfail (enableEmergencyMode s₁)), by simp⟩
        · exact ⟨fun _ => hf, by simp⟩
      · rename_i hi hb
        have hlt : i.val < bound.val := lt_of_le_of_ne hi fun h => hb (GoInt.ext h)
        have := bound.upper
        have h1 := GoInt.add_one_val (a := i) (by simp only [GoInt.maxInt_val]; omega)
        obtain ⟨h₁, h₂⟩ := ih _ (by omega) (i + 1) (some e) s₁ rfl
        exact ⟨fun hs => htrans hf (h₁ hs),
          fun hs => (h₂ hs).imp fun s' hs' => ⟨htrans hf hs'.1, hs'.2⟩⟩
  · exact ⟨fun _ => hrefl s, by simp⟩

/-- The frame of `retryLoop_frame`, for `syncResourcesWithReload`. -/
theorem syncResourcesWithReload_frame (R : σ → σ → Prop) (hrefl : ∀ s, R s s)
    (htrans : ∀ {a b c}, R a b → R b c → R a c)
    (hfail : ∀ s, (syncFunc s).1.2.isSome → R s (syncFunc s).2)
    (henable : ∀ s, R s (enableEmergencyMode s)) (s : σ) :
    ((syncResourcesWithReload resource conf syncFunc enableEmergencyMode s).1.2.isSome →
      R s (syncResourcesWithReload resource conf syncFunc enableEmergencyMode s).2) ∧
    ((syncResourcesWithReload resource conf syncFunc enableEmergencyMode s).1.2 = none →
      ∃ s', R s s' ∧
        syncFunc s' = syncResourcesWithReload resource conf syncFunc enableEmergencyMode s) := by
  unfold syncResourcesWithReload
  split
  · exact ⟨fun _ => hrefl s, by simp⟩
  · exact retryLoop_frame resource conf syncFunc enableEmergencyMode R hrefl htrans hfail henable
      _ _ _ _ _ rfl

/-- A relation kept by every call and by emergency mode is kept by the retries. -/
theorem syncResourcesWithReload_preserves (R : σ → σ → Prop) (hrefl : ∀ s, R s s)
    (htrans : ∀ {a b c}, R a b → R b c → R a c) (hcall : ∀ s, R s (syncFunc s).2)
    (henable : ∀ s, R s (enableEmergencyMode s)) (s : σ) :
    R s (syncResourcesWithReload resource conf syncFunc enableEmergencyMode s).2 := by
  obtain ⟨h₁, h₂⟩ := syncResourcesWithReload_frame resource conf syncFunc enableEmergencyMode R
    hrefl htrans (fun s _ => hcall s) henable s
  cases h : (syncResourcesWithReload resource conf syncFunc enableEmergencyMode s).1.2
  · obtain ⟨s', hs', he⟩ := h₂ h
    exact he ▸ htrans hs' (hcall s')
  · exact h₁ (by simp [h])

end Loop

/-! ### Counting the calls -/

/-- What a run of the retry loop does besides returning: a call of the sync
function, or `rpc.EnableEmergencyMode(true)`. -/
inductive SyncEvent where
  | call
  | emergency
  deriving DecidableEq, Repr

/-- A sync function whose `n`-th call returns `outcomes n`, over the events so far. -/
def countingSync (outcomes : Nat → SyncResult) (t : List SyncEvent) :
    SyncResult × List SyncEvent :=
  (outcomes (t.count .call), t ++ [.call])

/-- Emergency mode, recorded as an event. -/
def markEmergency (t : List SyncEvent) : List SyncEvent := t ++ [.emergency]

section Spec

variable (resource : String) (useRPC : Bool) (outcomes : Nat → SyncResult)

/-- The retries as intended: from call `k`, with `r` attempts left, stop at the
first success, and after the last failed attempt try once more in emergency
mode when slaved over RPC. -/
def retrySpec (k : Nat) : Nat → SyncResult × List SyncEvent
  | 0 => ((0, some (syncFailed resource none)), [])
  | r + 1 =>
    match outcomes k with
    | (count, none) => ((count, none), [.call])
    | (_, some e) =>
      if r = 0 then
        if useRPC then
          match outcomes (k + 1) with
          | (count, none) => ((count, none), [.call, .emergency, .call])
          | (_, err) => ((0, some (syncFailed resource err)), [.call, .emergency, .call])
        else ((0, some (syncFailed resource (some e))), [.call])
      else
        ((retrySpec (k + 1) r).1, .call :: (retrySpec (k + 1) r).2)

variable {resource useRPC outcomes}

@[simp] theorem retrySpec_zero (k : Nat) :
    retrySpec resource useRPC outcomes k 0 = ((0, some (syncFailed resource none)), []) := rfl

theorem retrySpec_of_ok {k r : Nat} {count : GoInt} (h : outcomes k = (count, none)) :
    retrySpec resource useRPC outcomes k (r + 1) = ((count, none), [.call]) := by
  simp [retrySpec, h]

theorem retrySpec_one_of_fail {k : Nat} {count : GoInt} {e : GoError}
    (h : outcomes k = (count, some e)) :
    retrySpec resource useRPC outcomes k 1 =
      if useRPC then
        ((if (outcomes (k + 1)).2 = none then outcomes (k + 1)
          else (0, some (syncFailed resource (outcomes (k + 1)).2))),
          [.call, .emergency, .call])
      else ((0, some (syncFailed resource (some e))), [.call]) := by
  simp only [retrySpec, h, if_true]
  rcases outcomes (k + 1) with ⟨count', _ | e'⟩ <;> simp

theorem retrySpec_of_fail {k r : Nat} {count : GoInt} {e : GoError}
    (h : outcomes k = (count, some e)) :
    retrySpec resource useRPC outcomes k (r + 2) =
      ((retrySpec resource useRPC outcomes (k + 1) (r + 1)).1,
        .call :: (retrySpec resource useRPC outcomes (k + 1) (r + 1)).2) := by
  rw [retrySpec]; simp [h]

/-- The retries from call `k` with `r + 1` attempts, in closed form: the calls
up to the first success among the attempts, which is returned; or, when every
attempt failed, one more call after emergency mode when slaved over RPC,
returning its success or an error wrapping its error, and without RPC an error
wrapping the last attempt's error. -/
theorem retrySpec_eq (k r : Nat) :
    (∃ j < r + 1, (∀ i < j, (outcomes (k + i)).2 ≠ none) ∧ (outcomes (k + j)).2 = none ∧
      retrySpec resource useRPC outcomes k (r + 1) =
        (outcomes (k + j), List.replicate (j + 1) .call)) ∨
    ((∀ i < r + 1, (outcomes (k + i)).2 ≠ none) ∧
      retrySpec resource useRPC outcomes k (r + 1) =
        if useRPC then
          ((if (outcomes (k + r + 1)).2 = none then outcomes (k + r + 1)
            else (0, some (syncFailed resource (outcomes (k + r + 1)).2))),
            List.replicate (r + 1) .call ++ [.emergency, .call])
        else ((0, some (syncFailed resource (outcomes (k + r)).2)),
          List.replicate (r + 1) .call)) := by
  induction r generalizing k with
  | zero =>
    rcases h : outcomes k with ⟨count, _ | e⟩
    · exact .inl ⟨0, by omega, by simp, by simp [h], by simp [retrySpec_of_ok h, h]⟩
    · refine .inr ⟨fun i hi => by simp [show i = 0 by omega, h], ?_⟩
      rw [retrySpec_one_of_fail h]
      simp [h]
  | succ r ih =>
    rcases h : outcomes k with ⟨count, _ | e⟩
    · exact .inl ⟨0, by omega, by simp, by simp [h], by simp [retrySpec_of_ok h, h]⟩
    · have hk : (outcomes k).2 ≠ none := by simp [h]
      -- every later index of the tail is one more than the head's
      have hshift : ∀ i, k + 1 + i = k + (i + 1) := fun i => by omega
      rw [retrySpec_of_fail h]
      rcases ih (k + 1) with ⟨j, hj, hpre, hok, heq⟩ | ⟨hall, heq⟩
      · refine .inl ⟨j + 1, by omega, fun i hi => ?_, by rwa [← hshift], ?_⟩
        · rcases i with _ | i
          · exact hk
          · simpa [hshift] using hpre i (by omega)
        · rw [heq, hshift]; rfl
      · refine .inr ⟨fun i hi => ?_, ?_⟩
        · rcases i with _ | i
          · exact hk
          · simpa [hshift] using hall i (by omega)
        · rw [heq]
          have h1 : k + 1 + r + 1 = k + (r + 1) + 1 := by omega
          have h2 : k + 1 + r = k + (r + 1) := by omega
          cases useRPC <;> simp [h1, h2, List.replicate_succ]

end Spec

section Refinement

variable (resource : String) (conf : Config) (outcomes : Nat → SyncResult)

@[simp] theorem countingSync_count (t : List SyncEvent) :
    (countingSync outcomes t).2.count .call = t.count .call + 1 := by
  simp [countingSync]

theorem retryLoop_exit {σ : Type} (syncFunc : σ → SyncResult × σ) (enable : σ → σ)
    {bound i : GoInt} (err : Option GoError) (s : σ) (h : bound.val < i.val) :
    retryLoop resource conf syncFunc enable bound i err s =
      ((0, some (syncFailed resource err)), s) := by
  rw [retryLoop, if_neg (by omega)]

/-- From iteration `i` with `r + 1` iterations left, the loop runs the
remaining attempts of `retrySpec`. -/
theorem retryLoop_counting (bound : GoInt) (r : Nat) : ∀ (i : GoInt) (err : Option GoError)
    (t : List SyncEvent), bound.val + 1 - i.val = r + 1 →
    retryLoop resource conf (countingSync outcomes) markEmergency bound i err t =
      ((retrySpec resource conf.useRPC outcomes (t.count .call) (r + 1)).1,
        t ++ (retrySpec resource conf.useRPC outcomes (t.count .call) (r + 1)).2) := by
  induction r with
  | zero =>
    intro i err t hr
    have hb : i = bound := GoInt.ext (by omega)
    rw [retryLoop, if_pos (by omega)]
    rcases h : outcomes (t.count .call) with ⟨count, _ | e⟩
    · simp [countingSync, retrySpec_of_ok h, h]
    · rw [retrySpec_one_of_fail h]
      cases hu : conf.useRPC
      · simp [countingSync, h, hb, hu]
      · rcases h' : outcomes (t.count .call + 1) with ⟨count', _ | e'⟩ <;>
          simp [countingSync, markEmergency, h, h', hb, hu]
  | succ r ih =>
    intro i err t hr
    have hb : i ≠ bound := fun h => by subst h; omega
    have hi := GoInt.add_one_val (a := i) (by have := bound.upper; simp; omega)
    rw [retryLoop, if_pos (by omega)]
    rcases h : outcomes (t.count .call) with ⟨count, _ | e⟩
    · simp [countingSync, retrySpec_of_ok h, h]
    · simp only [countingSync, h, hb, dite_false]
      rw [ih (i + 1) (some e) (t ++ [SyncEvent.call]) (by omega), retrySpec_of_fail h]
      simp

/-- For every `int` value of `RetryAttempts`, `syncResourcesWithReload` makes
the attempts of `retrySpec`, as many as `RetryAttempts + 1` after wrapping
when that is positive, and none otherwise. -/
theorem syncResourcesWithReload_eq_retrySpec (h : resource = "apis" ∨ resource = "policies") :
    syncResourcesWithReload resource conf (countingSync outcomes) markEmergency [] =
      retrySpec resource conf.useRPC outcomes 0 (conf.retryAttempts + 1).val.toNat := by
  have hv : ¬(resource ≠ "apis" ∧ resource ≠ "policies") := by tauto
  rw [syncResourcesWithReload, if_neg hv]
  cases hN : (conf.retryAttempts + 1).val.toNat with
  | zero => exact retryLoop_exit _ _ _ _ _ _ (by simp only [GoInt.one_val]; omega)
  | succ r => exact retryLoop_counting _ _ _ _ r 1 none [] (by simp only [GoInt.one_val]; omega)

/-- When `RetryAttempts + 1` is not positive after wrapping, the sync function
is never called, and the error returned wraps a nil error. -/
theorem syncResourcesWithReload_of_bound_nonpos {σ : Type} (syncFunc : σ → SyncResult × σ)
    (enable : σ → σ) (s : σ) (h : resource = "apis" ∨ resource = "policies")
    (hb : (conf.retryAttempts + 1).val ≤ 0) :
    syncResourcesWithReload resource conf syncFunc enable s =
      ((0, some (syncFailed resource none)), s) := by
  have hv : ¬(resource ≠ "apis" ∧ resource ≠ "policies") := by tauto
  rw [syncResourcesWithReload, if_neg hv,
    retryLoop_exit _ _ _ _ _ _ (by simp only [GoInt.one_val]; omega)]

/-- When the loop makes a first call and that call succeeds, its result is
the result of the retries. -/
theorem syncResourcesWithReload_of_first_ok {σ : Type} (syncFunc : σ → SyncResult × σ)
    (enable : σ → σ) (s : σ) (h : resource = "apis" ∨ resource = "policies")
    (hb : 1 ≤ (conf.retryAttempts + 1).val) (hok : (syncFunc s).1.2 = none) :
    syncResourcesWithReload resource conf syncFunc enable s = syncFunc s := by
  have hv : ¬(resource ≠ "apis" ∧ resource ≠ "policies") := by tauto
  rw [syncResourcesWithReload, if_neg hv, retryLoop, if_pos (by simpa only [GoInt.one_val])]
  rcases hs : syncFunc s with ⟨⟨c, _ | e⟩, s₁⟩
  · rfl
  · rw [hs] at hok; cases hok

/-- With `RetryAttempts = 0` and no RPC the sync function is called once, and
its error, if any, is wrapped. -/
theorem syncResourcesWithReload_of_single_attempt {σ : Type} (syncFunc : σ → SyncResult × σ)
    (enable : σ → σ) (s : σ) (h : resource = "apis" ∨ resource = "policies")
    (hra : conf.retryAttempts = 0) (hrpc : conf.useRPC = false) :
    syncResourcesWithReload resource conf syncFunc enable s =
      match syncFunc s with
      | ((count, none), s₁) => ((count, none), s₁)
      | ((_, some e), s₁) => ((0, some (syncFailed resource (some e))), s₁) := by
  have hv : ¬(resource ≠ "apis" ∧ resource ≠ "policies") := by tauto
  have hb : (0 : GoInt) + 1 = 1 := by decide
  rw [syncResourcesWithReload, if_neg hv, hra, hb, retryLoop, if_pos le_rfl]
  generalize syncFunc s = r
  rcases r with ⟨⟨c, _ | e⟩, s₁⟩ <;> simp [hrpc]

/-- `RetryAttempts = -1`: no sync is attempted and the returned error wraps nil. -/
theorem syncResourcesWithReload_retry_minus_one (useRPC : Bool) :
    syncResourcesWithReload "apis" { (default : Config) with retryAttempts := -1, useRPC := useRPC }
      (countingSync outcomes) markEmergency [] =
        ((0, some (.wrappedNil "syncing apis failed ")), []) :=
  syncResourcesWithReload_of_bound_nonpos _ _ _ _ _ (.inl rfl)
    (by show ((-1 : GoInt) + 1).val ≤ 0; decide)

/-- `RetryAttempts = math.MaxInt`: the bound wraps to `math.MinInt` and no sync is attempted. -/
theorem syncResourcesWithReload_retry_maxInt (useRPC : Bool) :
    syncResourcesWithReload "policies"
        { (default : Config) with retryAttempts := GoInt.maxInt, useRPC := useRPC }
        (countingSync outcomes) markEmergency [] =
        ((0, some (.wrappedNil "syncing policies failed ")), []) :=
  syncResourcesWithReload_of_bound_nonpos _ _ _ _ _ (.inr rfl)
    (by show (GoInt.maxInt + 1).val ≤ 0; decide)

/-- The retry contract, with `r = RetryAttempts`: the run is the calls up to
the first success among the first `r + 1`, and returns it; or all `r + 1`
calls failed, and then the gateway enables emergency mode and calls once more
exactly when it uses RPC, returning that call's success or an error wrapping
its error, and without RPC it returns an error wrapping the last call's error. -/
def RetryContract (resource : String) (conf : Config) (outcomes : Nat → SyncResult) : Prop :=
  let run := syncResourcesWithReload resource conf (countingSync outcomes) markEmergency []
  let r := conf.retryAttempts.val.toNat
  (∃ j < r + 1, (∀ i < j, (outcomes i).2 ≠ none) ∧ (outcomes j).2 = none ∧
    run = (outcomes j, List.replicate (j + 1) .call)) ∨
  ((∀ i < r + 1, (outcomes i).2 ≠ none) ∧
    run = if conf.useRPC then
        ((if (outcomes (r + 1)).2 = none then outcomes (r + 1)
          else (0, some (syncFailed resource (outcomes (r + 1)).2))),
          List.replicate (r + 1) .call ++ [.emergency, .call])
      else ((0, some (syncFailed resource (outcomes r).2)), List.replicate (r + 1) .call))

/-- For a retry count in `[0, math.MaxInt)` the retry contract holds. -/
theorem syncResourcesWithReload_attempts (h : resource = "apis" ∨ resource = "policies")
    (hlo : 0 ≤ conf.retryAttempts.val) (hhi : conf.retryAttempts.val < GoInt.maxInt.val) :
    RetryContract resource conf outcomes := by
  have hn : (conf.retryAttempts + 1).val.toNat = conf.retryAttempts.val.toNat + 1 := by
    rw [GoInt.add_one_val hhi]; omega
  have hspec := @retrySpec_eq resource conf.useRPC outcomes 0 conf.retryAttempts.val.toNat
  simp only [Nat.zero_add] at hspec
  simpa only [RetryContract, syncResourcesWithReload_eq_retrySpec _ _ _ h, hn] using hspec

theorem syncResourcesWithReload_attempts_one_retry :
    ("apis" = "apis" ∨ "apis" = "policies") ∧ 0 ≤ (1 : GoInt).val ∧
      (1 : GoInt).val < GoInt.maxInt.val ∧
      RetryContract "apis" { (default : Config) with retryAttempts := 1, useRPC := true }
        (fun n => if n < 2 then (0, some (.new "dashboard down")) else (3, none)) :=
  ⟨.inl rfl, by decide, by decide, syncResourcesWithReload_attempts _ _ _ (.inl rfl) (by decide)
    (by decide)⟩

end Refinement

end TykGateway
