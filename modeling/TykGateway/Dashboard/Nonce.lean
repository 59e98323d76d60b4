import Mathlib.Data.List.Chain
import Mathlib.Data.Fintype.Basic

/-! # The service nonce

The dashboard answers each accepted request with a fresh nonce and accepts a
request only when it carries the nonce it issued last. The gateway keeps the
nonce it was given last in `ServiceNonce`. `sendHeartBeat`,
`LoadPoliciesFromDashboard`, `NotifyDashboardOfEvent` and `DeRegister` each
read `ServiceNonce` under `RLock`, send the request, and store the nonce of a
`200` response under `Lock`; `Register` sends no nonce and stores the one it
is given. The read and the store are separate critical sections, so the steps
of the goroutines interleave.

A state of the model is `ServiceNonce`, the dashboard's last nonce, where each
of `k` goroutines is, and the log of the nonce-carrying requests. A schedule
is any list of actions; an action that is not enabled leaves the state
unchanged.

## Implementation notes

Nonces are numbered in the order the dashboard issues them, so "older" is `<`.
A request that fails in transport reaches no dashboard and changes nothing
there. An answer can also be lost after the dashboard handled the request:
`client.Do` returns an error once the dashboard has answered (a timeout), or a
`200` body does not decode. The dashboard has then issued its next nonce, and
`ServiceNonce` never gets it. A `403` to a heartbeat makes `sendHeartBeat` call
`Register` on the same goroutine; any other rejected request returns an error.
-/

namespace TykGateway

namespace Nonce

/-- The goroutines that talk to the dashboard. -/
inductive Task where
  /-- `sendHeartBeat`. -/
  | heartbeat
  /-- `LoadPoliciesFromDashboard`. -/
  | policyFetch
  /-- `NotifyDashboardOfEvent`. -/
  | quotaNotify
  /-- `DeRegister`. -/
  | deregister
  /-- `Register`. -/
  | register
  deriving DecidableEq, Repr

/-- Whether the task's request carries `X-Tyk-Nonce`; `Register` sets none. -/
def Task.sendsNonce : Task → Bool
  | .register => false
  | _ => true

/-- Where one goroutine is. -/
inductive Phase where
  | idle
  /-- It read this nonce under `RLock` and has not sent yet. -/
  | holding (nonce : Nat)
  /-- `sendHeartBeat` got `403` and calls `Register`. -/
  | registering
  /-- It has the response: the nonce of a decoded `200` body, if any. -/
  | answered (nonce : Option Nat)
  deriving DecidableEq, Repr

variable {k : Nat}

/-- The nonce store, the dashboard, and `k` goroutines. -/
structure System (k : Nat) where
  /-- `gw.ServiceNonce`. -/
  serviceNonce : Nat
  /-- The nonce the dashboard issued last to this node. -/
  latest : Nat
  phase : Fin k → Phase
  /-- Each nonce-carrying request, with the dashboard's last nonce when it arrived. -/
  requests : List (Nat × Nat)

/-- One step of one goroutine. -/
inductive Action (k : Nat) where
  /-- `ServiceNonceMutex.RLock`; copy `ServiceNonce` into the request. -/
  | read (i : Fin k)
  /-- `client.Do(req)` reaches the dashboard, which answers. -/
  | send (i : Fin k)
  /-- `client.Do(req)` returns an error before the request reaches the dashboard. -/
  | fail (i : Fin k)
  /-- The dashboard handles the request, but its answer does not reach the
  goroutine: `client.Do(req)` returns an error after the dashboard answered, or
  a `200` body does not decode. -/
  | lose (i : Fin k)
  /-- `ServiceNonceMutex.Lock`; store the nonce of the response, if there is one. -/
  | store (i : Fin k)
  deriving DecidableEq, Repr

/-- The goroutine an action belongs to. -/
def Action.task : Action k → Fin k
  | .read i | .send i | .fail i | .lose i | .store i => i

/-- Whether the action loses an answer. -/
def Action.lost : Action k → Bool
  | .lose _ => true
  | .read _ | .send _ | .fail _ | .store _ => false

/-- All goroutines idle; `ServiceNonce` holds the dashboard's last nonce `n`. -/
def init (n : Nat) : System k :=
  { serviceNonce := n, latest := n, phase := fun _ => .idle, requests := [] }

namespace System

/-- Move goroutine `i` to phase `p`. -/
def setPhase (s : System k) (i : Fin k) (p : Phase) : System k :=
  { s with phase := Function.update s.phase i p }

/-- Record a request carrying `c`. -/
def log (s : System k) (c : Nat) : System k :=
  { s with requests := s.requests ++ [(c, s.latest)] }

/-- The dashboard accepts goroutine `i`'s request and answers a fresh nonce. -/
def issue (s : System k) (i : Fin k) : System k :=
  { s.setPhase i (.answered (some (s.latest + 1))) with latest := s.latest + 1 }

/-- The dashboard accepts goroutine `i`'s request and issues a fresh nonce,
whose answer is lost. -/
def issueLost (s : System k) (i : Fin k) : System k :=
  { s.setPhase i (.answered none) with latest := s.latest + 1 }

@[simp] theorem setPhase_serviceNonce (s : System k) (i : Fin k) (p : Phase) :
    (s.setPhase i p).serviceNonce = s.serviceNonce := rfl

@[simp] theorem setPhase_latest (s : System k) (i : Fin k) (p : Phase) :
    (s.setPhase i p).latest = s.latest := rfl

@[simp] theorem setPhase_requests (s : System k) (i : Fin k) (p : Phase) :
    (s.setPhase i p).requests = s.requests := rfl

@[simp] theorem setPhase_phase (s : System k) (i j : Fin k) (p : Phase) :
    (s.setPhase i p).phase j = if j = i then p else s.phase j :=
  Function.update_apply _ _ _ _

/-- A property that every other goroutine's phase has survives moving
goroutine `i` to a phase that has it. -/
theorem setPhase_forall {P : Phase → Prop} {s : System k} {i : Fin k}
    (hs : ∀ j, j ≠ i → P (s.phase j)) {p : Phase} (hp : P p) (j : Fin k) :
    P ((s.setPhase i p).phase j) := by
  rw [setPhase_phase]
  split
  · exact hp
  · exact hs j ‹_›

@[simp] theorem log_serviceNonce (s : System k) (c : Nat) :
    (s.log c).serviceNonce = s.serviceNonce := rfl

@[simp] theorem log_latest (s : System k) (c : Nat) : (s.log c).latest = s.latest := rfl

@[simp] theorem log_phase (s : System k) (c : Nat) : (s.log c).phase = s.phase := rfl

@[simp] theorem log_requests (s : System k) (c : Nat) :
    (s.log c).requests = s.requests ++ [(c, s.latest)] := rfl

@[simp] theorem issue_serviceNonce (s : System k) (i : Fin k) :
    (s.issue i).serviceNonce = s.serviceNonce := rfl

@[simp] theorem issue_latest (s : System k) (i : Fin k) : (s.issue i).latest = s.latest + 1 := rfl

@[simp] theorem issue_requests (s : System k) (i : Fin k) : (s.issue i).requests = s.requests :=
  rfl

@[simp] theorem issue_phase (s : System k) (i j : Fin k) :
    (s.issue i).phase j = if j = i then .answered (some (s.latest + 1)) else s.phase j :=
  Function.update_apply _ _ _ _

@[simp] theorem issueLost_serviceNonce (s : System k) (i : Fin k) :
    (s.issueLost i).serviceNonce = s.serviceNonce := rfl

@[simp] theorem issueLost_latest (s : System k) (i : Fin k) :
    (s.issueLost i).latest = s.latest + 1 := rfl

@[simp] theorem issueLost_requests (s : System k) (i : Fin k) :
    (s.issueLost i).requests = s.requests := rfl

@[simp] theorem issueLost_phase (s : System k) (i j : Fin k) :
    (s.issueLost i).phase j = if j = i then .answered none else s.phase j :=
  Function.update_apply _ _ _ _

end System

section Step

variable (kind : Fin k → Task)

/-- One action of the schedule. -/
def step (s : System k) : Action k → System k
  | .read i =>
    match s.phase i with
    | .idle => if (kind i).sendsNonce then s.setPhase i (.holding s.serviceNonce) else s
    | _ => s
  | .send i =>
    match s.phase i with
    | .holding c =>
      if c = s.latest then (s.log c).issue i
      else (s.log c).setPhase i (if kind i = .heartbeat then .registering else .answered none)
    | .registering => s.issue i
    | .idle => if (kind i).sendsNonce then s else s.issue i
    | .answered _ => s
  | .fail i =>
    match s.phase i with
    | .holding _ | .registering => s.setPhase i (.answered none)
    | .idle => if (kind i).sendsNonce then s else s.setPhase i (.answered none)
    | .answered _ => s
  | .lose i =>
    match s.phase i with
    | .holding c =>
      if c = s.latest then (s.log c).issueLost i else (s.log c).setPhase i (.answered none)
    | .registering => s.issueLost i
    | .idle => if (kind i).sendsNonce then s else s.issueLost i
    | .answered _ => s
  | .store i =>
    match s.phase i with
    | .answered (some v) => { s.setPhase i .idle with serviceNonce := v }
    | .answered none => s.setPhase i .idle
    | _ => s

/-- A schedule run from `s`. -/
def run (s : System k) (acts : List (Action k)) : System k := acts.foldl (step kind) s

/-- `ServiceNonce` at each point of the run, the start included. -/
def storeTrace (s : System k) (acts : List (Action k)) : List Nat :=
  (acts.scanl (step kind) s).map System.serviceNonce

@[simp] theorem run_nil (s : System k) : run kind s [] = s := rfl

@[simp] theorem run_cons (s : System k) (a : Action k) (acts : List (Action k)) :
    run kind s (a :: acts) = run kind (step kind s a) acts := rfl

@[simp] theorem storeTrace_nil (s : System k) : storeTrace kind s [] = [s.serviceNonce] := rfl

@[simp] theorem storeTrace_cons (s : System k) (a : Action k) (acts : List (Action k)) :
    storeTrace kind s (a :: acts) = s.serviceNonce :: storeTrace kind (step kind s a) acts := rfl

/-- What one step of goroutine `i` can do to the state; the flag says whether
an answer is lost. -/
inductive Move (s : System k) (i : Fin k) : Bool → System k → Prop where
  | stay (lost : Bool) : Move s i lost s
  | read : s.phase i = .idle → (kind i).sendsNonce = true →
      Move s i false (s.setPhase i (.holding s.serviceNonce))
  | accept : s.phase i = .holding s.latest → Move s i false ((s.log s.latest).issue i)
  | reject (c : Nat) : s.phase i = .holding c → c ≠ s.latest →
      Move s i false
        ((s.log c).setPhase i (if kind i = .heartbeat then .registering else .answered none))
  /-- A registration is answered. -/
  | registered :
      s.phase i = .registering ∨ (s.phase i = .idle ∧ (kind i).sendsNonce = false) →
      Move s i false (s.issue i)
  | fail : (∀ v, s.phase i ≠ .answered v) →
      (s.phase i = .idle → (kind i).sendsNonce = false) →
      Move s i false (s.setPhase i (.answered none))
  /-- An accepted request whose answer is lost. -/
  | acceptLost : s.phase i = .holding s.latest → Move s i true ((s.log s.latest).issueLost i)
  /-- A rejected request whose answer is lost. -/
  | rejectLost (c : Nat) : s.phase i = .holding c → c ≠ s.latest →
      Move s i true ((s.log c).setPhase i (.answered none))
  /-- A registration whose answer is lost. -/
  | registeredLost :
      s.phase i = .registering ∨ (s.phase i = .idle ∧ (kind i).sendsNonce = false) →
      Move s i true (s.issueLost i)
  | storeSome (v : Nat) : s.phase i = .answered (some v) →
      Move s i false { s.setPhase i .idle with serviceNonce := v }
  | storeNone : s.phase i = .answered none → Move s i false (s.setPhase i .idle)

theorem step_move (s : System k) (a : Action k) : Move kind s a.task a.lost (step kind s a) := by
  cases a with
  | read i =>
    rcases hp : s.phase i with _ | c | _ | v <;> simp only [step, hp, Action.task, Action.lost] <;>
      try exact .stay _
    split
    · exact .read hp ‹_›
    · exact .stay _
  | send i =>
    rcases hp : s.phase i with _ | c | _ | v <;> simp only [step, hp, Action.task, Action.lost]
    · split <;> rename_i hk
      · exact .stay _
      · exact .registered (.inr ⟨hp, Bool.eq_false_iff.mpr hk⟩)
    · split
      · subst c; exact .accept hp
      · exact .reject c hp ‹_›
    · exact .registered (.inl hp)
    · exact .stay _
  | fail i =>
    rcases hp : s.phase i with _ | c | _ | v <;> simp only [step, hp, Action.task, Action.lost]
    · split <;> rename_i hk
      · exact .stay _
      · exact .fail (by simp [hp]) fun _ => Bool.eq_false_iff.mpr hk
    · exact .fail (by simp [hp]) (by simp [hp])
    · exact .fail (by simp [hp]) (by simp [hp])
    · exact .stay _
  | lose i =>
    rcases hp : s.phase i with _ | c | _ | v <;> simp only [step, hp, Action.task, Action.lost]
    · split <;> rename_i hk
      · exact .stay _
      · exact .registeredLost (.inr ⟨hp, Bool.eq_false_iff.mpr hk⟩)
    · split
      · subst c; exact .acceptLost hp
      · exact .rejectLost c hp ‹_›
    · exact .registeredLost (.inl hp)
    · exact .stay _
  | store i =>
    rcases hp : s.phase i with _ | c | _ | _ | v <;>
      simp only [step, hp, Action.task, Action.lost] <;> try exact .stay _
    · exact .storeNone hp
    · exact .storeSome v hp

/-- The guarantees asked of the nonce protocol on one run: each request
carries the nonce the dashboard issued last, and `ServiceNonce` never moves
back to an older nonce. -/
def NonceSafe (s : System k) (acts : List (Action k)) : Prop :=
  (∀ r ∈ (run kind s acts).requests, r.1 = r.2) ∧ (storeTrace kind s acts).Chain' (· ≤ ·)

/-- The goroutines of the race: a heartbeat, a policy fetch and a registration. -/
def raceKinds : Fin 3 → Task
  | 0 => .heartbeat
  | 1 => .policyFetch
  | 2 => .register

/-- Heartbeat and policy fetch read the same nonce; the heartbeat is accepted
first, so the fetch sends a stale nonce; a registration is answered and stored
while the heartbeat's answer waits, and the heartbeat then stores its older
nonce over the newer one. -/
def raceSchedule : List (Action 3) :=
  [.read 0, .read 1, .send 0, .send 1, .send 2, .store 2, .store 0]

theorem race_sends_and_stores_stale_nonce :
    (run raceKinds (init 0) raceSchedule).requests = [(0, 0), (0, 1)] ∧
      storeTrace raceKinds (init 0) raceSchedule = [0, 0, 0, 0, 0, 0, 2, 1] ∧
      ¬NonceSafe raceKinds (init 0) raceSchedule := by
  have hr : (run raceKinds (init 0) raceSchedule).requests = [(0, 0), (0, 1)] := by decide
  have ht : storeTrace raceKinds (init 0) raceSchedule = [0, 0, 0, 0, 0, 0, 2, 1] := by decide
  refine ⟨hr, ht, fun ⟨hreq, _⟩ => ?_⟩
  rw [hr] at hreq
  exact absurd (hreq (0, 1) (by simp)) (by decide)

/-! ### Runs whose actions meet a guard -/

/-- Every action of the schedule meets `G` at the state it is taken in. -/
def Guarded (G : System k → Action k → Prop) : System k → List (Action k) → Prop
  | _, [] => True
  | s, a :: acts => G s a ∧ Guarded G (step kind s a) acts

theorem storeTrace_head? (s : System k) (acts : List (Action k)) :
    (storeTrace kind s acts).head? = some s.serviceNonce := by
  cases acts <;> rfl

/-- If each guarded step keeps `P`, counting the answers lost, and does not
move `ServiceNonce` back, then so does each guarded run. -/
theorem run_of_step {P : Nat → System k → Prop} {G : System k → Action k → Prop}
    (hstep : ∀ lost s a, P lost s → G s a →
      P (lost + if a.lost then 1 else 0) (step kind s a) ∧
        s.serviceNonce ≤ (step kind s a).serviceNonce) :
    ∀ (acts : List (Action k)) (lost : Nat) (s : System k), P lost s → Guarded kind G s acts →
      P (lost + acts.countP Action.lost) (run kind s acts) ∧
        (storeTrace kind s acts).Chain' (· ≤ ·)
  | [], _, _, hP, _ => ⟨hP, List.chain'_singleton _⟩
  | a :: acts, lost, s, hP, ⟨hG, hrest⟩ => by
    obtain ⟨hP', hle⟩ := hstep lost s a hP hG
    obtain ⟨hrun, hchain⟩ := run_of_step hstep acts _ _ hP' hrest
    refine ⟨by rwa [List.countP_cons, Nat.add_comm (List.countP _ _), ← Nat.add_assoc], ?_⟩
    rw [storeTrace_cons, List.chain'_cons']
    refine ⟨fun y hy => ?_, hchain⟩
    rw [storeTrace_head?, Option.mem_some_iff] at hy
    exact hy ▸ hle

theorem guarded_true (s : System k) (acts : List (Action k)) :
    Guarded kind (fun _ _ => True) s acts := by
  induction acts generalizing s with
  | nil => trivial
  | cons a acts ih => exact ⟨trivial, ih _⟩

/-! ### Goroutines taking turns -/

/-- Every goroutine but the acting one is idle. -/
def Serial (s : System k) (a : Action k) : Prop := ∀ j, j ≠ a.task → s.phase j = .idle

/-- What the phase of the busy goroutine says of the store and the dashboard
when the goroutines take turns and `lost` answers were lost. -/
def TurnOK (s : System k) (lost : Nat) : Phase → Prop
  | .idle => True
  | .holding c => c = s.serviceNonce ∧ s.latest ≤ c + lost
  | .registering => s.latest ≤ s.serviceNonce + lost
  | .answered none => s.latest ≤ s.serviceNonce + lost
  | .answered (some v) => v = s.latest ∧ s.serviceNonce < s.latest

/-- The invariant of runs in which the goroutines take turns, after `lost`
lost answers: the dashboard is at most `lost` nonces ahead of `ServiceNonce`
unless an accepted answer waits, and so is each request's nonce. -/
structure SerialInv (s : System k) (lost : Nat) : Prop where
  turn : ∀ i, TurnOK s lost (s.phase i)
  all_idle : (∀ j, s.phase j = .idle) → s.latest ≤ s.serviceNonce + lost
  store_le : s.serviceNonce ≤ s.latest
  requests : ∀ r ∈ s.requests, r.1 ≤ r.2 ∧ r.2 ≤ r.1 + lost

theorem serialInv_init (n : Nat) : SerialInv (init n : System k) 0 :=
  ⟨fun _ => trivial, fun _ => le_rfl, le_rfl, fun _ h => by simp [init] at h⟩

theorem TurnOK.mono {s : System k} {lost lost' : Nat} {p : Phase} (h : TurnOK s lost p)
    (hle : lost ≤ lost') : TurnOK s lost' p := by
  rcases p with _ | c | _ | _ | v
  · trivial
  · exact ⟨h.1, by have := h.2; omega⟩
  all_goals first | exact h | (show _ ≤ _; have : _ ≤ _ := h; omega)

theorem SerialInv.mono {s : System k} {lost lost' : Nat} (h : SerialInv s lost)
    (hle : lost ≤ lost') : SerialInv s lost' :=
  ⟨fun i => (h.turn i).mono hle, fun hall => by have := h.all_idle hall; omega, h.store_le,
    fun r hr => by have := h.requests r hr; omega⟩

/-- A state where only goroutine `i` may be busy meets `SerialInv` when `i` does. -/
theorem SerialInv.of_acting {s : System k} {lost : Nat} (i : Fin k)
    (hothers : ∀ j, j ≠ i → s.phase j = .idle) (hturn : TurnOK s lost (s.phase i))
    (hidle : s.phase i = .idle → s.latest ≤ s.serviceNonce + lost)
    (hle : s.serviceNonce ≤ s.latest)
    (hreq : ∀ r ∈ s.requests, r.1 ≤ r.2 ∧ r.2 ≤ r.1 + lost) : SerialInv s lost :=
  ⟨fun j => if hj : j = i then hj ▸ hturn else by rw [hothers j hj]; trivial,
    fun hall => hidle (hall i), hle, hreq⟩

/-- A goroutine that holds no accepted answer, and is idle only when the
dashboard is at most `lost` nonces ahead, sees it at most `lost` ahead. -/
theorem TurnOK.gap {s : System k} {lost : Nat} {p : Phase} (h : TurnOK s lost p)
    (hidle : p = .idle → s.latest ≤ s.serviceNonce + lost) (hp : ∀ v, p ≠ .answered (some v)) :
    s.latest ≤ s.serviceNonce + lost := by
  rcases p with _ | c | _ | _ | v
  · exact hidle rfl
  · exact h.1 ▸ h.2
  · exact h
  · exact h
  · exact absurd rfl (hp v)

theorem serialInv_step {s : System k} {a : Action k} {lost : Nat} (h : SerialInv s lost)
    (hs : Serial s a) :
    SerialInv (step kind s a) (lost + if a.lost then 1 else 0) ∧
      s.serviceNonce ≤ (step kind s a).serviceNonce := by
  have hidle : s.phase a.task = .idle → s.latest ≤ s.serviceNonce + lost := fun hp =>
    h.all_idle fun j => if hj : j = a.task then hj ▸ hp else hs j hj
  have hturn := h.turn a.task
  have hothers : ∀ j, j ≠ a.task → s.phase j = .idle := hs
  have hm := step_move kind s a
  have hle := h.store_le
  generalize a.task = i at hidle hturn hothers hm
  generalize a.lost = b at hm ⊢
  generalize step kind s a = t at hm ⊢
  -- every other goroutine stays idle whatever phase `i` moves to
  have hoth : ∀ p j, j ≠ i → (s.setPhase i p).phase j = .idle := fun p j hj => by
    simp [hj, hothers j hj]
  -- a request logged from phase `holding c` keeps the bounds on requests
  have hlog : ∀ c, s.phase i = .holding c → ∀ extra r, r ∈ (s.log c).requests →
      r.1 ≤ r.2 ∧ r.2 ≤ r.1 + (lost + extra) := fun c hp extra r hr => by
    simp only [hp, TurnOK] at hturn
    simp only [System.log_requests, List.mem_append, List.mem_singleton] at hr
    rcases hr with hr | rfl
    · have := h.requests r hr; omega
    · dsimp only; omega
  cases hm
  all_goals try simp only [Bool.false_eq_true, eq_self_iff_true, reduceIte, Nat.add_zero]
  case stay => exact ⟨h.mono (Nat.le_add_right _ _), le_rfl⟩
  case read hp _ =>
    exact ⟨.of_acting i (hoth _) (by simp [TurnOK, hidle hp]) (by simp) hle h.requests, le_rfl⟩
  case accept hp =>
    simp only [hp, TurnOK] at hturn
    exact ⟨.of_acting i (hoth _) (by simp [TurnOK]; omega) (by simp) (by simp; omega)
      (hlog _ hp 0), le_rfl⟩
  case reject c hp hc =>
    simp only [hp, TurnOK] at hturn
    exact ⟨.of_acting i (hoth _) (by split <;> simp [TurnOK] <;> omega) (by split <;> simp) hle
      (hlog _ hp 0), le_rfl⟩
  case registered hp =>
    exact ⟨.of_acting i (hoth _) (by simp [TurnOK]; omega) (by simp) (by simp; omega)
      h.requests, le_rfl⟩
  case fail hnot _ =>
    have he := hturn.gap hidle fun v => hnot (some v)
    exact ⟨.of_acting i (hoth _) (by simp [TurnOK, he]) (by simp) hle h.requests, le_rfl⟩
  case acceptLost hp =>
    simp only [hp, TurnOK] at hturn
    exact ⟨.of_acting i (hoth _) (by simp [TurnOK]; omega) (by simp) (by simp; omega)
      (hlog _ hp 1), le_rfl⟩
  case rejectLost c hp hc =>
    simp only [hp, TurnOK] at hturn
    exact ⟨.of_acting i (hoth _) (by simp [TurnOK]; omega) (by simp) hle (hlog _ hp 1), le_rfl⟩
  case registeredLost hp =>
    have he := hturn.gap hidle fun v hv => by rcases hp with hp | ⟨hp, -⟩ <;> simp [hp] at hv
    exact ⟨.of_acting i (hoth _) (by simp [TurnOK]; omega) (by simp) (by simp; omega)
      (fun r hr => by have := h.requests r hr; omega), le_rfl⟩
  case storeSome v hp =>
    simp only [hp, TurnOK] at hturn
    refine ⟨.of_acting i (hoth _) (by simp [TurnOK]) (fun _ => by show s.latest ≤ v + _; omega)
      (by show v ≤ s.latest; omega) h.requests, ?_⟩
    show s.serviceNonce ≤ v
    omega
  case storeNone hp =>
    simp only [hp, TurnOK] at hturn
    exact ⟨.of_acting i (hoth _) (by simp [TurnOK]) (fun _ => hturn) hle h.requests, le_rfl⟩

/-- When the goroutines take turns, `ServiceNonce` never moves back, and each
request carries a nonce that is at most as many nonces behind the dashboard's
last as answers were lost in the run; with no answer lost, every request
carries the nonce the dashboard issued last. -/
theorem nonce_safe_when_taking_turns (n : Nat) (acts : List (Action k))
    (h : Guarded kind Serial (init n) acts) :
    (storeTrace kind (init n) acts).Chain' (· ≤ ·) ∧
      (∀ r ∈ (run kind (init n) acts).requests,
        r.1 ≤ r.2 ∧ r.2 ≤ r.1 + acts.countP Action.lost) ∧
      (acts.countP Action.lost = 0 → NonceSafe kind (init n) acts) := by
  obtain ⟨hinv, hchain⟩ := run_of_step kind (P := fun lost s => SerialInv s lost)
    (fun _ _ _ hI hG => serialInv_step kind hI hG) acts 0 _ (serialInv_init n) h
  rw [Nat.zero_add] at hinv
  exact ⟨hchain, hinv.requests, fun h0 =>
    ⟨fun r hr => by have := hinv.requests r hr; omega, hchain⟩⟩

/-- A heartbeat goroutine and a registration goroutine. -/
def turnKinds : Fin 2 → Task
  | 0 => .heartbeat
  | 1 => .register

/-- The heartbeat's accepted answer is lost, so its next request is stale; the
dashboard answers it `403`, the heartbeat registers and stores the new nonce,
and a registration follows. -/
def lostBeatSchedule : List (Action 2) :=
  [.read 0, .lose 0, .store 0, .read 0, .send 0, .send 0, .store 0, .send 1, .store 1]

theorem nonce_safe_when_taking_turns_lost_beat :
    Guarded turnKinds Serial (init 0) lostBeatSchedule ∧
      (run turnKinds (init 0) lostBeatSchedule).requests = [(0, 0), (0, 1)] ∧
      (storeTrace turnKinds (init 0) lostBeatSchedule).Chain' (· ≤ ·) ∧
      (∀ r ∈ (run turnKinds (init 0) lostBeatSchedule).requests,
        r.1 ≤ r.2 ∧ r.2 ≤ r.1 + lostBeatSchedule.countP Action.lost) ∧
      (lostBeatSchedule.countP Action.lost = 0 →
        NonceSafe turnKinds (init 0) lostBeatSchedule) := by
  have h : Guarded turnKinds Serial (init 0) lostBeatSchedule := by
    simp only [lostBeatSchedule, Guarded, Serial]
    decide
  exact ⟨h, by decide, nonce_safe_when_taking_turns turnKinds 0 _ h⟩

/-! ### Goroutines that never register -/

/-- The invariant of runs of goroutines that never register, after `lost`
lost answers: at most one accepted answer waits to be stored, it carries the
dashboard's last nonce and `ServiceNonce` is the one before; when none waits,
`ServiceNonce` is the last nonce, or, once an answer was lost, the one before. -/
structure Synced (s : System k) (lost : Nat) : Prop where
  holding_le : ∀ i c, s.phase i = .holding c → c ≤ s.serviceNonce
  answered_latest : ∀ i v, s.phase i = .answered (some v) →
    v = s.latest ∧ s.serviceNonce + 1 = s.latest
  answered_unique : ∀ i j v w, s.phase i = .answered (some v) →
    s.phase j = .answered (some w) → i = j
  caught_up : (∀ i v, s.phase i ≠ .answered (some v)) →
    s.serviceNonce = s.latest ∨ 0 < lost ∧ s.serviceNonce + 1 = s.latest
  not_registering : ∀ i, s.phase i ≠ .registering

theorem synced_init (n : Nat) : Synced (init n : System k) 0 := by
  refine ⟨?_, ?_, ?_, fun _ => .inl rfl, ?_⟩ <;> simp [init]

theorem Synced.mono {s : System k} {lost lost' : Nat} (h : Synced s lost) (hle : lost ≤ lost') :
    Synced s lost' :=
  ⟨h.holding_le, h.answered_latest, h.answered_unique,
    fun hn => (h.caught_up hn).imp_right fun ⟨h0, h1⟩ => ⟨by omega, h1⟩, h.not_registering⟩

theorem Synced.log {s : System k} {lost : Nat} (h : Synced s lost) (c : Nat) :
    Synced (s.log c) lost :=
  ⟨h.holding_le, h.answered_latest, h.answered_unique, h.caught_up, h.not_registering⟩

/-- Moving a goroutine that holds no accepted answer to a phase that is not
one either, nor `registering`, nor a nonce newer than the store, keeps `Synced`. -/
theorem Synced.setPhase {s : System k} {lost : Nat} (h : Synced s lost) {i : Fin k} {p : Phase}
    (hi : ∀ v, s.phase i ≠ .answered (some v)) (hp : ∀ v, p ≠ .answered (some v))
    (hr : p ≠ .registering) (hc : ∀ c, p = .holding c → c ≤ s.serviceNonce) :
    Synced (s.setPhase i p) lost := by
  have hne : ∀ j v, (s.setPhase i p).phase j = .answered (some v) →
      j ≠ i ∧ s.phase j = .answered (some v) :=
    fun j v hj => by
      by_cases hji : j = i
      · subst hji; simp at hj; exact absurd hj (hp v)
      · simpa [hji] using hj
  refine ⟨fun j c hj => ?_, fun j v hj => h.answered_latest j v (hne j v hj).2,
    fun j j' v w hj hj' => h.answered_unique j j' v w (hne j v hj).2 (hne j' w hj').2,
    fun hall => h.caught_up fun j v hj => ?_, fun j => ?_⟩
  · exact System.setPhase_forall (P := fun q => ∀ c, q = .holding c → c ≤ s.serviceNonce)
      (fun j _ => h.holding_le j) hc j c hj
  · by_cases hji : j = i
    · subst hji; exact hi v hj
    · exact hall j v (by simp [hji, hj])
  · exact System.setPhase_forall (P := (· ≠ .registering)) (fun j _ => h.not_registering j) hr j

/-- A goroutine holding the dashboard's last nonce sees no accepted answer
waiting and the store current. -/
theorem Synced.of_holding_latest {s : System k} {lost : Nat} (h : Synced s lost) {i : Fin k}
    (hp : s.phase i = .holding s.latest) :
    (∀ j v, s.phase j ≠ .answered (some v)) ∧ s.serviceNonce = s.latest := by
  have hc := h.holding_le i _ hp
  have hnone : ∀ j v, s.phase j ≠ .answered (some v) := fun j v hj => by
    have := (h.answered_latest j v hj).2
    omega
  exact ⟨hnone, by rcases h.caught_up hnone with h1 | ⟨-, h1⟩ <;> omega⟩

/-- Goroutines that never register. -/
def NeverRegisters (kind : Fin k → Task) : Prop :=
  ∀ i, kind i ≠ .heartbeat ∧ kind i ≠ .register

/-- A goroutine that never registers and is not registering makes no
registration. -/
theorem NeverRegisters.not_idle_register (hk : NeverRegisters kind) {s : System k} {i : Fin k}
    (hr : s.phase i ≠ .registering) (hp : s.phase i = .registering ∨
      (s.phase i = .idle ∧ (kind i).sendsNonce = false)) : False := by
  rcases hp with hp | ⟨-, hp⟩
  · exact hr hp
  · cases hki : kind i <;> simp_all [NeverRegisters, Task.sendsNonce]

theorem synced_step (hk : NeverRegisters kind) {s : System k} {lost : Nat} (h : Synced s lost)
    (a : Action k) :
    Synced (step kind s a) (lost + if a.lost then 1 else 0) ∧
      s.serviceNonce ≤ (step kind s a).serviceNonce := by
  have hm := step_move kind s a
  generalize a.task = i at hm
  generalize a.lost = b at hm ⊢
  generalize step kind s a = t at hm ⊢
  cases hm with
  | stay => exact ⟨h.mono (Nat.le_add_right _ _), le_rfl⟩
  | read hp _ => exact ⟨h.setPhase (by simp [hp]) (by simp) (by simp) (by simp), le_rfl⟩
  | accept hp =>
    obtain ⟨hnone, hcaught⟩ := h.of_holding_latest hp
    have honly : ∀ j v, ((s.log s.latest).issue i).phase j = .answered (some v) → j = i :=
      fun j v hj => by_contra fun hji => hnone j v (by simpa [hji] using hj)
    refine ⟨⟨fun j c hj => ?_, fun j v hj => ?_, fun j j' v w hj hj' => ?_, fun hall => ?_,
      fun j => ?_⟩, le_rfl⟩
    · exact System.setPhase_forall (s := s.log s.latest)
        (P := fun q => ∀ c, q = .holding c → c ≤ s.serviceNonce)
        (fun j _ => h.holding_le j) (by simp) j c hj
    · obtain rfl := honly j v hj
      simp at hj
      simp [← hj, hcaught]
    · rw [honly j v hj, honly j' w hj']
    · exact absurd (by simp) (hall i (s.latest + 1))
    · exact System.setPhase_forall (P := (· ≠ .registering)) (fun j _ => h.not_registering j)
        (by simp) j
  | reject c hp _ =>
    rw [if_neg (hk i).1]
    exact ⟨(h.log c).setPhase (by simp [hp]) (by simp) (by simp) (by simp), le_rfl⟩
  | registered hp => exact (NeverRegisters.not_idle_register kind hk (h.not_registering i) hp).elim
  | fail hnot _ =>
    exact ⟨h.setPhase (fun v => hnot (some v)) (by simp) (by simp) (by simp), le_rfl⟩
  | acceptLost hp =>
    obtain ⟨hnone, hcaught⟩ := h.of_holding_latest hp
    -- no accepted answer waits afterwards either
    have hnone' : ∀ j v, ((s.log s.latest).issueLost i).phase j ≠ .answered (some v) :=
      fun j v hj => by
        by_cases hji : j = i
        · subst hji; simp at hj
        · exact hnone j v (by simpa [hji] using hj)
    refine ⟨⟨fun j c hj => ?_, fun j v hj => absurd hj (hnone' j v),
      fun j _ v _ hj _ => absurd hj (hnone' j v), fun _ => .inr ⟨by simp, by simp; omega⟩,
      fun j => ?_⟩, le_rfl⟩
    · exact System.setPhase_forall (s := s.log s.latest)
        (P := fun q => ∀ c, q = .holding c → c ≤ s.serviceNonce)
        (fun j _ => h.holding_le j) (by simp) j c hj
    · exact System.setPhase_forall (P := (· ≠ .registering)) (fun j _ => h.not_registering j)
        (by simp) j
  | rejectLost c hp _ =>
    exact ⟨((h.log c).setPhase (by simp [hp]) (by simp) (by simp) (by simp)).mono
      (Nat.le_add_right _ _), le_rfl⟩
  | registeredLost hp =>
    exact (NeverRegisters.not_idle_register kind hk (h.not_registering i) hp).elim
  | storeSome v hp =>
    obtain ⟨hv, hsv⟩ := h.answered_latest i v hp
    -- the stored answer was the only one
    have hnone : ∀ j w, (s.setPhase i .idle).phase j ≠ .answered (some w) :=
      System.setPhase_forall (P := fun q => ∀ w, q ≠ .answered (some w))
        (fun j hji w hj => hji (h.answered_unique j i w v hj hp)) (by simp)
    refine ⟨⟨fun j c hj => ?_, fun j w hj => absurd hj (hnone j w),
      fun j _ w _ hj _ => absurd hj (hnone j w), fun _ => .inl hv, fun j => ?_⟩,
      by show s.serviceNonce ≤ v; omega⟩
    · exact System.setPhase_forall (P := fun q => ∀ c, q = .holding c → c ≤ v)
        (fun j _ c hj => by have := h.holding_le j c hj; omega) (by simp) j c hj
    · exact System.setPhase_forall (P := (· ≠ .registering)) (fun j _ => h.not_registering j)
        (by simp) j
  | storeNone hp => exact ⟨h.setPhase (by simp [hp]) (by simp) (by simp) (by simp), le_rfl⟩

/-- The states that follow `s₀`, once the dashboard is ahead of `ServiceNonce`
and no accepted answer waits: still none waits, no goroutine holds a nonce
newer than `ServiceNonce` or registers, `ServiceNonce` and the dashboard's
last nonce are those of `s₀`, and every request made since carries a nonce
older than the dashboard's last. -/
structure Stuck (s₀ s : System k) : Prop where
  none_waits : ∀ i v, s.phase i ≠ .answered (some v)
  holding_le : ∀ i c, s.phase i = .holding c → c ≤ s.serviceNonce
  not_registering : ∀ i, s.phase i ≠ .registering
  store_eq : s.serviceNonce = s₀.serviceNonce
  latest_eq : s.latest = s₀.latest
  stale : ∀ r ∈ s.requests, r ∈ s₀.requests ∨ r.1 < r.2

theorem Stuck.setPhase {s₀ s : System k} (h : Stuck s₀ s) {i : Fin k} {p : Phase}
    (hp : ∀ v, p ≠ .answered (some v)) (hr : p ≠ .registering)
    (hc : ∀ c, p = .holding c → c ≤ s.serviceNonce) : Stuck s₀ (s.setPhase i p) :=
  ⟨System.setPhase_forall (P := fun q => ∀ v, q ≠ .answered (some v)) (fun j _ => h.none_waits j)
      hp,
    System.setPhase_forall (P := fun q => ∀ c, q = .holding c → c ≤ s.serviceNonce)
      (fun j _ => h.holding_le j) hc,
    System.setPhase_forall (P := (· ≠ .registering)) (fun j _ => h.not_registering j) hr,
    h.store_eq, h.latest_eq, h.stale⟩

/-- A request made in a `Stuck` state is rejected and logged as stale. -/
theorem Stuck.log {s₀ s : System k} (h : Stuck s₀ s) (hlt : s₀.serviceNonce < s₀.latest)
    {c : Nat} (hc : c ≤ s.serviceNonce) : Stuck s₀ (s.log c) := by
  refine ⟨h.none_waits, h.holding_le, h.not_registering, h.store_eq, h.latest_eq, ?_⟩
  simp only [System.log_requests, List.mem_append, List.mem_singleton]
  rintro r (hr | rfl)
  · exact h.stale r hr
  · exact .inr (by have := h.store_eq; have := h.latest_eq; dsimp only; omega)

theorem stuck_step (hk : NeverRegisters kind) {s₀ s : System k}
    (hlt : s₀.serviceNonce < s₀.latest) (h : Stuck s₀ s) (a : Action k) :
    Stuck s₀ (step kind s a) := by
  have hm := step_move kind s a
  generalize a.task = i at hm
  generalize a.lost = b at hm
  generalize step kind s a = t at hm ⊢
  -- a goroutine of a stuck state never holds the dashboard's last nonce
  have hno : s.phase i ≠ .holding s.latest := fun hp => by
    have := h.holding_le i _ hp; have := h.store_eq; have := h.latest_eq; omega
  have hreg := NeverRegisters.not_idle_register kind hk (h.not_registering i)
  cases hm with
  | stay => exact h
  | read hp _ => exact h.setPhase (by simp) (by simp) (by simp)
  | accept hp => exact absurd hp hno
  | reject c hp _ =>
    rw [if_neg (hk i).1]
    exact (h.log hlt (h.holding_le i c hp)).setPhase (by simp) (by simp) (by simp)
  | registered hp => exact absurd hp hreg
  | fail => exact h.setPhase (by simp) (by simp) (by simp)
  | acceptLost hp => exact absurd hp hno
  | rejectLost c hp _ =>
    exact (h.log hlt (h.holding_le i c hp)).setPhase (by simp) (by simp) (by simp)
  | registeredLost hp => exact absurd hp hreg
  | storeSome v hp => exact absurd hp (h.none_waits i v)
  | storeNone => exact h.setPhase (by simp) (by simp) (by simp)

/-- For goroutines that never register, in every interleaving `ServiceNonce`
never moves back and the run ends in a `Synced` state: with no answer lost,
`ServiceNonce` is the dashboard's last nonce whenever no accepted answer waits.
Once an accepted answer is lost and none waits, no request is accepted again:
in every continuation `ServiceNonce` and the dashboard's nonce stay as they
are, and every later request carries a stale nonce. -/
theorem nonce_store_monotone_without_registration (hk : NeverRegisters kind) (n : Nat)
    (acts post : List (Action k)) :
    let s := run kind (init n) acts
    (storeTrace kind (init n) acts).Chain' (· ≤ ·) ∧ Synced s (acts.countP Action.lost) ∧
      ((∀ i v, s.phase i ≠ .answered (some v)) → s.serviceNonce < s.latest →
        Stuck s (run kind s post)) := by
  intro s
  obtain ⟨hs, hc⟩ := run_of_step kind (P := fun lost s => Synced s lost) (G := fun _ _ => True)
    (fun _ _ a hI _ => synced_step kind hk hI a) acts 0 _ (synced_init n) (guarded_true kind _ _)
  rw [Nat.zero_add] at hs
  refine ⟨hc, hs, fun hnone hlt => ?_⟩
  have h₀ : Stuck s s := ⟨hnone, hs.holding_le, hs.not_registering, rfl, rfl, fun r hr => .inl hr⟩
  exact (run_of_step kind (P := fun _ => Stuck s) (G := fun _ _ => True)
    (fun _ _ a hI _ => ⟨stuck_step kind hk hlt hI a, by
      rw [(stuck_step kind hk hlt hI a).store_eq, hI.store_eq]⟩)
    post 0 _ h₀ (guarded_true kind _ _)).1

/-- Two policy fetches: the first fetch's accepted answer is lost; the second
fetch then sends a stale nonce and is rejected. -/
theorem nonce_store_monotone_lost_fetch :
    NeverRegisters (fun _ : Fin 2 => Task.policyFetch) ∧
      (∀ i v, (run (fun _ : Fin 2 => Task.policyFetch) (init 0) [.read 0, .lose 0, .store 0]).phase
        i ≠ .answered (some v)) ∧
      (run (fun _ : Fin 2 => Task.policyFetch) (init 0) [.read 0, .lose 0, .store 0]).serviceNonce <
        (run (fun _ : Fin 2 => Task.policyFetch) (init 0) [.read 0, .lose 0, .store 0]).latest ∧
      Stuck (run (fun _ : Fin 2 => Task.policyFetch) (init 0) [.read 0, .lose 0, .store 0])
        (run (fun _ : Fin 2 => Task.policyFetch)
          (run (fun _ : Fin 2 => Task.policyFetch) (init 0) [.read 0, .lose 0, .store 0])
          [.read 1, .send 1, .store 1]) := by
  have hk : NeverRegisters (fun _ : Fin 2 => Task.policyFetch) := fun _ => ⟨by simp, by simp⟩
  have hidle : ∀ i, (run (fun _ : Fin 2 => Task.policyFetch) (init 0)
      [.read 0, .lose 0, .store 0]).phase i = .idle := by decide
  have hnone : ∀ i v, (run (fun _ : Fin 2 => Task.policyFetch) (init 0)
      [.read 0, .lose 0, .store 0]).phase i ≠ .answered (some v) := fun i v h => by
    rw [hidle] at h; cases h
  have hlt : (run (fun _ : Fin 2 => Task.policyFetch) (init 0)
      [.read 0, .lose 0, .store 0]).serviceNonce <
      (run (fun _ : Fin 2 => Task.policyFetch) (init 0) [.read 0, .lose 0, .store 0]).latest := by
    decide
  exact ⟨hk, hnone, hlt,
    (nonce_store_monotone_without_registration _ hk 0 [.read 0, .lose 0, .store 0]
      [.read 1, .send 1, .store 1]).2.2 hnone hlt⟩

end Step

end Nonce

end TykGateway
