import TykGateway.Boot
import TykGateway.Reload.System

/-! # The start-up racing the reload loops

`start` starts `reloadLoop` and `reloadQueueLoop` before `startServer`, so
the writes the main goroutine makes to the gateway, in `Register` and at the
end of `startServer`, interleave with the reloads the loops start. Each
write is atomic: `SetNodeID` holds `nodeIDMu`, the nonce is set under
`ServiceNonceMutex`, and every `DoReload`, whichever goroutine calls it,
holds `reloadMu`. A run of the process is a schedule that interleaves the
main goroutine's writes, in order, with the actions of the loops, and the
`n`-th `DoReload` of the process reads the `n`-th answers of its sources.

`registerWrites` is `Register` as the writes it makes, and `startupWrites`
the main goroutine's writes up to the end of `startServer`. Applied in order
they give the gateway the `register` and `startServer` models leave, so the
schedule in which the loops wait for the main goroutine ends where
`startServer` does. Over every schedule, no `DoReload` is lost or run twice,
and an invariant that `DoReload` and the node id and nonce writes keep holds
throughout.

## Implementation notes

The senders of `reloadURLStructure` (the pub/sub and RPC listeners, the
control API handlers, `reLogin`) are the `receive` actions of the
coordinator. The writes of the heartbeat goroutine's `reLogin` are not
modelled.
-/

namespace TykGateway

/-- A write of the main goroutine to the gateway during the start-up. -/
inductive StartupWrite where
  /-- `SetNodeID`. -/
  | setNodeID (nodeID : String)
  /-- `ServiceNonce = val.Nonce`, under `ServiceNonceMutex`. -/
  | setServiceNonce (nonce : String)
  /-- `DoReload`, under `reloadMu`. -/
  | doReload
  deriving DecidableEq, Repr

namespace StartupWrite

/-- How many `DoReload` runs the write is. -/
def reloads : StartupWrite → Nat
  | doReload => 1
  | _ => 0

/-- The write on the gateway, after `n` `DoReload` runs of the process. -/
def apply (reload : Nat → Gateway → Gateway) (n : Nat) : StartupWrite → Gateway → Gateway
  | setNodeID nodeID, gw => gw.setNodeID nodeID
  | setServiceNonce nonce, gw => { gw with serviceNonce := nonce }
  | doReload, gw => reload n gw

end StartupWrite

/-- How many `DoReload` runs a list of writes holds. -/
def reloadsOf : List StartupWrite → Nat
  | [] => 0
  | w :: ws => w.reloads + reloadsOf ws

@[simp] theorem reloadsOf_nil : reloadsOf [] = 0 := rfl

@[simp] theorem reloadsOf_cons (w : StartupWrite) (ws : List StartupWrite) :
    reloadsOf (w :: ws) = w.reloads + reloadsOf ws := rfl

theorem reloadsOf_append : ∀ ws ws' : List StartupWrite,
    reloadsOf (ws ++ ws') = reloadsOf ws + reloadsOf ws'
  | [], _ => (Nat.zero_add _).symm
  | w :: ws, ws' => by
    rw [List.cons_append, reloadsOf_cons, reloadsOf_cons, reloadsOf_append ws ws', Nat.add_assoc]

section Writes

variable (reload : Nat → Gateway → Gateway)

/-- The writes in order, the first after `n` `DoReload` runs of the process. -/
def applyWrites : Nat → List StartupWrite → Gateway → Gateway
  | _, [], gw => gw
  | n, w :: ws, gw => applyWrites (n + w.reloads) ws (w.apply reload n gw)

theorem applyWrites_append : ∀ (n : Nat) (ws ws' : List StartupWrite) (gw : Gateway),
    applyWrites reload n (ws ++ ws') gw =
      applyWrites reload (n + reloadsOf ws) ws' (applyWrites reload n ws gw)
  | _, [], _, _ => rfl
  | n, w :: ws, ws', gw => by
    rw [List.cons_append, applyWrites, applyWrites, applyWrites_append, reloadsOf_cons,
      Nat.add_assoc]

/-- With the same `DoReload` at every run, the count before the writes does
not matter. -/
theorem applyWrites_const (doReload : Gateway → Gateway) :
    ∀ (n : Nat) (ws : List StartupWrite) (gw : Gateway),
      applyWrites (fun _ => doReload) n ws gw = applyWrites (fun _ => doReload) 0 ws gw
  | _, [], _ => rfl
  | n, w :: ws, gw => by
    rw [applyWrites, applyWrites, applyWrites_const _ (n + _), applyWrites_const _ (0 + _)]
    cases w <;> rfl

/-- A property that every `DoReload` run and the node id and nonce writes
keep holds after the writes. -/
theorem applyWrites_preserves (P : Gateway → Prop) (hr : ∀ n gw, P gw → P (reload n gw))
    (hn : ∀ gw nodeID, P gw → P (gw.setNodeID nodeID))
    (hc : ∀ gw nonce, P gw → P { gw with serviceNonce := nonce }) :
    ∀ (n : Nat) (ws : List StartupWrite) (gw : Gateway), P gw → P (applyWrites reload n ws gw)
  | _, [], _, h => h
  | n, w :: ws, gw, h => by
    refine applyWrites_preserves P hr hn hc _ ws _ ?_
    cases w with
    | setNodeID nodeID => exact hn gw nodeID h
    | setServiceNonce nonce => exact hc gw nonce h
    | doReload => exact hr n gw h

end Writes

/-! ### `Register` and `startServer` as writes -/

section Register

variable (ctxDone : Nat → Option GoError) (answers : List RegisterAnswer)

/-- `Register(ctx)` from its `w`-th wait on, as the writes it makes: the
error it returns and its writes to the gateway, in order, or `none` when the
answers run out first. -/
def registerWrites : Nat → List RegisterAnswer → Option (Option GoError × List StartupWrite)
  | _, [] => none
  | w, a :: rest =>
    let retry (ws : List StartupWrite) : Option (Option GoError × List StartupWrite) :=
      match ctxDone w with
      | some e => some (some e, ws)
      | none => (registerWrites (w + 1) rest).map fun r => (r.1, ws ++ r.2)
    match a with
    | .requestFailed _ => retry []
    | .response status body =>
      if status = 409 then some (none, [])
      else if status ≠ 200 then retry []
      else
        match body with
        | .error e => some (some e, [])
        | .ok val =>
          let nodeID := (val.message.lookup "NodeID").getD ""
          if (val.message.lookup "NodeID").isSome then
            some (none, [.setNodeID nodeID, .setServiceNonce val.nonce, .doReload])
          else retry [.setNodeID nodeID]

/-- Applied in order, the writes of `Register` give the gateway the
`register` model leaves, for every `DoReload`. -/
theorem register_eq_applyWrites (doReload : Gateway → Gateway) :
    ∀ (w : Nat) (answers : List RegisterAnswer) (gw : Gateway),
      register doReload ctxDone w answers gw = (registerWrites ctxDone w answers).map
        fun r => (r.1, applyWrites (fun _ => doReload) 0 r.2 gw)
  | _, [], _ => rfl
  | w, a :: rest, gw => by
    have hretry : ∀ ws : List StartupWrite,
        (match ctxDone w with
          | some e => some (some e, applyWrites (fun _ => doReload) 0 ws gw)
          | none => register doReload ctxDone (w + 1) rest
              (applyWrites (fun _ => doReload) 0 ws gw)) =
          (match ctxDone w with
            | some e => some (some e, ws)
            | none => (registerWrites ctxDone (w + 1) rest).map
                fun r : Option GoError × List StartupWrite => (r.1, ws ++ r.2)).map
            fun r : Option GoError × List StartupWrite =>
              (r.1, applyWrites (fun _ => doReload) 0 r.2 gw) := fun ws => by
      cases ctxDone w with
      | some e => rfl
      | none =>
        dsimp only
        rw [register_eq_applyWrites doReload (w + 1) rest, Option.map_map]
        congr 1
        funext r
        simp only [Function.comp_apply, applyWrites_append]
        rw [applyWrites_const _ (0 + reloadsOf ws)]
    cases a with
    | requestFailed e => exact hretry []
    | response status body =>
      dsimp only [register, registerWrites]
      by_cases h409 : status = 409
      · rw [if_pos h409, if_pos h409]
        rfl
      rw [if_neg h409, if_neg h409]
      by_cases h200 : status ≠ 200
      · rw [if_pos h200, if_pos h200]
        exact hretry []
      rw [if_neg h200, if_neg h200]
      rcases body with e | val
      · rfl
      dsimp only
      by_cases hn : (val.message.lookup "NodeID").isSome
      · rw [if_pos hn, if_pos hn]
        rfl
      · rw [if_neg hn, if_neg hn]
        exact hretry [.setNodeID _]

/-- `Register` makes at most one `DoReload` run. -/
theorem reloadsOf_registerWrites_le : ∀ (w : Nat) (answers : List RegisterAnswer)
    (e : Option GoError) (ws : List StartupWrite),
    registerWrites ctxDone w answers = some (e, ws) → reloadsOf ws ≤ 1
  | _, [], _, _, h => by simp [registerWrites] at h
  | w, a :: rest, e, ws, h => by
    have hretry : ∀ ws₀, reloadsOf ws₀ = 0 → (match ctxDone w with
        | some e => some (some e, ws₀)
        | none => (registerWrites ctxDone (w + 1) rest).map
            fun r : Option GoError × List StartupWrite => (r.1, ws₀ ++ r.2)) =
          some (e, ws) → reloadsOf ws ≤ 1 := fun ws₀ h₀ hr => by
      cases hc : ctxDone w with
      | some e' =>
        simp only [hc, Option.some.injEq, Prod.mk.injEq] at hr
        rw [← hr.2, h₀]
        omega
      | none =>
        simp only [hc, Option.map_eq_some'] at hr
        obtain ⟨⟨e', ws'⟩, hw, he⟩ := hr
        simp only [Prod.mk.injEq] at he
        rw [← he.2, reloadsOf_append, h₀, Nat.zero_add]
        exact reloadsOf_registerWrites_le (w + 1) rest e' ws' hw
    cases a with
    | requestFailed _ => exact hretry [] rfl h
    | response status body =>
      dsimp only [registerWrites] at h
      by_cases h409 : status = 409
      · rw [if_pos h409] at h
        cases Option.some.inj h
        decide
      rw [if_neg h409] at h
      by_cases h200 : status ≠ 200
      · rw [if_pos h200] at h
        exact hretry [] rfl h
      rw [if_neg h200] at h
      rcases body with e' | val
      · cases Option.some.inj h
        decide
      dsimp only at h
      by_cases hn : (val.message.lookup "NodeID").isSome
      · rw [if_pos hn] at h
        cases Option.some.inj h
        exact Nat.le_refl 1
      · rw [if_neg hn] at h
        exact hretry [.setNodeID _] rfl h

/-- The main goroutine's writes from `handleDashboardRegistration` to the
`DoReload` that ends `startServer`. -/
def startupWrites (conf : Config) : ExceptT BootFatal Option (List StartupWrite) :=
  if conf.useDBAppConfigs = false then pure [.doReload]
  else do
    let _ ← dashboardServiceInit conf none
    let (_, ws) ← ExceptT.lift (registerWrites ctxDone 0 answers)
    pure (ws ++ [.doReload])

/-- The start-up makes one or two `DoReload` runs. -/
theorem reloadsOf_startupWrites {conf : Config} {ws : List StartupWrite}
    (h : (startupWrites ctxDone answers conf).run = some (.ok ws)) :
    1 ≤ reloadsOf ws ∧ reloadsOf ws ≤ 2 := by
  unfold startupWrites at h
  split_ifs at h
  · cases Except.ok.inj (Option.some.inj h)
    decide
  · obtain ⟨_, -, h⟩ := exceptT_run_bind_eq_ok.mp h
    obtain ⟨⟨e, ws'⟩, hr, h⟩ := exceptT_run_bind_eq_ok.mp h
    cases Except.ok.inj (Option.some.inj h)
    simp only [ExceptT.run_lift] at hr
    obtain ⟨_, hreg, he⟩ := Option.map_eq_some'.mp hr
    cases Except.ok.inj he
    have := reloadsOf_registerWrites_le ctxDone 0 answers e ws' hreg
    rw [reloadsOf_append]
    exact ⟨Nat.le_add_left _ _, Nat.add_le_add_right this 1⟩

/-- Applied in order, the main goroutine's writes give the gateway
`startServer` leaves, and `startServer` stops, or does not return, where they
do. -/
theorem startServer_eq_applyWrites (doReload : Gateway → Gateway) (hostname : String)
    (conf : Config) (opts : BootOptions) (gw : Gateway) :
    (gw.startServer doReload ctxDone answers hostname conf opts).run.map
        (Except.map ServerStarted.gw) =
      (startupWrites ctxDone answers conf).run.map
        (Except.map fun ws => applyWrites (fun _ => doReload) 0 ws gw) := by
  unfold Gateway.startServer handleDashboardRegistration startupWrites
  split_ifs
  · rfl
  · simp only [ExceptT.run_bind, ExceptT.run_lift, register_eq_applyWrites]
    rcases (dashboardServiceInit conf none).run with _ | _ | _
    · rfl
    · rfl
    · rcases registerWrites ctxDone 0 answers with _ | ⟨_, ws⟩
      · rfl
      · simp [Except.map, applyWrites_append, applyWrites, StartupWrite.apply]

end Register

/-! ### The process -/

/-- The reload loops, the gateway, and the writes the main goroutine has
still to make. -/
structure Process where
  coord : Coordinator
  gw : Gateway
  pending : List StartupWrite
  /-- How many `DoReload` runs have started, on any goroutine. -/
  reloads : Nat

/-- One step of the process. -/
inductive ProcessAction where
  /-- The main goroutine makes its next write; it has nothing more to do
  once its writes are made. -/
  | main
  /-- An action of the reload loops. -/
  | loop (a : Coordinator.Action)

/-- The actions of the reload loops in a schedule. -/
def loopActions : List ProcessAction → List Coordinator.Action
  | [] => []
  | .main :: acts => loopActions acts
  | .loop a :: acts => a :: loopActions acts

namespace Process

variable (reload : Nat → Gateway → Gateway)

/-- One step: a `DoReload`, on either side, runs with the sources of its
number in the process. -/
def step (s : Process) : ProcessAction → Process
  | .main =>
    match s.pending with
    | [] => s
    | w :: ws => ⟨s.coord, w.apply reload s.reloads s.gw, ws, s.reloads + w.reloads⟩
  | .loop a =>
    if startsReload s.coord a then
      ⟨Coordinator.step s.coord a, reload s.reloads s.gw, s.pending, s.reloads + 1⟩
    else ⟨Coordinator.step s.coord a, s.gw, s.pending, s.reloads⟩

/-- A schedule run from `s`. -/
def run (s : Process) (acts : List ProcessAction) : Process := acts.foldl (step reload) s

@[simp] theorem run_nil (s : Process) : run reload s [] = s := rfl

@[simp] theorem run_cons (s : Process) (a : ProcessAction) (acts : List ProcessAction) :
    run reload s (a :: acts) = run reload (step reload s a) acts := rfl

/-- What one step can do: the main goroutine makes its next write, or the
loops step and the `DoReload` they start runs. -/
theorem step_cases (s : Process) (a : ProcessAction) :
    (∃ w ws, a = .main ∧ s.pending = w :: ws ∧
        step reload s a = ⟨s.coord, w.apply reload s.reloads s.gw, ws, s.reloads + w.reloads⟩) ∨
      (a = .main ∧ s.pending = [] ∧ step reload s a = s) ∨
      ∃ c, a = .loop c ∧ step reload s a =
        ⟨Coordinator.step s.coord c, if startsReload s.coord c then reload s.reloads s.gw else s.gw,
          s.pending, s.reloads + if startsReload s.coord c then 1 else 0⟩ := by
  cases a with
  | main =>
    cases h : s.pending with
    | nil => exact .inr (.inl ⟨rfl, rfl, by simp only [step, h]⟩)
    | cons w ws => exact .inl ⟨w, ws, rfl, rfl, by simp only [step, h]⟩
  | loop c =>
    refine .inr (.inr ⟨c, rfl, ?_⟩)
    simp only [step]
    split <;> rfl

/-- The loops' part of a run is the coordinator model's run of their
actions. -/
theorem run_coord : ∀ (acts : List ProcessAction) (s : Process),
    (run reload s acts).coord = Coordinator.run s.coord (loopActions acts)
  | [], _ => rfl
  | a :: acts, s => by
    rw [run_cons, run_coord acts]
    rcases step_cases reload s a with ⟨w, ws, rfl, -, hs⟩ | ⟨rfl, -, hs⟩ | ⟨c, rfl, hs⟩ <;>
      rw [hs] <;> rfl

/-- The main goroutine makes its writes in order: what it has still to make
is a suffix of what it had. -/
theorem run_pending_suffix : ∀ (acts : List ProcessAction) (s : Process),
    (run reload s acts).pending <:+ s.pending
  | [], _ => List.suffix_refl _
  | a :: acts, s => by
    refine (run_pending_suffix acts _).trans ?_
    rcases step_cases reload s a with ⟨w, ws, -, hp, hs⟩ | ⟨-, -, hs⟩ | ⟨c, -, hs⟩ <;> rw [hs]
    exact hp ▸ List.suffix_cons w ws

/-- No `DoReload` is lost or run twice: the runs started, with those the
main goroutine has still to make, are the main goroutine's and the loops'. -/
theorem run_reloads : ∀ (acts : List ProcessAction) (s : Process),
    (run reload s acts).reloads + reloadsOf (run reload s acts).pending + reloadCount s.coord.log =
      s.reloads + reloadsOf s.pending + reloadCount (run reload s acts).coord.log
  | [], _ => rfl
  | a :: acts, s => by
    have ih := run_reloads acts (step reload s a)
    rw [run_cons]
    rcases step_cases reload s a with ⟨w, ws, -, hp, hs⟩ | ⟨-, -, hs⟩ | ⟨c, -, hs⟩ <;>
      rw [hs] at ih ⊢
    · dsimp only at ih
      rw [hp, reloadsOf_cons]
      omega
    · exact ih
    · have := reloadCount_step s.coord c
      dsimp only at ih
      omega

/-- An invariant of the gateway that every `DoReload` run and the node id
and nonce writes keep holds after every schedule. -/
theorem run_preserves (P : Gateway → Prop) (hr : ∀ n gw, P gw → P (reload n gw))
    (hn : ∀ gw nodeID, P gw → P (gw.setNodeID nodeID))
    (hc : ∀ gw nonce, P gw → P { gw with serviceNonce := nonce }) :
    ∀ (acts : List ProcessAction) (s : Process), P s.gw → P (run reload s acts).gw
  | [], _, h => h
  | a :: acts, s, h => by
    refine run_preserves P hr hn hc acts _ ?_
    rcases step_cases reload s a with ⟨w, ws, -, -, hs⟩ | ⟨-, -, hs⟩ | ⟨c, -, hs⟩ <;> rw [hs]
    · exact applyWrites_preserves reload P hr hn hc s.reloads [w] s.gw h
    · exact h
    · split
      · exact hr _ _ h
      · exact h

/-- While the loops do nothing, the main goroutine's writes are applied in
order. -/
theorem run_main : ∀ (c : Coordinator) (gw : Gateway) (ws : List StartupWrite) (n : Nat),
    run reload ⟨c, gw, ws, n⟩ (List.replicate ws.length .main) =
      ⟨c, applyWrites reload n ws gw, [], n + reloadsOf ws⟩
  | _, _, [], _ => rfl
  | c, gw, w :: ws, n => by
    rw [List.length_cons, List.replicate_succ, run_cons]
    simp only [step]
    rw [run_main, applyWrites, reloadsOf_cons, Nat.add_assoc]

end Process

/-! ### The start-up and the reload loops -/

/-- For every dashboard, context, `DoReload`, gateway and configuration:
`startServer` leaves the gateway that the process reaches on the schedule in
which the reload loops wait until the main goroutine has made all its
writes, and it stops with the same `log.Fatal`, or does not return, exactly
when the main goroutine's writes do. -/
theorem startServer_is_sequential_schedule (doReload : Gateway → Gateway)
    (ctxDone : Nat → Option GoError) (answers : List RegisterAnswer) (hostname : String)
    (conf : Config) (opts : BootOptions) (gw : Gateway) :
    (gw.startServer doReload ctxDone answers hostname conf opts).run.map
        (Except.map ServerStarted.gw) =
      (startupWrites ctxDone answers conf).run.map (Except.map fun ws =>
        (Process.run (fun _ => doReload) ⟨Coordinator.init, gw, ws, 0⟩
          (List.replicate ws.length .main)).gw) := by
  rw [startServer_eq_applyWrites]
  simp only [Process.run_main]

/-- For every configuration, dashboard, context and sequence of source
answers, and every schedule that interleaves the main goroutine's start-up
writes with the actions of the reload loops, from the loops `start` started
and the gateway `NewGateway` made, the `n`-th `DoReload` of the process
reading the `n`-th answers: the loops run as the coordinator model runs their
actions; the main goroutine makes its writes in order; it makes one or two
`DoReload` runs, and every run started is one of those or one the loops
started, none lost and none run twice; and when every policy source answer
is keyed and `loadGlobalApps` leaves the policies alone, `policiesByID` maps
each id to a policy with that id. -/
theorem startup_races_reload_loops (conf : Config) (validate : APISpec → Option GoError)
    (loadGlobalApps : Gateway → Gateway)
    (polSrc : Nat → Nat → PolicySources) (apiSrc : Nat → Nat → APISources)
    (ctxDone : Nat → Option GoError) (answers : List RegisterAnswer) (uuid : String)
    {ws : List StartupWrite} (acts : List ProcessAction)
    (hw : (startupWrites ctxDone answers conf).run = some (.ok ws))
    (hs : ∀ n m, KeyedSource conf (polSrc n m))
    (hl : ∀ g, (loadGlobalApps g).policiesByID = g.policiesByID) :
    let s := Process.run (gatewayReload conf validate loadGlobalApps polSrc apiSrc)
      ⟨Coordinator.init, newGateway uuid, ws, 0⟩ acts
    s.coord = Coordinator.run Coordinator.init (loopActions acts) ∧ s.pending <:+ ws ∧
      s.reloads + reloadsOf s.pending = reloadsOf ws + reloadCount s.coord.log ∧
      1 ≤ reloadsOf ws ∧ reloadsOf ws ≤ 2 ∧ Keyed s.gw.policiesByID := by
  intro s
  have hr := Process.run_reloads (gatewayReload conf validate loadGlobalApps polSrc apiSrc) acts
    ⟨Coordinator.init, newGateway uuid, ws, 0⟩
  simp only [Coordinator.init, reloadCount, List.count_nil, Nat.add_zero, Nat.zero_add] at hr
  obtain ⟨h₁, h₂⟩ := reloadsOf_startupWrites ctxDone answers hw
  exact ⟨Process.run_coord _ acts _, Process.run_pending_suffix _ acts _, hr, h₁, h₂,
    Process.run_preserves (gatewayReload conf validate loadGlobalApps polSrc apiSrc)
      (fun g => Keyed g.policiesByID) (fun n _ hg => keyed_doReload hg (hs n) hl)
      (fun _ _ => id) (fun _ _ => id) acts ⟨Coordinator.init, newGateway uuid, ws, 0⟩ keyed_empty⟩


/-- `dashboardConf` with the dashboard as the policy source. -/
def dashboardPolicyConf : Config :=
  { dashboardConf with policySource := "service", policyConnectionString := "http://dashboard" }

/-- The dashboard as the policy source, with one policy. -/
def dashboardPolicySource : PolicySources :=
  ⟨.response 200 (.ok ([⟨⟨"", "5f1", "org", ∅, 0, 0, 0, 0⟩, ∅⟩], "nonce-1")),
    ⟨.ok [], false, none⟩, .ok [], .openError (.new "no file")⟩

/-- A callback queued before the registration: the loops reload between
`Register`'s nonce write and its `DoReload`. -/
def racingSchedule : List ProcessAction :=
  [.loop (.receive false), .main, .main, .loop .tick, .loop .doReload, .main, .main,
    .loop .invokeNext, .loop .invokeNext]

/-- The registration of `nodeIDAnswer` racing the loops on `racingSchedule`:
three `DoReload` runs, the loops' one and the main goroutine's two. -/
theorem startup_races_reload_loops_registration :
    (let s := Process.run (gatewayReload dashboardPolicyConf
        (fun _ => none) id (fun _ _ => dashboardPolicySource) (fun _ _ => ⟨.ok [], .ok [], []⟩))
        ⟨Coordinator.init, newGateway "u",
          [.setNodeID "n-1", .setServiceNonce "c-1", .doReload, .doReload], 0⟩ racingSchedule;
      s.reloads = 3 ∧ s.pending = []) ∧
    ((startupWrites (fun _ => none) [nodeIDAnswer] dashboardPolicyConf).run =
        some (.ok [.setNodeID "n-1", .setServiceNonce "c-1", .doReload, .doReload]) ∧
      (∀ _ _ : Nat, KeyedSource dashboardPolicyConf
        dashboardPolicySource) ∧
      ∀ g : Gateway, (id g).policiesByID = g.policiesByID) ∧
    let s := Process.run (gatewayReload dashboardPolicyConf
      (fun _ => none) id (fun _ _ => dashboardPolicySource) (fun _ _ => ⟨.ok [], .ok [], []⟩))
      ⟨Coordinator.init, newGateway "u",
        [.setNodeID "n-1", .setServiceNonce "c-1", .doReload, .doReload], 0⟩ racingSchedule
    s.coord = Coordinator.run Coordinator.init (loopActions racingSchedule) ∧
      s.pending <:+ [.setNodeID "n-1", .setServiceNonce "c-1", .doReload, .doReload] ∧
      s.reloads + reloadsOf s.pending =
        reloadsOf [.setNodeID "n-1", .setServiceNonce "c-1", .doReload, .doReload] +
          reloadCount s.coord.log ∧
      1 ≤ reloadsOf [.setNodeID "n-1", .setServiceNonce "c-1", .doReload, .doReload] ∧
      reloadsOf [.setNodeID "n-1", .setServiceNonce "c-1", .doReload, .doReload] ≤ 2 ∧
      Keyed s.gw.policiesByID :=
  ⟨by decide, ⟨rfl, fun _ _ => .inl rfl, fun _ => rfl⟩,
    startup_races_reload_loops dashboardPolicyConf
      (fun _ => none) id (fun _ _ => dashboardPolicySource) (fun _ _ => ⟨.ok [], .ok [], []⟩)
      (fun _ => none) [nodeIDAnswer] "u" racingSchedule rfl (fun _ _ => .inl rfl) fun _ => rfl⟩

end TykGateway
