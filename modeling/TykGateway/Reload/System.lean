import TykGateway.Reload.Coordinator
import TykGateway.Reload.DoReload

/-! # The reload loops acting on the gateway

`reloadLoop` calls `DoReload` on its own goroutine, so each `doReload` action
of the coordinator is one `DoReload` run on the gateway's registries. A state
of the system is the coordinator and the gateway; the `n`-th `DoReload` reads
the `n`-th answers of its sources.

The coordinator part of every run is a run of the coordinator model, and the
gateway part is the `DoReload` runs the coordinator started, in order. Every
invariant that `DoReload` keeps therefore holds after every schedule; the
policy registry being keyed by policy id is one.
-/

namespace TykGateway

open Coordinator

/-- The reload coordinator and the gateway its `DoReload` runs act on. -/
structure ReloadSystem where
  coord : Coordinator
  gw : Gateway

/-- How many `DoReload` runs a coordinator log records. -/
def reloadCount (log : List Event) : Nat := log.count .reloadStarted

/-- Whether the action starts a `DoReload` run from the coordinator state. -/
def startsReload (c : Coordinator) : Action → Bool
  | .doReload =>
    match c.phase with
    | .reloading _ => true
    | _ => false
  | _ => false

theorem reloadCount_step (c : Coordinator) (a : Action) :
    reloadCount (Coordinator.step c a).log =
      reloadCount c.log + if startsReload c a then 1 else 0 := by
  cases a with
  | receive isNil =>
    simp only [Coordinator.step, startsReload]
    split <;> simp [reloadQueueLoopReceive, reloadCount]
  | tick =>
    simp only [Coordinator.step, startsReload]
    split
    · unfold reloadLoopTick; split <;> simp [reloadCount]
    · simp
  | doReload => cases hp : c.phase <;> simp [Coordinator.step, startsReload, hp, reloadCount]
  | invokeNext =>
    simp only [Coordinator.step, startsReload]
    split
    · simp
    · unfold invokeCallback; split <;> simp [reloadCount]
    · simp
  | cancel => simp [Coordinator.step, startsReload]
  | exitReloadLoop => simp only [Coordinator.step, startsReload]; split <;> simp
  | exitQueueLoop => simp only [Coordinator.step, startsReload]; split <;> simp

theorem reloadCount_run_ge (c : Coordinator) :
    ∀ acts, reloadCount c.log ≤ reloadCount (Coordinator.run c acts).log
  | [] => le_rfl
  | a :: acts => by
    have := reloadCount_step c a
    have := reloadCount_run_ge (Coordinator.step c a) acts
    simp only [Coordinator.run_cons]
    omega

section Run

variable (reload : Nat → Gateway → Gateway)

/-- The `n`-th, `n+1`-th, … `DoReload` runs, `m` of them, in turn. -/
def reloadsFrom : Nat → Nat → Gateway → Gateway
  | _, 0, gw => gw
  | n, m + 1, gw => reloadsFrom (n + 1) m (reload n gw)

namespace ReloadSystem

/-- One action: the coordinator steps, and a started `DoReload` runs on the
gateway with the sources of its number. -/
def step (s : ReloadSystem) (a : Action) : ReloadSystem :=
  { coord := Coordinator.step s.coord a,
    gw := if startsReload s.coord a then reload (reloadCount s.coord.log) s.gw else s.gw }

/-- A schedule run from `s`. -/
def run (s : ReloadSystem) (acts : List Action) : ReloadSystem := acts.foldl (step reload) s

@[simp] theorem run_nil (s : ReloadSystem) : run reload s [] = s := rfl

@[simp] theorem run_cons (s : ReloadSystem) (a : Action) (acts : List Action) :
    run reload s (a :: acts) = run reload (step reload s a) acts := rfl

/-- The coordinator part of a run is the coordinator model's run. -/
theorem run_coord : ∀ (acts : List Action) (s : ReloadSystem),
    (run reload s acts).coord = Coordinator.run s.coord acts
  | [], _ => rfl
  | a :: acts, s => run_coord acts (step reload s a)

/-- The gateway part of a run is the `DoReload` runs its coordinator started. -/
theorem run_gw : ∀ (acts : List Action) (s : ReloadSystem),
    (run reload s acts).gw = reloadsFrom reload (reloadCount s.coord.log)
      (reloadCount (Coordinator.run s.coord acts).log - reloadCount s.coord.log) s.gw
  | [], s => by simp [reloadsFrom]
  | a :: acts, s => by
    have hstep := reloadCount_step s.coord a
    have hge := reloadCount_run_ge (Coordinator.step s.coord a) acts
    rw [run_cons, run_gw acts]
    simp only [step, Coordinator.run_cons]
    split <;> rename_i hs <;> simp only [hs, if_true, if_false, Bool.false_eq_true] at hstep
    · obtain ⟨m, hm⟩ : ∃ m, reloadCount (Coordinator.run (Coordinator.step s.coord a) acts).log -
          reloadCount s.coord.log = m + 1 := ⟨_, (Nat.succ_pred_eq_of_pos (by omega)).symm⟩
      rw [hm, reloadsFrom, hstep]
      congr 1
      omega
    · rw [hstep, Nat.add_zero]

/-- An invariant of the gateway that every `DoReload` run keeps holds after
every schedule. -/
theorem run_preserves (P : Gateway → Prop) (hP : ∀ n gw, P gw → P (reload n gw)) :
    ∀ (acts : List Action) (s : ReloadSystem), P s.gw → P (run reload s acts).gw
  | [], _, h => h
  | a :: acts, s, h => by
    refine run_preserves P hP acts _ ?_
    simp only [step]
    split
    · exact hP _ _ h
    · exact h

end ReloadSystem

end Run

/-! ### `DoReload` keeps the policy registry keyed -/

theorem keyed_doReload {conf : Config} {validate : APISpec → Option GoError}
    {loadGlobalApps : Gateway → Gateway} {polSrc : Nat → PolicySources}
    {apiSrc : Nat → APISources} {gw : Gateway} (h : Keyed gw.policiesByID)
    (hs : ∀ n, KeyedSource conf (polSrc n))
    (hl : ∀ g, (loadGlobalApps g).policiesByID = g.policiesByID) :
    Keyed (doReload conf validate loadGlobalApps polSrc apiSrc gw).1.policiesByID :=
  doReload_preserves conf validate loadGlobalApps polSrc apiSrc gw (fun g => Keyed g.policiesByID)
    (fun g hg => syncPhase_preserves
      (fun n gw => ExceptT.mk (some (syncPolicies conf (polSrc n) gw))) "policies" conf
      (fun a b => Keyed a.policiesByID → Keyed b.policiesByID) (fun _ => id)
      (fun h₁ h₂ => h₂ ∘ h₁) (fun n _ _ _ hr hk => hk.syncPolicies (hs n) (Option.some.inj hr))
      (fun _ => id) (.start g) hg)
    (fun g hg => show Keyed _ from (apiPhase_keeps conf validate apiSrc g).1.symm ▸ hg)
    (fun g hg => show Keyed (loadGlobalApps g).policiesByID from (hl g).symm ▸ hg)
    (fun _ => id) h

/-- One `DoReload` per coordinator reload: the `n`-th reads the `n`-th
answers of the policy and API sources. -/
def gatewayReload (conf : Config) (validate : APISpec → Option GoError)
    (loadGlobalApps : Gateway → Gateway) (polSrc : Nat → Nat → PolicySources)
    (apiSrc : Nat → Nat → APISources) (n : Nat) (gw : Gateway) : Gateway :=
  (doReload conf validate loadGlobalApps (polSrc n) (apiSrc n) gw).1

/-- For every schedule of the two reload goroutines from a fresh start, every
gateway and every sequence of source answers: the coordinator part runs as
the coordinator model does; the gateway is what the `DoReload` runs the
coordinator started make of it, in order, one per `reloadStarted` event; and
when every policy source answer is keyed and `loadGlobalApps` leaves the
policies alone, `policiesByID` maps each id to a policy with that id after
every schedule. -/
theorem reload_loops_keep_policies_keyed (conf : Config) (validate : APISpec → Option GoError)
    (loadGlobalApps : Gateway → Gateway) (polSrc : Nat → Nat → PolicySources)
    (apiSrc : Nat → Nat → APISources) (gw : Gateway) (acts : List Action)
    (hs : ∀ n m, KeyedSource conf (polSrc n m))
    (hl : ∀ g, (loadGlobalApps g).policiesByID = g.policiesByID) (h0 : Keyed gw.policiesByID) :
    (ReloadSystem.run (gatewayReload conf validate loadGlobalApps polSrc apiSrc)
        ⟨Coordinator.init, gw⟩ acts).coord = Coordinator.run Coordinator.init acts ∧
      (ReloadSystem.run (gatewayReload conf validate loadGlobalApps polSrc apiSrc)
        ⟨Coordinator.init, gw⟩ acts).gw =
          reloadsFrom (gatewayReload conf validate loadGlobalApps polSrc apiSrc) 0
            (reloadCount (Coordinator.run Coordinator.init acts).log) gw ∧
      Keyed (ReloadSystem.run (gatewayReload conf validate loadGlobalApps polSrc apiSrc)
        ⟨Coordinator.init, gw⟩ acts).gw.policiesByID := by
  refine ⟨ReloadSystem.run_coord _ acts _, ?_, ReloadSystem.run_preserves _
    (fun g => Keyed g.policiesByID) (fun n _ hg => keyed_doReload hg (hs n) hl) acts _ h0⟩
  rw [ReloadSystem.run_gw]
  simp [reloadCount, Coordinator.init]

/-- One callback, one tick and one reload from the dashboard. -/
theorem reload_loops_keep_policies_keyed_one_reload :
    let conf := { (default : Config) with
      policySource := "service", policyConnectionString := "http://dashboard" }
    let src : PolicySources :=
      ⟨.response 200 (.ok ([⟨⟨"", "5f1", "org", ∅, 0, 0, 0, 0⟩, ∅⟩], "nonce-1")),
        ⟨.ok [], false, none⟩, .ok [], .openError (.new "no file")⟩
    let api : APISources := ⟨.ok [], .ok [], []⟩
    let acts := [Action.receive false, .tick, .doReload, .invokeNext, .invokeNext]
    ((∀ _ _ : Nat, KeyedSource conf src) ∧
        (∀ g : Gateway, (id g).policiesByID = g.policiesByID) ∧
        Keyed (newGateway "u").policiesByID) ∧
      (ReloadSystem.run (gatewayReload conf (fun _ => none) id (fun _ _ => src) (fun _ _ => api))
          ⟨Coordinator.init, newGateway "u"⟩ acts).coord = Coordinator.run Coordinator.init acts ∧
      (ReloadSystem.run (gatewayReload conf (fun _ => none) id (fun _ _ => src) (fun _ _ => api))
          ⟨Coordinator.init, newGateway "u"⟩ acts).gw =
        reloadsFrom (gatewayReload conf (fun _ => none) id (fun _ _ => src) (fun _ _ => api)) 0
          (reloadCount (Coordinator.run Coordinator.init acts).log) (newGateway "u") ∧
      Keyed (ReloadSystem.run (gatewayReload conf (fun _ => none) id (fun _ _ => src)
        (fun _ _ => api)) ⟨Coordinator.init, newGateway "u"⟩ acts).gw.policiesByID :=
  let hs : ∀ _ _ : Nat, KeyedSource _ _ := fun _ _ => .inl rfl
  ⟨⟨hs, fun _ => rfl, keyed_empty⟩,
    reload_loops_keep_policies_keyed _ _ _ _ _ _ _ hs (fun _ => rfl) keyed_empty⟩

end TykGateway
