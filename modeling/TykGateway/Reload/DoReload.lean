import TykGateway.Reload.SyncRetry
import TykGateway.Policy.Registry

/-! # `DoReload`

`DoReload` syncs the policies, then the API specs, each through
`syncResourcesWithReload`, and then rebuilds the API registry with
`loadGlobalApps`, unless the API source reported no API and `apisByID` was
already empty. Each sync installs what it loaded as soon as it succeeds:
`syncPolicies` assigns `policiesByID` before the API sync runs, and
`syncAPISpecs` assigns `apiSpecs` before the empty-registry check.

Two calls can stop the process instead of returning: `syncPolicies`, with the
dashboard as policy source and no policy connection string (`log.Fatal`), and
`syncAPISpecs`, with the dashboard as API source and no connection string, in
`buildDashboardConnStr` (`log.Fatal` when zeroconf is disabled, a wait that
never ends otherwise).

## Implementation notes

The `n`-th call of a sync function reads the `n`-th answer of its source, so
every sequence of answers is covered. A call that stops the process is
recorded in the state the calls pass on, `SyncState`; the calls after it do
nothing, and `DoReload` reports the stop with the gateway as it was there.
`loadGlobalApps` is declared outside the modelled files and is a parameter;
so is `APISpec.Validate`.
-/

namespace TykGateway

/-- What the configured API source gives one call of `syncAPISpecs`. -/
structure APISources where
  /-- `loader.FromDashboardService(connStr)`. -/
  dashboard : Except GoError (List APISpec)
  /-- `loader.FromRPC(dataLoader, RPCKey, gw)`. -/
  rpc : Except GoError (List APISpec)
  /-- `loader.FromDir(AppPath)`. -/
  dir : List APISpec

/-- The specs loaded from the configured source; the dashboard is asked at
the URL `buildDashboardConnStr` builds. -/
def loadAPISpecs (conf : Config) (src : APISources) :
    ExceptT DashboardFatal Option (Except GoError (List APISpec)) :=
  if conf.useDBAppConfigs then do
    let _ ← buildDashboardConnStr conf "/system/apis"
    pure src.dashboard
  else if conf.useRPC then pure src.rpc
  else pure (.ok src.dir)

/-- The auth overrides of `syncAPISpecs`, then the specs that pass `Validate`. -/
def validatedSpecs (conf : Config) (validate : APISpec → Option GoError) (s : List APISpec) :
    List APISpec :=
  let s := if conf.forceAuthProvider then
      s.map fun a => { a with authProvider := conf.authProvider }
    else s
  let s := if conf.forceSessionProvider then
      s.map fun a => { a with sessionProvider := conf.sessionProvider }
    else s
  s.filter fun v => (validate v).isNone

/-- The end of `syncAPISpecs`, after the load: a load error is returned, and
otherwise the validated specs replace `apiSpecs` and their number is returned. -/
def storeAPISpecs (conf : Config) (validate : APISpec → Option GoError) (gw : Gateway) :
    Except GoError (List APISpec) → SyncResult × Gateway
  | .error e => ((0, some e), gw)
  | .ok s =>
    let filter := validatedSpecs conf validate s
    ((GoInt.ofNat filter.length, none), { gw with apiSpecs := filter })

/-- `syncAPISpecs`. -/
def syncAPISpecs (conf : Config) (validate : APISpec → Option GoError) (src : APISources)
    (gw : Gateway) : ExceptT DashboardFatal Option (SyncResult × Gateway) :=
  storeAPISpecs conf validate gw <$> loadAPISpecs conf src

/-- The dashboard as API source with no connection string: `syncAPISpecs`
does not return. -/
def APIStop (conf : Config) : Prop :=
  conf.useDBAppConfigs = true ∧ conf.dbAppConfConnectionString = ""

instance (conf : Config) : Decidable (APIStop conf) := inferInstanceAs (Decidable (_ ∧ _))

/-- How a `DoReload` run ends without returning. -/
inductive ReloadStop where
  /-- A `log.Fatal`: the process exits. -/
  | fatal (e : DashboardFatal)
  /-- `buildDashboardConnStr` waits for the zeroconf signal, which never comes. -/
  | waitsForZeroconf
  deriving DecidableEq, Repr

/-- How `syncAPISpecs` stops on an `APIStop` configuration. -/
def apiStop (conf : Config) : ReloadStop :=
  if conf.disableDashboardZeroConf then .fatal .connectionStringEmpty else .waitsForZeroconf

/-- What `loadAPISpecs` does, by the configuration: it stops on an `APIStop`
configuration, the way `buildDashboardConnStr` does, and otherwise returns the
answer of the configured source. -/
theorem loadAPISpecs_run (conf : Config) (src : APISources) :
    (loadAPISpecs conf src).run =
      if APIStop conf then
        if conf.disableDashboardZeroConf then some (.error .connectionStringEmpty) else none
      else some (.ok (if conf.useDBAppConfigs then src.dashboard
        else if conf.useRPC then src.rpc else .ok src.dir)) := by
  by_cases hd : conf.useDBAppConfigs = true
  · by_cases he : conf.dbAppConfConnectionString = ""
    · rw [if_pos ⟨hd, he⟩]
      simp only [loadAPISpecs, if_pos hd, ExceptT.run_bind, buildDashboardConnStr_run, if_pos he]
      cases conf.disableDashboardZeroConf <;> rfl
    · rw [if_neg fun h => he h.2]
      simp only [loadAPISpecs, if_pos hd, ExceptT.run_bind, buildDashboardConnStr_run, if_neg he]
      rfl
  · rw [if_neg fun h => hd h.1]
    simp only [loadAPISpecs, if_neg hd]
    split_ifs <;> rfl

/-- What one call of `syncAPISpecs` does, by the configuration. -/
theorem syncAPISpecs_run (conf : Config) (validate : APISpec → Option GoError)
    (src : APISources) (gw : Gateway) :
    (syncAPISpecs conf validate src gw).run =
      if APIStop conf then
        if conf.disableDashboardZeroConf then some (.error .connectionStringEmpty) else none
      else some (.ok (storeAPISpecs conf validate gw
        (if conf.useDBAppConfigs then src.dashboard
          else if conf.useRPC then src.rpc else .ok src.dir))) := by
  rw [syncAPISpecs, ExceptT.run_map, loadAPISpecs_run]
  split_ifs <;> rfl

theorem syncAPISpecs_eq_ok {conf : Config} {validate : APISpec → Option GoError}
    {src : APISources} {gw : Gateway} {r : SyncResult × Gateway}
    (h : (syncAPISpecs conf validate src gw).run = some (.ok r)) :
    ∃ l, (loadAPISpecs conf src).run = some (.ok l) ∧ storeAPISpecs conf validate gw l = r := by
  rw [syncAPISpecs, ExceptT.run_map] at h
  rcases hl : (loadAPISpecs conf src).run with _ | e | l <;> rw [hl] at h
  · cases h
  · cases h
  · exact ⟨l, rfl, Except.ok.inj (Option.some.inj h)⟩

/-- A call of `syncAPISpecs` that does not return stops the way `apiStop`
says, on an `APIStop` configuration. -/
theorem syncAPISpecs_stop {conf : Config} {validate : APISpec → Option GoError}
    {src : APISources} {gw : Gateway} {st : ReloadStop}
    (h : (∃ e, (syncAPISpecs conf validate src gw).run = some (.error e) ∧ st = .fatal e) ∨
      ((syncAPISpecs conf validate src gw).run = none ∧ st = .waitsForZeroconf)) :
    st = apiStop conf ∧ APIStop conf := by
  rw [syncAPISpecs_run] at h
  by_cases ha : APIStop conf
  · rw [if_pos ha] at h
    refine ⟨?_, ha⟩
    unfold apiStop
    cases hd : conf.disableDashboardZeroConf <;> simpa [hd] using h
  · rw [if_neg ha] at h
    rcases h with ⟨e, h, -⟩ | ⟨h, -⟩ <;> cases h

section Store

variable {conf : Config} {validate : APISpec → Option GoError} {gw gw' : Gateway}
  {l : Except GoError (List APISpec)} {r : SyncResult}

theorem storeAPISpecs_keeps (h : storeAPISpecs conf validate gw l = (r, gw')) :
    gw'.policiesByID = gw.policiesByID ∧ gw'.apisByID = gw.apisByID := by
  cases l <;> simp only [storeAPISpecs, Prod.mk.injEq] at h <;> rw [← h.2] <;> exact ⟨rfl, rfl⟩

theorem storeAPISpecs_of_error (h : storeAPISpecs conf validate gw l = (r, gw'))
    (he : r.2.isSome) : gw' = gw := by
  cases l <;> simp only [storeAPISpecs, Prod.mk.injEq] at h
  · exact h.2.symm
  · rw [← h.1] at he; cases he

theorem storeAPISpecs_of_ok (h : storeAPISpecs conf validate gw l = (r, gw')) (hn : r.2 = none) :
    ∃ s, l = .ok s ∧ r.1 = GoInt.ofNat (validatedSpecs conf validate s).length ∧
      gw'.apiSpecs = validatedSpecs conf validate s := by
  cases l <;> simp only [storeAPISpecs, Prod.mk.injEq] at h
  · rw [← h.1] at hn; cases hn
  · rename_i s
    exact ⟨s, rfl, by rw [← h.1], by rw [← h.2]⟩

end Store

/-! ### The calls as the retries make them -/

/-- The state the calls of one sync pass on through `syncResourcesWithReload`:
the gateway, how many calls came before, and where the process stopped, if a
call stopped it. -/
structure SyncState where
  gw : Gateway
  calls : Nat
  stopped : Option ReloadStop

/-- The state a sync of `DoReload` starts from. -/
def SyncState.start (gw : Gateway) : SyncState := ⟨gw, 0, none⟩

/-- One call of a sync function as the retries make it: nothing once the
process has stopped; otherwise the call, on the answers of its turn, or the
stop it makes. -/
def SyncState.call (sync : Nat → Gateway → ExceptT DashboardFatal Option (SyncResult × Gateway))
    (s : SyncState) : SyncResult × SyncState :=
  match s.stopped with
  | some _ => ((0, none), s)
  | none =>
    match (sync s.calls s.gw).run with
    | some (.ok (r, gw)) => (r, ⟨gw, s.calls + 1, none⟩)
    | some (.error e) => ((0, none), { s with stopped := some (.fatal e) })
    | none => ((0, none), { s with stopped := some .waitsForZeroconf })

/-- `rpc.EnableEmergencyMode(true)`. -/
def enableEmergency (s : SyncState) : SyncState :=
  { s with gw := { s.gw with emergencyMode := true } }

/-- `gw.syncPolicies` as the retries call it: the `n`-th call reads `polSrc n`. -/
def policySync (conf : Config) (polSrc : Nat → PolicySources) :
    SyncState → SyncResult × SyncState :=
  SyncState.call fun n gw => ExceptT.mk (some (syncPolicies conf (polSrc n) gw))

/-- `gw.syncAPISpecs` as the retries call it: the `n`-th call reads `apiSrc n`. -/
def apiSync (conf : Config) (validate : APISpec → Option GoError) (apiSrc : Nat → APISources) :
    SyncState → SyncResult × SyncState :=
  SyncState.call fun n gw => syncAPISpecs conf validate (apiSrc n) gw

/-- The policy sync of `DoReload`. -/
def policyPhase (conf : Config) (polSrc : Nat → PolicySources) (gw : Gateway) :
    SyncResult × SyncState :=
  syncResourcesWithReload "policies" conf (policySync conf polSrc) enableEmergency (.start gw)

/-- The API sync of `DoReload`. -/
def apiPhase (conf : Config) (validate : APISpec → Option GoError) (apiSrc : Nat → APISources)
    (gw : Gateway) : SyncResult × SyncState :=
  syncResourcesWithReload "apis" conf (apiSync conf validate apiSrc) enableEmergency (.start gw)

/-- How `DoReload` goes on after one of its syncs: the stop, if the sync
stopped the process; a return, if it reported an error; otherwise `next`, on
the count and the gateway the sync left. -/
def afterSync (p : SyncResult × SyncState) (next : GoInt → Gateway → Gateway × Option ReloadStop) :
    Gateway × Option ReloadStop :=
  match p with
  | (_, ⟨gw, _, some stop⟩) => (gw, some stop)
  | ((_, some _), ⟨gw, _, none⟩) => (gw, none)
  | ((count, none), ⟨gw, _, none⟩) => next count gw

/-- `DoReload`, after the JavaScript VM reset: the gateway it leaves, and where
it stopped the process if it did, with the gateway as it was there. -/
def doReload (conf : Config) (validate : APISpec → Option GoError)
    (loadGlobalApps : Gateway → Gateway) (polSrc : Nat → PolicySources)
    (apiSrc : Nat → APISources) (gw : Gateway) : Gateway × Option ReloadStop :=
  afterSync (policyPhase conf polSrc gw) fun _ gw₁ =>
    afterSync (apiPhase conf validate apiSrc gw₁) fun count gw₂ =>
      if count.val = 0 ∧ gw₂.apisByID.entries.length = 0 then
        ({ gw₂ with performedSuccessfulReload := true }, none)
      else ({ loadGlobalApps gw₂ with performedSuccessfulReload := true }, none)

section AfterSync

variable {p : SyncResult × SyncState} {next : GoInt → Gateway → Gateway × Option ReloadStop}

/-- A property of gateways holds after `afterSync` when it holds of the
gateway the sync left and `next` keeps it. -/
theorem afterSync_preserves (P : Gateway → Prop) (h : P p.2.gw)
    (hnext : ∀ c g, P g → P (next c g).1) : P (afterSync p next).1 := by
  rcases p with ⟨⟨c, _ | e⟩, ⟨g, n, _ | st⟩⟩
  · exact hnext c g h
  all_goals exact h

theorem afterSync_of_stop {st : ReloadStop} (h : p.2.stopped = some st) :
    afterSync p next = (p.2.gw, some st) := by
  rcases p with ⟨⟨c, _ | e⟩, ⟨g, n, _ | st'⟩⟩ <;> cases h <;> rfl

theorem afterSync_of_error (h : p.1.2.isSome) (hs : p.2.stopped = none) :
    afterSync p next = (p.2.gw, none) := by
  rcases p with ⟨⟨c, _ | e⟩, ⟨g, n, _ | st'⟩⟩ <;> cases h <;> cases hs
  rfl

theorem afterSync_of_ok (h : p.1.2 = none) (hs : p.2.stopped = none) :
    afterSync p next = next p.1.1 p.2.gw := by
  rcases p with ⟨⟨c, _ | e⟩, ⟨g, n, _ | st'⟩⟩ <;> cases h <;> cases hs
  rfl

end AfterSync

/-! ### What a sync phase can do -/

/-- `policiesByID`, `apiSpecs` and `apisByID` of `g'` are those of `g`. -/
def SameRegistries (g g' : Gateway) : Prop :=
  g'.policiesByID = g.policiesByID ∧ g'.apiSpecs = g.apiSpecs ∧ g'.apisByID = g.apisByID

theorem SameRegistries.refl (g : Gateway) : SameRegistries g g := ⟨rfl, rfl, rfl⟩

theorem SameRegistries.trans {a b c : Gateway} (h₁ : SameRegistries a b)
    (h₂ : SameRegistries b c) :
    SameRegistries a c :=
  ⟨h₂.1.trans h₁.1, h₂.2.1.trans h₁.2.1, h₂.2.2.trans h₁.2.2⟩

section Phase

variable (sync : Nat → Gateway → ExceptT DashboardFatal Option (SyncResult × Gateway))

/-- A call from a state that has not stopped either returns, on the gateway it
was given, or stops the process and leaves the gateway as it was. -/
theorem SyncState.call_cases {s : SyncState} (h : s.stopped = none) :
    (∃ r g, (sync s.calls s.gw).run = some (.ok (r, g)) ∧
      SyncState.call sync s = (r, ⟨g, s.calls + 1, none⟩)) ∨
    ∃ st, ((∃ e, (sync s.calls s.gw).run = some (.error e) ∧ st = .fatal e) ∨
        ((sync s.calls s.gw).run = none ∧ st = .waitsForZeroconf)) ∧
      SyncState.call sync s = ((0, none), { s with stopped := some st }) := by
  unfold SyncState.call
  rw [h]
  rcases hr : (sync s.calls s.gw).run with _ | e | ⟨r, g⟩
  · exact .inr ⟨_, .inr ⟨rfl, rfl⟩, rfl⟩
  · exact .inr ⟨_, .inl ⟨e, rfl, rfl⟩, rfl⟩
  · exact .inl ⟨r, g, rfl, rfl⟩

/-- What a sync phase can end in, from a state that has not stopped, when
every failed call keeps the registries: a failure, with the registries as
they were and the process running; a stop made by a call, with the
registries as they were; or the result of a call that returned, made on a
gateway with the registries of the start. -/
theorem syncPhase_frame (resource : String) (conf : Config)
    (hfail : ∀ n g r g', (sync n g).run = some (.ok (r, g')) → r.2.isSome →
      SameRegistries g g')
    (s₀ : SyncState) (h0 : s₀.stopped = none) :
    ((syncResourcesWithReload resource conf (SyncState.call sync) enableEmergency s₀).1.2.isSome →
      SameRegistries s₀.gw
          (syncResourcesWithReload resource conf (SyncState.call sync) enableEmergency s₀).2.gw ∧
        (syncResourcesWithReload resource conf (SyncState.call sync) enableEmergency
          s₀).2.stopped = none) ∧
    (∀ st, (syncResourcesWithReload resource conf (SyncState.call sync) enableEmergency
        s₀).2.stopped = some st →
      SameRegistries s₀.gw
          (syncResourcesWithReload resource conf (SyncState.call sync) enableEmergency s₀).2.gw ∧
        ∃ n g, (∃ e, (sync n g).run = some (.error e) ∧ st = .fatal e) ∨
          ((sync n g).run = none ∧ st = .waitsForZeroconf)) ∧
    ((syncResourcesWithReload resource conf (SyncState.call sync) enableEmergency s₀).1.2 = none →
      (syncResourcesWithReload resource conf (SyncState.call sync) enableEmergency
        s₀).2.stopped = none →
      ∃ n g, SameRegistries s₀.gw g ∧ (sync n g).run = some (.ok
        ((syncResourcesWithReload resource conf (SyncState.call sync) enableEmergency s₀).1,
          (syncResourcesWithReload resource conf (SyncState.call sync) enableEmergency
            s₀).2.gw))) := by
  obtain ⟨h₁, h₂⟩ := syncResourcesWithReload_frame resource conf (SyncState.call sync)
    enableEmergency
    (fun a b => SameRegistries a.gw b.gw ∧ (a.stopped = none → b.stopped = none))
    (fun s => ⟨SameRegistries.refl _, id⟩)
    (fun h₁ h₂ => ⟨h₁.1.trans h₂.1, h₂.2 ∘ h₁.2⟩)
    (fun s hs => by
      unfold SyncState.call at hs ⊢
      rcases hst : s.stopped with _ | st <;> simp only [hst] at hs ⊢
      · rcases hr : (sync s.calls s.gw).run with _ | e | ⟨r, g⟩ <;> simp only [hr] at hs ⊢
        · exact absurd hs (by simp)
        · exact absurd hs (by simp)
        · exact ⟨hfail _ _ _ _ hr hs, fun _ => trivial⟩
      · exact absurd hs (by simp))
    (fun s => ⟨SameRegistries.refl _, id⟩) s₀
  have hfailed := fun hs => And.intro (h₁ hs).1 ((h₁ hs).2 h0)
  refine ⟨hfailed, fun st hst => ?_, fun hn hst => ?_⟩
  · -- a stopped phase has no error, so its last call made the stop
    have hn := Option.not_isSome_iff_eq_none.mp fun hs => by
      rw [(hfailed hs).2] at hst; cases hst
    obtain ⟨s, ⟨hsame, hs0⟩, he⟩ := h₂ hn
    rcases SyncState.call_cases sync (hs0 h0) with ⟨r, g, -, hc⟩ | ⟨st', hw, hc⟩
    · rw [← he, hc] at hst; cases hst
    · rw [← he, hc] at hst ⊢
      cases hst
      exact ⟨hsame, s.calls, s.gw, hw⟩
  · obtain ⟨s, ⟨hsame, hs0⟩, he⟩ := h₂ hn
    rcases SyncState.call_cases sync (hs0 h0) with ⟨r, g, hr, hc⟩ | ⟨st', -, hc⟩
    · rw [← he, hc]; exact ⟨s.calls, s.gw, hsame, hr⟩
    · rw [← he, hc] at hst; cases hst

/-- A relation of gateways that every call and emergency mode keep is kept by
a sync phase. -/
theorem syncPhase_preserves (resource : String) (conf : Config) (R : Gateway → Gateway → Prop)
    (hrefl : ∀ g, R g g) (htrans : ∀ {a b c}, R a b → R b c → R a c)
    (hcall : ∀ n g r g', (sync n g).run = some (.ok (r, g')) → R g g')
    (henable : ∀ g, R g { g with emergencyMode := true }) (s₀ : SyncState) :
    R s₀.gw (syncResourcesWithReload resource conf (SyncState.call sync) enableEmergency s₀).2.gw :=
  syncResourcesWithReload_preserves resource conf (SyncState.call sync) enableEmergency
    (fun a b => R a.gw b.gw) (fun s => hrefl _) htrans
    (fun s => by
      unfold SyncState.call
      rcases s.stopped with _ | st
      · rcases hr : (sync s.calls s.gw).run with _ | e | ⟨r, g⟩
        · exact hrefl _
        · exact hrefl _
        · exact hcall _ _ _ _ hr
      · exact hrefl _)
    (fun s => henable s.gw) s₀

/-- A phase stops the process only when the loop makes a call. -/
theorem syncPhase_bound (resource : String) (conf : Config)
    (h : resource = "apis" ∨ resource = "policies") (s₀ : SyncState) (h0 : s₀.stopped = none)
    (hst : (syncResourcesWithReload resource conf (SyncState.call sync) enableEmergency
      s₀).2.stopped.isSome) :
    1 ≤ (conf.retryAttempts + 1).val := by
  by_contra hb
  rw [syncResourcesWithReload_of_bound_nonpos resource conf _ _ s₀ h (by omega), h0] at hst
  cases hst

/-- When the loop makes a call, a configuration on which no call returns stops
the phase at its first call. -/
theorem syncPhase_stops (resource : String) (conf : Config)
    (h : resource = "apis" ∨ resource = "policies") (hb : 1 ≤ (conf.retryAttempts + 1).val)
    (hstop : ∀ n g r, (sync n g).run ≠ some (.ok r)) (gw : Gateway) :
    (syncResourcesWithReload resource conf (SyncState.call sync) enableEmergency
      (.start gw)).2.stopped.isSome := by
  rcases SyncState.call_cases sync (s := .start gw) rfl with ⟨r, g, hr, -⟩ | ⟨st, -, he⟩
  · exact absurd hr (hstop _ _ _)
  · rw [syncResourcesWithReload_of_first_ok resource conf _ _ _ h hb (by rw [he]), he]
    rfl

end Phase

/-! ### The two phases -/

/-- The policy sync never touches `apiSpecs` or `apisByID`. -/
theorem policyPhase_apis (conf : Config) (polSrc : Nat → PolicySources) (gw : Gateway) :
    (policyPhase conf polSrc gw).2.gw.apiSpecs = gw.apiSpecs ∧
      (policyPhase conf polSrc gw).2.gw.apisByID = gw.apisByID :=
  syncPhase_preserves (fun n gw => ExceptT.mk (some (syncPolicies conf (polSrc n) gw)))
    "policies" conf (fun a b => b.apiSpecs = a.apiSpecs ∧ b.apisByID = a.apisByID)
    (fun _ => ⟨rfl, rfl⟩) (fun h₁ h₂ => ⟨h₂.1.trans h₁.1, h₂.2.trans h₁.2⟩)
    (fun _ _ _ _ hr => syncPolicies_apis (Option.some.inj hr)) (fun _ => ⟨rfl, rfl⟩) _

/-- The policy sync: a failure leaves the three registries as they were; it
stops the process only on a `PolicyFatal` configuration, with the registries
as they were, and it does so whenever the loop makes a call; a success is a
successful `syncPolicies` call made on the registries of the start. -/
theorem policyPhase_frame (conf : Config) (polSrc : Nat → PolicySources) (gw : Gateway) :
    ((policyPhase conf polSrc gw).1.2.isSome →
      SameRegistries gw (policyPhase conf polSrc gw).2.gw ∧
        (policyPhase conf polSrc gw).2.stopped = none) ∧
    (∀ st, (policyPhase conf polSrc gw).2.stopped = some st →
      SameRegistries gw (policyPhase conf polSrc gw).2.gw ∧
        st = .fatal .noPolicyConnectionString ∧ PolicyFatal conf) ∧
    ((policyPhase conf polSrc gw).2.stopped.isSome ↔
      PolicyFatal conf ∧ 1 ≤ (conf.retryAttempts + 1).val) ∧
    ((policyPhase conf polSrc gw).1.2 = none → (policyPhase conf polSrc gw).2.stopped = none →
      ∃ n g, SameRegistries gw g ∧
        syncPolicies conf (polSrc n) g =
          .ok ((policyPhase conf polSrc gw).1, (policyPhase conf polSrc gw).2.gw)) := by
  obtain ⟨h₁, h₂, h₃⟩ := syncPhase_frame
    (fun n gw => ExceptT.mk (some (syncPolicies conf (polSrc n) gw))) "policies" conf
    (fun _ _ _ _ hr hs => ⟨syncPolicies_error (Option.some.inj hr)
      (Option.isSome_iff_ne_none.mp hs), syncPolicies_apis (Option.some.inj hr)⟩) (.start gw) rfl
  have hstop : ∀ st, (policyPhase conf polSrc gw).2.stopped = some st →
      SameRegistries gw (policyPhase conf polSrc gw).2.gw ∧
        st = .fatal .noPolicyConnectionString ∧ PolicyFatal conf := fun st hst => by
    obtain ⟨hsame, n, g, ⟨e, he, rfl⟩ | ⟨hnone, -⟩⟩ := h₂ st hst
    · obtain ⟨rfl, hf⟩ := syncPolicies_eq_error.mp (Option.some.inj he)
      exact ⟨hsame, rfl, hf⟩
    · cases hnone
  refine ⟨h₁, hstop, ⟨fun h => ?_, fun ⟨hf, hb⟩ => ?_⟩, fun hn hst => ?_⟩
  · obtain ⟨st, hst⟩ := Option.isSome_iff_exists.mp h
    exact ⟨(hstop st hst).2.2, syncPhase_bound _ "policies" conf (.inr rfl) _ rfl h⟩
  · refine syncPhase_stops _ "policies" conf (.inr rfl) hb (fun n g r hr => ?_) gw
    have he := (@syncPolicies_eq_error conf (polSrc n) g _).mpr ⟨rfl, hf⟩
    cases (Option.some.inj hr).symm.trans he
  · obtain ⟨n, g, hsame, hr⟩ := h₃ hn hst
    exact ⟨n, g, hsame, Option.some.inj hr⟩

/-- The API sync never touches `policiesByID` or `apisByID`. -/
theorem apiPhase_keeps (conf : Config) (validate : APISpec → Option GoError)
    (apiSrc : Nat → APISources) (gw : Gateway) :
    (apiPhase conf validate apiSrc gw).2.gw.policiesByID = gw.policiesByID ∧
      (apiPhase conf validate apiSrc gw).2.gw.apisByID = gw.apisByID :=
  syncPhase_preserves (fun n gw => syncAPISpecs conf validate (apiSrc n) gw) "apis" conf
    (fun a b => b.policiesByID = a.policiesByID ∧ b.apisByID = a.apisByID) (fun _ => ⟨rfl, rfl⟩)
    (fun h₁ h₂ => ⟨h₂.1.trans h₁.1, h₂.2.trans h₁.2⟩)
    (fun _ _ _ _ hr => have ⟨_, _, he⟩ := syncAPISpecs_eq_ok hr; storeAPISpecs_keeps he)
    (fun _ => ⟨rfl, rfl⟩) _

/-- The API sync: a failure leaves the registries as they were; it stops the
process only on an `APIStop` configuration, the way `apiStop` says, with the
registries as they were, and it does so whenever the loop makes a call; a
success installs the validated specs of one load and returns their number. -/
theorem apiPhase_frame (conf : Config) (validate : APISpec → Option GoError)
    (apiSrc : Nat → APISources) (gw : Gateway) :
    ((apiPhase conf validate apiSrc gw).1.2.isSome →
      SameRegistries gw (apiPhase conf validate apiSrc gw).2.gw ∧
        (apiPhase conf validate apiSrc gw).2.stopped = none) ∧
    (∀ st, (apiPhase conf validate apiSrc gw).2.stopped = some st →
      SameRegistries gw (apiPhase conf validate apiSrc gw).2.gw ∧ st = apiStop conf ∧
        APIStop conf) ∧
    ((apiPhase conf validate apiSrc gw).2.stopped.isSome ↔
      APIStop conf ∧ 1 ≤ (conf.retryAttempts + 1).val) ∧
    ((apiPhase conf validate apiSrc gw).1.2 = none →
      (apiPhase conf validate apiSrc gw).2.stopped = none → ∃ n s,
      (loadAPISpecs conf (apiSrc n)).run = some (.ok (.ok s)) ∧
      (apiPhase conf validate apiSrc gw).1.1 =
        GoInt.ofNat (validatedSpecs conf validate s).length ∧
      (apiPhase conf validate apiSrc gw).2.gw.apiSpecs = validatedSpecs conf validate s) := by
  obtain ⟨h₁, h₂, h₃⟩ := syncPhase_frame (fun n gw => syncAPISpecs conf validate (apiSrc n) gw)
    "apis" conf
    (fun _ g _ _ hr hs => by
      obtain ⟨_, -, he⟩ := syncAPISpecs_eq_ok hr
      rw [storeAPISpecs_of_error he hs]
      exact SameRegistries.refl g)
    (.start gw) rfl
  have hstop : ∀ st, (apiPhase conf validate apiSrc gw).2.stopped = some st →
      SameRegistries gw (apiPhase conf validate apiSrc gw).2.gw ∧ st = apiStop conf ∧
        APIStop conf := fun st hst =>
    have ⟨hsame, _, _, hw⟩ := h₂ st hst
    ⟨hsame, syncAPISpecs_stop hw⟩
  refine ⟨h₁, hstop, ⟨fun h => ?_, fun ⟨hs, hb⟩ => ?_⟩, fun hn hst => ?_⟩
  · obtain ⟨st, hst⟩ := Option.isSome_iff_exists.mp h
    exact ⟨(hstop st hst).2.2, syncPhase_bound _ "apis" conf (.inl rfl) _ rfl h⟩
  · refine syncPhase_stops _ "apis" conf (.inl rfl) hb (fun n g r hr => ?_) gw
    rw [syncAPISpecs_run, if_pos hs] at hr
    cases hd : conf.disableDashboardZeroConf <;> simp [hd] at hr
  · obtain ⟨n, g, -, hr⟩ := h₃ hn hst
    obtain ⟨l, hl, he⟩ := syncAPISpecs_eq_ok hr
    obtain ⟨s, rfl, hc, hs⟩ := storeAPISpecs_of_ok he hn
    exact ⟨n, s, hl, hc, hs⟩

/-! ### The outcomes of `DoReload` -/

section Outcomes

variable (conf : Config) (validate : APISpec → Option GoError)
  (loadGlobalApps : Gateway → Gateway)
  (polSrc : Nat → PolicySources) (apiSrc : Nat → APISources) (gw : Gateway)

theorem doReload_of_policy_stop {st : ReloadStop}
    (h : (policyPhase conf polSrc gw).2.stopped = some st) :
    doReload conf validate loadGlobalApps polSrc apiSrc gw =
      ((policyPhase conf polSrc gw).2.gw, some st) :=
  afterSync_of_stop h

theorem doReload_of_policy_error (h : (policyPhase conf polSrc gw).1.2.isSome)
    (hs : (policyPhase conf polSrc gw).2.stopped = none) :
    doReload conf validate loadGlobalApps polSrc apiSrc gw =
      ((policyPhase conf polSrc gw).2.gw, none) :=
  afterSync_of_error h hs

theorem doReload_of_api_stop {st : ReloadStop} (hp : (policyPhase conf polSrc gw).1.2 = none)
    (hps : (policyPhase conf polSrc gw).2.stopped = none)
    (h : (apiPhase conf validate apiSrc (policyPhase conf polSrc gw).2.gw).2.stopped = some st) :
    doReload conf validate loadGlobalApps polSrc apiSrc gw =
      ((apiPhase conf validate apiSrc (policyPhase conf polSrc gw).2.gw).2.gw, some st) := by
  rw [doReload, afterSync_of_ok hp hps, afterSync_of_stop h]

theorem doReload_of_api_error (hp : (policyPhase conf polSrc gw).1.2 = none)
    (hps : (policyPhase conf polSrc gw).2.stopped = none)
    (ha : (apiPhase conf validate apiSrc (policyPhase conf polSrc gw).2.gw).1.2.isSome)
    (has : (apiPhase conf validate apiSrc (policyPhase conf polSrc gw).2.gw).2.stopped = none) :
    doReload conf validate loadGlobalApps polSrc apiSrc gw =
      ((apiPhase conf validate apiSrc (policyPhase conf polSrc gw).2.gw).2.gw, none) := by
  rw [doReload, afterSync_of_ok hp hps, afterSync_of_error ha has]

theorem doReload_of_ok (hp : (policyPhase conf polSrc gw).1.2 = none)
    (hps : (policyPhase conf polSrc gw).2.stopped = none)
    (ha : (apiPhase conf validate apiSrc (policyPhase conf polSrc gw).2.gw).1.2 = none)
    (has : (apiPhase conf validate apiSrc (policyPhase conf polSrc gw).2.gw).2.stopped = none) :
    let api := apiPhase conf validate apiSrc (policyPhase conf polSrc gw).2.gw
    doReload conf validate loadGlobalApps polSrc apiSrc gw =
      (if api.1.1.val = 0 ∧ api.2.gw.apisByID.entries.length = 0 then
        { api.2.gw with performedSuccessfulReload := true }
      else { loadGlobalApps api.2.gw with performedSuccessfulReload := true }, none) := by
  dsimp only
  rw [doReload, afterSync_of_ok hp hps, afterSync_of_ok ha has]
  split_ifs <;> rfl

/-- A property of gateways that both syncs, `loadGlobalApps` and the success
flag keep holds after `DoReload`, wherever it stops. -/
theorem doReload_preserves (P : Gateway → Prop)
    (hpol : ∀ g, P g → P (policyPhase conf polSrc g).2.gw)
    (hapi : ∀ g, P g → P (apiPhase conf validate apiSrc g).2.gw)
    (hload : ∀ g, P g → P { loadGlobalApps g with performedSuccessfulReload := true })
    (hdone : ∀ g, P g → P { g with performedSuccessfulReload := true }) (h : P gw) :
    P (doReload conf validate loadGlobalApps polSrc apiSrc gw).1 :=
  afterSync_preserves P (hpol gw h) fun _ g₁ h₁ =>
    afterSync_preserves P (hapi g₁ h₁) fun _ g₂ h₂ => by
      dsimp only
      split
      · exact hdone g₂ h₂
      · exact hload g₂ h₂

/-- What `DoReload` does on every prior state and every sequence of source
answers, one clause per way it can go. -/
structure DoReloadSpec : Prop where
  /-- The policy sync stops the process exactly on a `PolicyFatal`
  configuration, when the loop makes a call. -/
  policy_stops_iff : (policyPhase conf polSrc gw).2.stopped.isSome ↔
    PolicyFatal conf ∧ 1 ≤ (conf.retryAttempts + 1).val
  /-- It stops with that `log.Fatal`, before anything changed. -/
  policy_stop : ∀ st, (policyPhase conf polSrc gw).2.stopped = some st →
    st = .fatal .noPolicyConnectionString ∧
    doReload conf validate loadGlobalApps polSrc apiSrc gw =
      ((policyPhase conf polSrc gw).2.gw, some st) ∧
    SameRegistries gw (doReload conf validate loadGlobalApps polSrc apiSrc gw).1
  /-- A failed policy sync returns with the three registries as they were. -/
  policy_failed : (policyPhase conf polSrc gw).1.2.isSome →
    (doReload conf validate loadGlobalApps polSrc apiSrc gw).2 = none ∧
    SameRegistries gw (doReload conf validate loadGlobalApps polSrc apiSrc gw).1
  /-- A successful one is a successful `syncPolicies` call on the registries
  of the start. -/
  policy_synced : (policyPhase conf polSrc gw).1.2 = none →
    (policyPhase conf polSrc gw).2.stopped = none → ∃ n g, SameRegistries gw g ∧
      syncPolicies conf (polSrc n) g =
        .ok ((policyPhase conf polSrc gw).1, (policyPhase conf polSrc gw).2.gw)
  /-- After it, the API sync stops the process exactly on an `APIStop`
  configuration, when the loop makes a call, as `apiStop` says, with the new
  policies beside the old API registries. -/
  api_stop : (policyPhase conf polSrc gw).1.2 = none →
    (policyPhase conf polSrc gw).2.stopped = none →
    ((apiPhase conf validate apiSrc (policyPhase conf polSrc gw).2.gw).2.stopped.isSome ↔
      APIStop conf ∧ 1 ≤ (conf.retryAttempts + 1).val) ∧
    ∀ st, (apiPhase conf validate apiSrc (policyPhase conf polSrc gw).2.gw).2.stopped = some st →
      st = apiStop conf ∧
      (doReload conf validate loadGlobalApps polSrc apiSrc gw).2 = some st ∧
      (doReload conf validate loadGlobalApps polSrc apiSrc gw).1.policiesByID =
        (policyPhase conf polSrc gw).2.gw.policiesByID ∧
      (doReload conf validate loadGlobalApps polSrc apiSrc gw).1.apiSpecs = gw.apiSpecs ∧
      (doReload conf validate loadGlobalApps polSrc apiSrc gw).1.apisByID = gw.apisByID
  /-- A failed API sync returns with the new policies beside the old API
  registries. -/
  api_failed : (policyPhase conf polSrc gw).1.2 = none →
    (policyPhase conf polSrc gw).2.stopped = none →
    (apiPhase conf validate apiSrc (policyPhase conf polSrc gw).2.gw).1.2.isSome →
    (doReload conf validate loadGlobalApps polSrc apiSrc gw).2 = none ∧
    (doReload conf validate loadGlobalApps polSrc apiSrc gw).1.policiesByID =
      (policyPhase conf polSrc gw).2.gw.policiesByID ∧
    (doReload conf validate loadGlobalApps polSrc apiSrc gw).1.apiSpecs = gw.apiSpecs ∧
    (doReload conf validate loadGlobalApps polSrc apiSrc gw).1.apisByID = gw.apisByID
  /-- A successful API sync installs the validated specs of one load, then
  abandons the reload when it counted no API and `apisByID` is empty, or
  calls `loadGlobalApps` on the new policies and specs. -/
  api_synced : (policyPhase conf polSrc gw).1.2 = none →
    (policyPhase conf polSrc gw).2.stopped = none →
    (apiPhase conf validate apiSrc (policyPhase conf polSrc gw).2.gw).1.2 = none →
    (apiPhase conf validate apiSrc (policyPhase conf polSrc gw).2.gw).2.stopped = none →
    (doReload conf validate loadGlobalApps polSrc apiSrc gw).2 = none ∧ ∃ n s,
      (loadAPISpecs conf (apiSrc n)).run = some (.ok (.ok s)) ∧
      (apiPhase conf validate apiSrc (policyPhase conf polSrc gw).2.gw).1.1 =
        GoInt.ofNat (validatedSpecs conf validate s).length ∧
      (((apiPhase conf validate apiSrc (policyPhase conf polSrc gw).2.gw).1.1.val = 0 ∧
          gw.apisByID.entries.length = 0) →
        (doReload conf validate loadGlobalApps polSrc apiSrc gw).1.policiesByID =
          (policyPhase conf polSrc gw).2.gw.policiesByID ∧
        (doReload conf validate loadGlobalApps polSrc apiSrc gw).1.apiSpecs =
          validatedSpecs conf validate s ∧
        (doReload conf validate loadGlobalApps polSrc apiSrc gw).1.apisByID = gw.apisByID) ∧
      (¬((apiPhase conf validate apiSrc (policyPhase conf polSrc gw).2.gw).1.1.val = 0 ∧
          gw.apisByID.entries.length = 0) →
        ∃ g, (doReload conf validate loadGlobalApps polSrc apiSrc gw).1 =
            { loadGlobalApps g with performedSuccessfulReload := true } ∧
          g.policiesByID = (policyPhase conf polSrc gw).2.gw.policiesByID ∧
          g.apiSpecs = validatedSpecs conf validate s ∧ g.apisByID = gw.apisByID)

/-- The configuration `initSystem` leaves for a gateway on the dashboard at
`http://dashboard`: policies and API definitions both come from it. -/
def dashboardReloadConf : Config :=
  { (default : Config) with
    useDBAppConfigs := true, dbAppConfConnectionString := "http://dashboard",
    policySource := "service", policyConnectionString := "http://dashboard" }

end Outcomes

end TykGateway
