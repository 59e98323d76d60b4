import TykGateway.Gateway

/-! # `syncPolicies` and the policy registry

`syncPolicies` loads a policy map from the configured source and, when the
loader returns no error, replaces `policiesByID` with it. A registry is
*keyed* when every entry `k ↦ p` has `p.ID = k`. The dashboard and RPC
loaders set each record's `ID` to the key they file it under, and the
directory loader files each decoded policy under its own `ID`, so from these
sources every reachable registry stays keyed. The policy file is a JSON object
whose keys are taken as they are, so an entry of it may carry another `ID`.
-/

namespace TykGateway

/-- What the policy sources hold when `syncPolicies` reads them. -/
structure PolicySources where
  dashboard : DashboardAnswer
  rpc : RPCAnswer
  /-- `filepath.Glob(PolicyPath/*.json)` and what each file holds. -/
  dir : Except GoError (List (FileRead Policy))
  /-- The file named by `PolicyRecordName`. -/
  file : FileRead (GoMap Policy)

/-- The loader `syncPolicies` calls for the configured source, with the state
it leaves (the dashboard loader stores a nonce), or `none` when there is no
policy source; a dashboard source without a connection string stops at
`log.Fatal` before anything is loaded. -/
def loadConfiguredPolicies (conf : Config) (src : PolicySources) (gw : Gateway) :
    Except DashboardFatal (Option ((GoMap Policy × Option GoError) × Gateway)) :=
  match conf.policySource with
  | "service" =>
    if conf.policyConnectionString = "" then .error .noPolicyConnectionString
    else
      let ((pols, err), nonce) :=
        loadPoliciesFromDashboard conf.allowExplicitPolicyID src.dashboard
      .ok (some ((pols, err), match nonce with
        | some n => { gw with serviceNonce := n }
        | none => gw))
  | "rpc" =>
    .ok (some (loadPoliciesFromRPC gw.emergencyMode src.rpc conf.allowExplicitPolicyID, gw))
  | _ =>
    .ok (if conf.policyPath ≠ "" then some (loadPoliciesFromDir src.dir, gw)
      else if conf.policyRecordName = "" then none
      else some (loadPoliciesFromFile src.file, gw))

/-- The end of `syncPolicies`, after the loader: an error is returned with the
number of policies loaded, and otherwise the loaded map replaces `policiesByID`. -/
def storePolicies (gw : Gateway) :
    Option ((GoMap Policy × Option GoError) × Gateway) → SyncResult × Gateway
  | none => ((0, none), gw)
  | some ((pols, some err), gw') => ((GoInt.ofNat pols.entries.length, some err), gw')
  | some ((pols, none), gw') =>
    ((GoInt.ofNat pols.entries.length, none), { gw' with policiesByID := pols })

/-- `syncPolicies`. -/
def syncPolicies (conf : Config) (src : PolicySources) (gw : Gateway) :
    Except DashboardFatal (SyncResult × Gateway) :=
  (loadConfiguredPolicies conf src gw).map (storePolicies gw)

/-- A configuration on which `syncPolicies` stops at `log.Fatal`. -/
def PolicyFatal (conf : Config) : Prop :=
  conf.policySource = "service" ∧ conf.policyConnectionString = ""

instance (conf : Config) : Decidable (PolicyFatal conf) := inferInstanceAs (Decidable (_ ∧ _))

theorem loadConfiguredPolicies_eq_error {conf : Config} {src : PolicySources} {gw : Gateway}
    {e : DashboardFatal} :
    loadConfiguredPolicies conf src gw = .error e ↔
      e = .noPolicyConnectionString ∧ PolicyFatal conf := by
  unfold loadConfiguredPolicies PolicyFatal
  split
  · rename_i hs
    split_ifs with hc
    · simp [hs, hc, eq_comm]
    · simp [hc]
  · rename_i hs
    simp [hs]
  · rename_i hs _
    simp only [reduceCtorEq, false_iff, not_and]
    exact fun _ h => absurd h hs

/-- `syncPolicies` stops exactly on a `PolicyFatal` configuration, whatever the
source answers and the gateway. -/
theorem syncPolicies_eq_error {conf : Config} {src : PolicySources} {gw : Gateway}
    {e : DashboardFatal} :
    syncPolicies conf src gw = .error e ↔ e = .noPolicyConnectionString ∧ PolicyFatal conf := by
  rw [← @loadConfiguredPolicies_eq_error conf src gw e]
  unfold syncPolicies
  cases loadConfiguredPolicies conf src gw <;> simp [Except.map]

theorem syncPolicies_eq_ok {conf : Config} {src : PolicySources} {gw : Gateway}
    {r : SyncResult × Gateway} (h : syncPolicies conf src gw = .ok r) :
    ∃ l, loadConfiguredPolicies conf src gw = .ok l ∧ r = storePolicies gw l := by
  unfold syncPolicies at h
  rcases hl : loadConfiguredPolicies conf src gw with e | l <;> rw [hl] at h
  · cases h
  · exact ⟨l, rfl, (Except.ok.inj h).symm⟩

/-- Every entry is filed under its own `ID`. -/
def Keyed (m : GoMap Policy) : Prop := ∀ k p, m.lookup k = some p → p.ID = k

theorem keyed_empty : Keyed ∅ := by
  intro k p h
  simp [AList.lookup_empty] at h

theorem Keyed.insert {m : GoMap Policy} (h : Keyed m) (p : Policy) : Keyed (m.insert p.ID p) := by
  intro k q hq
  by_cases hk : k = p.ID
  · subst hk
    rw [AList.lookup_insert] at hq
    exact (Option.some.inj hq) ▸ rfl
  · rw [AList.lookup_insert_ne hk] at hq
    exact h k q hq

theorem keyed_dashboardPolicies (allowExplicit : Bool) (list : List DBPolicy) :
    Keyed (dashboardPolicies allowExplicit list) := by
  intro k p h
  rw [lookup_dashboardPolicies, Option.map_eq_some'] at h
  obtain ⟨q, -, rfl⟩ := h
  rfl

theorem keyed_rpcPolicies (allowExplicit : Bool) (list : List Policy) :
    Keyed (rpcPolicies allowExplicit list) := by
  intro k p h
  rw [rpcPolicies, lookup_foldl_rpcInsert, AList.lookup_empty, Option.or_none,
    Option.map_eq_some'] at h
  obtain ⟨q, -, rfl⟩ := h
  rfl

/-- A directory file that decoded, or did not open. -/
def FileRead.isDecodedOrUnread : FileRead Policy → Bool
  | .decodeError _ _ => false
  | _ => true

theorem keyed_foldl_loadPolicyFromDirEntry :
    ∀ (paths : List (FileRead Policy)) (m : GoMap Policy), Keyed m →
      (∀ f ∈ paths, f.isDecodedOrUnread) → Keyed (paths.foldl loadPolicyFromDirEntry m)
  | [], _, h, _ => h
  | f :: fs, m, h, hf => by
    refine keyed_foldl_loadPolicyFromDirEntry fs _ ?_ fun g hg => hf g (List.mem_cons_of_mem _ hg)
    have := hf f (List.mem_cons_self _ _)
    cases f with
    | openError e => exact h
    | decodeError e q => simp [FileRead.isDecodedOrUnread] at this
    | decoded q => exact h.insert q

theorem keyed_loadPoliciesFromDashboard (allowExplicit : Bool) (ans : DashboardAnswer) :
    Keyed (loadPoliciesFromDashboard allowExplicit ans).1.1 := by
  rcases ans with e | ⟨status, body | ⟨message, nonce⟩⟩ <;>
    simp only [loadPoliciesFromDashboard] <;> (try split) <;>
    first | exact keyed_empty | exact keyed_dashboardPolicies _ _

theorem keyed_parsePoliciesFromRPC (list : Except GoError (List Policy)) (allowExplicit : Bool) :
    Keyed (parsePoliciesFromRPC list allowExplicit).1 := by
  cases list
  · exact keyed_empty
  · exact keyed_rpcPolicies _ _

theorem keyed_loadPoliciesFromRPC (emergencyMode : Bool) (ans : RPCAnswer) (allowExplicit : Bool) :
    Keyed (loadPoliciesFromRPC emergencyMode ans allowExplicit).1 := by
  unfold loadPoliciesFromRPC loadPoliciesFromRPCBackup
  split
  · exact keyed_parsePoliciesFromRPC _ _
  · split
    · exact keyed_empty
    · split
      · exact keyed_empty
      · exact keyed_parsePoliciesFromRPC _ _

/-- The configured sources whose loads are keyed: the dashboard, RPC, a policy
directory whose files all decode or fail to open, or no source at all. -/
def KeyedSource (conf : Config) (src : PolicySources) : Prop :=
  conf.policySource = "service" ∨ conf.policySource = "rpc" ∨
    (conf.policyPath ≠ "" ∧ ∀ paths, src.dir = .ok paths → ∀ f ∈ paths, f.isDecodedOrUnread) ∨
    (conf.policyPath = "" ∧ conf.policyRecordName = "")


theorem keyed_loadConfiguredPolicies {conf : Config} {src : PolicySources} {gw gw' : Gateway}
    {pols : GoMap Policy} {err : Option GoError} (h : KeyedSource conf src)
    (hl : loadConfiguredPolicies conf src gw = .ok (some ((pols, err), gw'))) : Keyed pols := by
  unfold loadConfiguredPolicies at hl
  split at hl
  · split_ifs at hl
    cases hl; exact keyed_loadPoliciesFromDashboard _ _
  · simp only [Except.ok.injEq, Option.some.injEq, Prod.mk.injEq] at hl
    rw [← show (loadPoliciesFromRPC gw.emergencyMode src.rpc conf.allowExplicitPolicyID).1 = pols
      from congrArg Prod.fst hl.1]
    exact keyed_loadPoliciesFromRPC _ _ _
  · rename_i hs hr
    rcases h with h | h | ⟨hp, hd⟩ | ⟨hp, hn⟩
    · exact absurd h hs
    · exact absurd h hr
    · simp only [if_pos hp, Except.ok.injEq, Option.some.injEq, Prod.mk.injEq] at hl
      rw [← show (loadPoliciesFromDir src.dir).1 = pols from congrArg Prod.fst hl.1]
      rcases hdir : src.dir with e | paths
      · exact keyed_empty
      · exact keyed_foldl_loadPolicyFromDirEntry paths ∅ keyed_empty (hd paths hdir)
    · simp [hp, hn] at hl

/-- The loader changes at most `ServiceNonce`. -/
theorem loadConfiguredPolicies_state {conf : Config} {src : PolicySources} {gw gw' : Gateway}
    {r : GoMap Policy × Option GoError}
    (hl : loadConfiguredPolicies conf src gw = .ok (some (r, gw'))) :
    ∃ n, gw' = { gw with serviceNonce := n } := by
  unfold loadConfiguredPolicies at hl
  split at hl
  · split_ifs at hl
    obtain ⟨-, rfl⟩ := Prod.mk.inj (Option.some.inj (Except.ok.inj hl))
    split
    · exact ⟨_, rfl⟩
    · exact ⟨gw.serviceNonce, rfl⟩
  · cases hl; exact ⟨gw.serviceNonce, rfl⟩
  · split_ifs at hl <;> cases hl <;> exact ⟨gw.serviceNonce, rfl⟩

/-- `syncPolicies` changes nothing but `policiesByID` and `ServiceNonce`. -/
theorem syncPolicies_state {conf : Config} {src : PolicySources} {gw : Gateway}
    {r : SyncResult × Gateway} (h : syncPolicies conf src gw = .ok r) :
    ∃ n, r.2 = { gw with serviceNonce := n, policiesByID := r.2.policiesByID } := by
  obtain ⟨l, hl, rfl⟩ := syncPolicies_eq_ok h
  rcases l with _ | ⟨⟨pols, _ | err⟩, gw'⟩
  · exact ⟨gw.serviceNonce, rfl⟩
  all_goals obtain ⟨n, rfl⟩ := loadConfiguredPolicies_state hl; exact ⟨n, rfl⟩

theorem syncPolicies_apis {conf : Config} {src : PolicySources} {gw : Gateway}
    {r : SyncResult × Gateway} (h : syncPolicies conf src gw = .ok r) :
    r.2.apiSpecs = gw.apiSpecs ∧ r.2.apisByID = gw.apisByID := by
  obtain ⟨n, hn⟩ := syncPolicies_state h
  rw [hn]
  exact ⟨rfl, rfl⟩

/-- `syncPolicies` installs the loaded map when the loader returned no error,
and otherwise leaves `policiesByID` as it was. -/
theorem syncPolicies_policiesByID {conf : Config} {src : PolicySources} {gw : Gateway}
    {r : SyncResult × Gateway} (h : syncPolicies conf src gw = .ok r) :
    r.2.policiesByID =
      match loadConfiguredPolicies conf src gw with
      | .ok (some ((pols, none), _)) => pols
      | _ => gw.policiesByID := by
  obtain ⟨l, hl, rfl⟩ := syncPolicies_eq_ok h
  rw [hl]
  rcases l with _ | ⟨⟨pols, _ | err⟩, gw'⟩
  · rfl
  · rfl
  · obtain ⟨n, rfl⟩ := loadConfiguredPolicies_state hl; rfl

theorem syncPolicies_error {conf : Config} {src : PolicySources} {gw : Gateway}
    {r : SyncResult × Gateway} (h : syncPolicies conf src gw = .ok r) (he : r.1.2 ≠ none) :
    r.2.policiesByID = gw.policiesByID := by
  obtain ⟨l, hl, rfl⟩ := syncPolicies_eq_ok h
  rcases l with _ | ⟨⟨pols, _ | err⟩, gw'⟩
  · rfl
  · exact absurd rfl he
  · obtain ⟨n, rfl⟩ := loadConfiguredPolicies_state hl; rfl

theorem Keyed.syncPolicies {conf : Config} {src : PolicySources} {gw : Gateway}
    {r : SyncResult × Gateway} (h : Keyed gw.policiesByID) (hs : KeyedSource conf src)
    (hr : TykGateway.syncPolicies conf src gw = .ok r) : Keyed r.2.policiesByID := by
  rw [syncPolicies_policiesByID hr]
  split
  · exact keyed_loadConfiguredPolicies hs ‹_›
  · exact h

/-- From the policy file, `syncPolicies` installs the decoded JSON object as
it is, keyed by its object keys. -/
theorem syncPolicies_of_policy_file {conf : Config} {src : PolicySources} {gw : Gateway}
    {m : GoMap Policy} (hs : conf.policySource ≠ "service") (hr : conf.policySource ≠ "rpc")
    (hp : conf.policyPath = "") (hn : conf.policyRecordName ≠ "") (hf : src.file = .decoded m) :
    syncPolicies conf src gw =
      .ok ((GoInt.ofNat m.entries.length, none), { gw with policiesByID := m }) := by
  have hl : loadConfiguredPolicies conf src gw = .ok (some ((m, none), gw)) := by
    unfold loadConfiguredPolicies
    split
    · exact absurd ‹_› hs
    · exact absurd ‹_› hr
    · simp [hp, hn, hf, loadPoliciesFromFile]
  simp [syncPolicies, hl, storePolicies, Except.map]

/-- The gateway after `syncPolicies` has read each source of `srcs` in turn, or
the `log.Fatal` one of the calls stopped at. -/
def syncPoliciesRun (conf : Config) : List PolicySources → Gateway → Except DashboardFatal Gateway
  | [], gw => .ok gw
  | src :: srcs, gw => syncPolicies conf src gw >>= fun r => syncPoliciesRun conf srcs r.2

/-- From the dashboard, RPC, or a policy directory whose files all decode,
every registry reached by any sequence of policy syncs is keyed when the first
one was, and a sync that returns an error leaves the registry as it was; the
syncs stop the process only on a dashboard source with no connection string. -/
theorem policy_registry_stays_keyed (conf : Config) (srcs : List PolicySources) (gw : Gateway)
    (h0 : Keyed gw.policiesByID) (hs : ∀ src ∈ srcs, KeyedSource conf src) :
    (∀ gw', syncPoliciesRun conf srcs gw = .ok gw' → Keyed gw'.policiesByID) ∧
    (∀ src r, syncPolicies conf src gw = .ok r → r.1.2 ≠ none →
      r.2.policiesByID = gw.policiesByID) ∧
    (∀ e, syncPoliciesRun conf srcs gw = .error e →
      srcs ≠ [] ∧ e = .noPolicyConnectionString ∧ PolicyFatal conf) := by
  refine ⟨?_, fun _ _ => syncPolicies_error, ?_⟩
  · induction srcs generalizing gw with
    | nil => intro gw' h; cases h; exact h0
    | cons src srcs ih =>
      intro gw' h
      rcases hr : syncPolicies conf src gw with e | r <;>
        simp only [syncPoliciesRun, hr, bind, Except.bind] at h
      · cases h
      · exact ih _ (h0.syncPolicies (hs src (List.mem_cons_self _ _)) hr)
          (fun s hm => hs s (List.mem_cons_of_mem _ hm)) gw' h
  · induction srcs generalizing gw with
    | nil => intro e h; cases h
    | cons src srcs ih =>
      intro e h
      refine ⟨List.cons_ne_nil _ _, ?_⟩
      rcases hr : syncPolicies conf src gw with e' | r <;>
        simp only [syncPoliciesRun, hr, bind, Except.bind] at h
      · cases h; exact syncPolicies_eq_error.mp hr
      · exact (ih _ (h0.syncPolicies (hs src (List.mem_cons_self _ _)) hr)
          (fun s hm => hs s (List.mem_cons_of_mem _ hm)) e h).2

theorem policy_registry_stays_keyed_from_dashboard :
    let conf := { (default : Config) with
      policySource := "service", policyConnectionString := "http://dashboard" }
    let src : PolicySources :=
      ⟨.response 200 (.ok ([⟨⟨"", "5f1", "org", ∅, 0, 0, 0, 0⟩, ∅⟩], "nonce-1")),
        ⟨.ok [], false, none⟩, .ok [], .openError (.new "no file")⟩
    (Keyed (newGateway "u").policiesByID ∧ ∀ s ∈ [src, src], KeyedSource conf s) ∧
      (∀ gw', syncPoliciesRun conf [src, src] (newGateway "u") = .ok gw' →
        Keyed gw'.policiesByID) ∧
      (∀ s r, syncPolicies conf s (newGateway "u") = .ok r → r.1.2 ≠ none →
        r.2.policiesByID = (newGateway "u").policiesByID) ∧
      (∀ e, syncPoliciesRun conf [src, src] (newGateway "u") = .error e →
        [src, src] ≠ [] ∧ e = .noPolicyConnectionString ∧ PolicyFatal conf) :=
  let hs : ∀ s ∈ _, KeyedSource _ s := fun _ _ => .inl rfl
  ⟨⟨keyed_empty, hs⟩, policy_registry_stays_keyed _ _ _ keyed_empty hs⟩

/-- A policy file whose object key `"a"` holds a policy whose `ID` is `"b"`:
`syncPolicies` installs the entry `"a" ↦ p` with `p.ID = "b"`. -/
theorem policy_file_entry_not_keyed :
    ∃ r, syncPolicies { (default : Config) with policyRecordName := "policies.json" }
        ⟨.requestFailed (.new "unused"), ⟨.ok [], false, none⟩, .ok [],
          .decoded ((∅ : GoMap Policy).insert "a" ⟨"b", "", "", ∅, 0, 0, 0, 0⟩)⟩
        (newGateway "u") = .ok r ∧ ¬Keyed r.2.policiesByID := by
  refine ⟨_, syncPolicies_of_policy_file (by decide) (by decide) rfl (by decide) rfl, fun h => ?_⟩
  exact absurd (h "a" ⟨"b", "", "", ∅, 0, 0, 0, 0⟩ (AList.lookup_insert _)) (by decide)

end TykGateway
