import TykGateway.Go.Basic

/-! # Policy records and the four policy loaders

A policy reaches the gateway from a policy file (one JSON object keyed by
policy id), from a directory of JSON files (one policy each), from the
dashboard (a list of `DBPolicy` records and a fresh nonce), or over RPC (a
list of `user.Policy` records). The two remote loaders resolve each record's
id the same way, from its `MID` or, when explicit ids are allowed, from its
`ID`; the dashboard loader keeps the first record of a duplicate id, the RPC
loader the last.

## Implementation notes

A bson `ObjectId` is represented by its hex string, the value `MID.Hex()`
returns. JSON decoding is the library's: a loader receives what it decoded, or
the decoding error. Only the fields that the loaders read or convert are kept;
the others are copied unchanged by every loader and are left out.
-/

namespace TykGateway

/-- `user.APILimit`, reduced to the fields kept in the model. -/
structure APILimit where
  rate : Int
  per : Int
  quotaMax : Int
  quotaRenewalRate : Int
  deriving DecidableEq, Repr

instance : Inhabited APILimit := ⟨⟨0, 0, 0, 0⟩⟩

/-- `user.AccessSpec`. -/
structure AccessSpec where
  url : String
  methods : List String
  deriving DecidableEq, Repr

/-- `user.AccessDefinition`. -/
structure AccessDefinition where
  apiName : String
  apiID : String
  versions : List String
  allowedURLs : List AccessSpec
  disableIntrospection : Bool
  limit : APILimit
  deriving DecidableEq, Repr

/-- `DBAccessDefinition`: as stored by the dashboard, with an optional limit. -/
structure DBAccessDefinition where
  apiName : String
  apiID : String
  versions : List String
  allowedURLs : List AccessSpec
  disableIntrospection : Bool
  limit : Option APILimit
  deriving DecidableEq, Repr

/-- `user.Policy`. -/
structure Policy where
  ID : String
  /-- `MID.Hex()`. -/
  MID : String
  orgID : String
  accessRights : GoMap AccessDefinition
  rate : Int
  per : Int
  quotaMax : Int
  quotaRenewalRate : Int
  deriving DecidableEq

/-- `DBPolicy`: a `user.Policy` whose access rights are `DBAccessDefinition`s. -/
structure DBPolicy where
  policy : Policy
  accessRights : GoMap DBAccessDefinition
  deriving DecidableEq

/-- `(*DBAccessDefinition).ToRegularAD`. -/
def DBAccessDefinition.toRegularAD (d : DBAccessDefinition) : AccessDefinition :=
  { apiName := d.apiName, apiID := d.apiID, versions := d.versions,
    allowedURLs := d.allowedURLs, disableIntrospection := d.disableIntrospection,
    limit := d.limit.getD default }

/-- `(*DBPolicy).ToRegularPolicy`. -/
def DBPolicy.toRegularPolicy (d : DBPolicy) : Policy :=
  { d.policy with
    accessRights := d.accessRights.foldl (fun m k v => m.insert k v.toRegularAD) ∅ }

/-- The id a remote loader files a record under: `MID.Hex()`, or the explicit
`ID` when explicit ids are allowed and it is not empty. -/
def resolvedID (allowExplicit : Bool) (p : Policy) : String :=
  if allowExplicit && p.ID != "" then p.ID else p.MID

/-- `p.ID = id`. -/
def Policy.setID (p : Policy) (id : String) : Policy := { p with ID := id }

/-- `p.ID = id` on the embedded policy of a `DBPolicy`. -/
def DBPolicy.setID (p : DBPolicy) (id : String) : DBPolicy :=
  { p with policy := p.policy.setID id }

@[simp] theorem Policy.setID_ID (p : Policy) (id : String) : (p.setID id).ID = id := rfl

@[simp] theorem DBPolicy.toRegularPolicy_ID (d : DBPolicy) : d.toRegularPolicy.ID = d.policy.ID :=
  rfl

@[simp] theorem DBPolicy.toRegularPolicy_MID (d : DBPolicy) :
    d.toRegularPolicy.MID = d.policy.MID := rfl

theorem DBPolicy.toRegularPolicy_setID (d : DBPolicy) (id : String) :
    (d.setID id).toRegularPolicy = d.toRegularPolicy.setID id := rfl

theorem resolvedID_toRegularPolicy (allowExplicit : Bool) (d : DBPolicy) :
    resolvedID allowExplicit d.toRegularPolicy = resolvedID allowExplicit d.policy := rfl

/-! ### The loaders -/

/-- What reading one file gives: it does not open, `json.Decode` fails after
filling part of the value, or the decoded value. -/
inductive FileRead (α : Type) where
  | openError (e : GoError)
  | decodeError (e : GoError) (filled : α)
  | decoded (v : α)
  deriving DecidableEq

/-- `LoadPoliciesFromFile`: the policy file is one JSON object keyed by id. -/
def loadPoliciesFromFile : FileRead (GoMap Policy) → GoMap Policy × Option GoError
  | .openError e => (∅, some e)
  | .decodeError e _ => (∅, some e)
  | .decoded policies => (policies, none)

/-- One iteration of the loop of `LoadPoliciesFromDir` over the globbed paths. -/
def loadPolicyFromDirEntry (policies : GoMap Policy) : FileRead Policy → GoMap Policy
  | .openError _ => policies
  | .decodeError _ pol => policies.insert pol.ID pol
  | .decoded pol => policies.insert pol.ID pol

/-- `LoadPoliciesFromDir`, over the result of `filepath.Glob(dir/*.json)` and
what each file holds. -/
def loadPoliciesFromDir : Except GoError (List (FileRead Policy)) → GoMap Policy × Option GoError
  | .error e => (∅, some e)
  | .ok paths => (paths.foldl loadPolicyFromDirEntry ∅, none)

/-- One iteration of the loop of `LoadPoliciesFromDashboard` over
`list.Message`: a record whose id is already present is skipped. -/
def dashboardInsert (allowExplicit : Bool) (policies : GoMap Policy) (p : DBPolicy) :
    GoMap Policy :=
  let id := resolvedID allowExplicit p.policy
  if id ∈ policies then policies else policies.insert id (p.setID id).toRegularPolicy

/-- The loop of `LoadPoliciesFromDashboard` over `list.Message`. -/
def dashboardPolicies (allowExplicit : Bool) (list : List DBPolicy) : GoMap Policy :=
  list.foldl (dashboardInsert allowExplicit) ∅

/-- `ErrPoliciesFetchFailed`. -/
def errPoliciesFetchFailed : GoError := .new "fetch policies request login failure"

/-- The dashboard's answer to the policy request: the request fails, or a
status code and what decoding the body as `{Message, Nonce}` gives. -/
inductive DashboardAnswer where
  | requestFailed (e : GoError)
  | response (status : Nat) (body : Except GoError (List DBPolicy × String))

/-- `LoadPoliciesFromDashboard`: the policies and error it returns, and the
nonce it stores in `ServiceNonce`, if it stores one. -/
def loadPoliciesFromDashboard (allowExplicit : Bool) :
    DashboardAnswer → (GoMap Policy × Option GoError) × Option String
  | .requestFailed e => ((∅, some e), none)
  | .response status body =>
    if status ≠ 200 then ((∅, some errPoliciesFetchFailed), none)
    else match body with
      | .error e => ((∅, some e), none)
      | .ok (message, nonce) => ((dashboardPolicies allowExplicit message, none), some nonce)

/-- One iteration of the loop of `parsePoliciesFromRPC`: a later record
replaces an earlier one of the same id. -/
def rpcInsert (allowExplicit : Bool) (policies : GoMap Policy) (p : Policy) : GoMap Policy :=
  let id := resolvedID allowExplicit p
  policies.insert id (p.setID id)

/-- The loop of `parsePoliciesFromRPC` over the decoded list. -/
def rpcPolicies (allowExplicit : Bool) (list : List Policy) : GoMap Policy :=
  list.foldl (rpcInsert allowExplicit) ∅

/-- `parsePoliciesFromRPC`, after `json.Unmarshal` of the list. -/
def parsePoliciesFromRPC (list : Except GoError (List Policy)) (allowExplicit : Bool) :
    GoMap Policy × Option GoError :=
  match list with
  | .error e => (∅, some e)
  | .ok dbPolicyList => (rpcPolicies allowExplicit dbPolicyList, none)

/-- What the RPC store gives `LoadPoliciesFromRPC`: the cached backup of the
policy payload, whether it connects, and the live payload, `none` when it is
the empty string. -/
structure RPCAnswer where
  backup : Except GoError (List Policy)
  connected : Bool
  payload : Option (Except GoError (List Policy))

/-- Modelled from the spec: `LoadPoliciesFromRPCBackup` is not in the modelled
files. The spec retries the sync "once against a cached backup" of the remote
source, so the cached payload is parsed as the live one. -/
def loadPoliciesFromRPCBackup (backup : Except GoError (List Policy)) (allowExplicit : Bool) :
    GoMap Policy × Option GoError :=
  parsePoliciesFromRPC backup allowExplicit

/-- `LoadPoliciesFromRPC`. -/
def loadPoliciesFromRPC (emergencyMode : Bool) (ans : RPCAnswer) (allowExplicit : Bool) :
    GoMap Policy × Option GoError :=
  if emergencyMode then loadPoliciesFromRPCBackup ans.backup allowExplicit
  else if !ans.connected then (∅, some (.new "Policies backup: Failed connecting to database"))
  else match ans.payload with
    | none => (∅, some (.new "failed to fetch policies from RPC store; connection may be down"))
    | some list => parsePoliciesFromRPC list allowExplicit

/-! ### The two remote loaders on one list -/

section Remote

variable (allowExplicit : Bool)

/-- The dashboard loop keeps what the map had, and otherwise the first record
of the list with the id. -/
theorem lookup_foldl_dashboardInsert (id : String) :
    ∀ (list : List DBPolicy) (m : GoMap Policy),
      (list.foldl (dashboardInsert allowExplicit) m).lookup id =
        (m.lookup id).or ((list.find? fun p => resolvedID allowExplicit p.policy = id).map
          fun p => (p.setID id).toRegularPolicy)
  | [], m => by simp
  | p :: ps, m => by
    rw [List.foldl_cons, lookup_foldl_dashboardInsert id ps]
    by_cases hid : resolvedID allowExplicit p.policy = id
    · subst hid
      by_cases hm : resolvedID allowExplicit p.policy ∈ m
      · obtain ⟨v, hv⟩ := Option.isSome_iff_exists.mp (AList.lookup_isSome.mpr hm)
        simp [dashboardInsert, hm, hv]
      · simp [dashboardInsert, hm, AList.lookup_insert, AList.lookup_eq_none.mpr hm]
    · have hne : id ≠ resolvedID allowExplicit p.policy := Ne.symm hid
      by_cases hm : resolvedID allowExplicit p.policy ∈ m
      · simp [dashboardInsert, hm, hid]
      · simp [dashboardInsert, hm, hid, AList.lookup_insert_ne hne]

/-- The RPC loop keeps the last record of the list with the id, and otherwise
what the map had. -/
theorem lookup_foldl_rpcInsert (id : String) :
    ∀ (list : List Policy) (m : GoMap Policy),
      (list.foldl (rpcInsert allowExplicit) m).lookup id =
        ((list.reverse.find? fun p => resolvedID allowExplicit p = id).map
          fun p => p.setID id).or (m.lookup id)
  | [], m => by simp
  | p :: ps, m => by
    rw [List.foldl_cons, lookup_foldl_rpcInsert id ps, List.reverse_cons, List.find?_append]
    by_cases hid : resolvedID allowExplicit p = id
    · subst hid
      cases ps.reverse.find? (fun q => resolvedID allowExplicit q = resolvedID allowExplicit p) <;>
        simp [rpcInsert, AList.lookup_insert]
    · simp [rpcInsert, hid, AList.lookup_insert_ne (Ne.symm hid)]

theorem lookup_dashboardPolicies (list : List DBPolicy) (id : String) :
    (dashboardPolicies allowExplicit list).lookup id =
      (list.find? fun p => resolvedID allowExplicit p.policy = id).map
        fun p => (p.setID id).toRegularPolicy := by
  simp [dashboardPolicies, lookup_foldl_dashboardInsert, AList.lookup_empty]

theorem lookup_rpcPolicies_toRegularPolicy (list : List DBPolicy) (id : String) :
    (rpcPolicies allowExplicit (list.map DBPolicy.toRegularPolicy)).lookup id =
      (list.reverse.find? fun p => resolvedID allowExplicit p.policy = id).map
        fun p => (p.setID id).toRegularPolicy := by
  simp only [rpcPolicies, lookup_foldl_rpcInsert, AList.lookup_empty, Option.or_none,
    ← List.map_reverse, List.find?_map, Option.map_map]
  rfl

/-- The dashboard and RPC loaders file a list under the same ids. At each id the
dashboard keeps the first record with that id and the RPC loader the last,
each with its `ID` set to the id, so the two agree at every id that a single
record carries. -/
theorem dashboard_rpc_loaders_keys_and_tiebreak (L : List DBPolicy) :
    (∀ id, id ∈ dashboardPolicies allowExplicit L ↔
      id ∈ rpcPolicies allowExplicit (L.map DBPolicy.toRegularPolicy)) ∧
    (∀ id, (dashboardPolicies allowExplicit L).lookup id =
      (L.find? fun p => resolvedID allowExplicit p.policy = id).map
        fun p => (p.setID id).toRegularPolicy) ∧
    (∀ id, (rpcPolicies allowExplicit (L.map DBPolicy.toRegularPolicy)).lookup id =
      (L.reverse.find? fun p => resolvedID allowExplicit p.policy = id).map
        fun p => (p.setID id).toRegularPolicy) ∧
    (∀ id, (L.filter fun p => resolvedID allowExplicit p.policy = id).length ≤ 1 →
      (dashboardPolicies allowExplicit L).lookup id =
        (rpcPolicies allowExplicit (L.map DBPolicy.toRegularPolicy)).lookup id) := by
  refine ⟨fun id => ?_, lookup_dashboardPolicies allowExplicit L,
    lookup_rpcPolicies_toRegularPolicy allowExplicit L, fun id hl => ?_⟩
  · rw [← AList.lookup_isSome, ← AList.lookup_isSome, lookup_dashboardPolicies,
      lookup_rpcPolicies_toRegularPolicy]
    simp
  · rw [lookup_dashboardPolicies, lookup_rpcPolicies_toRegularPolicy, ← List.filter_head?,
      ← List.filter_getLast?]
    generalize L.filter (fun p => resolvedID allowExplicit p.policy = id) = F at hl ⊢
    match F, hl with
    | [], _ => rfl
    | [_], _ => rfl
    | _ :: _ :: _, h => simp at h

/-- Two records with the same `MID`: the dashboard keeps the first, RPC the last. -/
theorem dashboard_rpc_loaders_differ_on_duplicate_id :
    ((dashboardPolicies false
        [⟨⟨"", "5f1", "org-a", ∅, 0, 0, 0, 0⟩, ∅⟩, ⟨⟨"", "5f1", "org-b", ∅, 0, 0, 0, 0⟩, ∅⟩]).lookup
      "5f1").map Policy.orgID = some "org-a" ∧
    ((rpcPolicies false
        ([⟨⟨"", "5f1", "org-a", ∅, 0, 0, 0, 0⟩, ∅⟩, ⟨⟨"", "5f1", "org-b", ∅, 0, 0, 0, 0⟩, ∅⟩].map
          DBPolicy.toRegularPolicy)).lookup "5f1").map Policy.orgID = some "org-b" := by
  decide

end Remote

end TykGateway
