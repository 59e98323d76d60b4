import TykGateway.ControlAPI

/-! # The REST API router

`loadControlAPIEndpoints` registers the gateway's REST API on the router `r`
behind the `/tyk/` chain of the control router. `r` redirects a request whose
path is not clean, and otherwise runs the handler of the first route whose
path template, methods and query all match. It registers the reload routes
first; then, outside RPC mode, the routes that manage organisation keys,
policies, API definitions and OAuth clients; then the routes every gateway
has. In RPC mode a request for a management route falls through to the later
routes: `POST /keys/create` reaches `keyHandler` for the key `create`, and
`GET /oauth/clients/apis/{appID}` reaches `oAuthClientHandler`.

## Implementation notes

A path template is its list of `/`-separated segments: a literal, `{name}`
(matching `[^/]+`) or `{name:[^/]*}`; a path is matched segment by segment
after its leading `/`. In `Queries("orgID", "{[0-9]*?}")` `mux` reads the
braces as the variable's name, so the value gets `mux`'s default pattern for
queries, `.*`: any request with an `orgID` query matches. When no route
matches, `mux` answers 404, or 405 when a route failed only on its method;
the model does not tell the two apart, since which one `mux` gives depends on
its version. The handlers and their wrappers are declared outside the
modelled files.
-/

namespace TykGateway

/-- `apidef.RPCStorageEngine`. -/
def rpcStorageEngine : String := "rpc"

/-- `isRPCMode`: the auth provider is forced to the RPC storage engine. -/
def isRPCMode (conf : Config) : Bool :=
  conf.forceAuthProvider && conf.authProvider.storageEngine == rpcStorageEngine

/-! ### Path templates -/

/-- A segment of a `mux` path template. -/
inductive PathSegment where
  | lit (s : String)
  /-- `{name}`, matching `[^/]+`. -/
  | var (name : String)
  /-- `{name:[^/]*}`. -/
  | varOrEmpty (name : String)
  deriving DecidableEq, Repr

/-- The variables a segment binds when it matches `seg`. -/
def PathSegment.bind : PathSegment → String → Option (List (String × String))
  | .lit s, seg => if seg = s then some [] else none
  | .var name, seg => if seg = "" then none else some [(name, seg)]
  | .varOrEmpty name, seg => some [(name, seg)]

/-- The variables of a template that matches the segments of a path. -/
def matchSegments : List PathSegment → List String → Option (List (String × String))
  | [], [] => some []
  | t :: ts, s :: ss => (t.bind s).bind fun v => (matchSegments ts ss).map (v ++ ·)
  | _, _ => none

/-- The segments of a path after its leading `/`. -/
def pathSegments (path : String) : Option (List String) :=
  match (path.toList.splitOn '/').map String.mk with
  | "" :: segs => some segs
  | _ => none

@[simp] theorem PathSegment.bind_lit_eq_some {x seg : String} {v : List (String × String)} :
    (PathSegment.lit x).bind seg = some v ↔ seg = x ∧ v = [] := by
  simp only [PathSegment.bind]
  split_ifs with h <;> simp [h, eq_comm]

@[simp] theorem PathSegment.bind_var_eq_some {name seg : String} {v : List (String × String)} :
    (PathSegment.var name).bind seg = some v ↔ seg ≠ "" ∧ v = [(name, seg)] := by
  simp only [PathSegment.bind]
  split_ifs with h <;> simp [h, eq_comm]

@[simp] theorem PathSegment.bind_varOrEmpty_eq_some {name seg : String}
    {v : List (String × String)} :
    (PathSegment.varOrEmpty name).bind seg = some v ↔ v = [(name, seg)] := by
  simp [PathSegment.bind, eq_comm]

@[simp] theorem matchSegments_cons_eq_some {t : PathSegment} {ts : List PathSegment} {seg : String}
    {segs : List String} {v : List (String × String)} :
    matchSegments (t :: ts) (seg :: segs) = some v ↔
      ∃ a, t.bind seg = some a ∧ ∃ b, matchSegments ts segs = some b ∧ v = a ++ b := by
  show ((t.bind seg).bind fun a => (matchSegments ts segs).map (a ++ ·)) = some v ↔ _
  cases t.bind seg <;> cases matchSegments ts segs <;> simp [eq_comm]

@[simp] theorem matchSegments_nil_nil : matchSegments [] [] = some [] := rfl

@[simp] theorem matchSegments_nil_cons {seg : String} {segs : List String} :
    matchSegments [] (seg :: segs) = none := rfl

@[simp] theorem matchSegments_cons_nil {t : PathSegment} {ts : List PathSegment} :
    matchSegments (t :: ts) [] = none := rfl

/-- A literal template segment takes exactly that segment. -/
theorem matchSegments_lit_eq_some {x : String} {ts : List PathSegment} {segs : List String}
    {v : List (String × String)} :
    matchSegments (.lit x :: ts) segs = some v ↔
      ∃ rest, segs = x :: rest ∧ matchSegments ts rest = some v := by
  cases segs with
  | nil => simp
  | cons seg rest =>
    simp only [matchSegments_cons_eq_some, PathSegment.bind_lit_eq_some, List.cons.injEq]
    constructor
    · rintro ⟨_, ⟨rfl, rfl⟩, b, hb, rfl⟩
      exact ⟨rest, ⟨rfl, rfl⟩, hb⟩
    · rintro ⟨_, ⟨rfl, rfl⟩, hb⟩
      exact ⟨[], ⟨rfl, rfl⟩, v, hb, rfl⟩

theorem matchSegments_nil_eq_some {segs : List String} {v : List (String × String)} :
    matchSegments [] segs = some v ↔ segs = [] ∧ v = [] := by
  cases segs <;> simp [eq_comm]

theorem matchSegments_var_eq_some {name : String} {segs : List String}
    {v : List (String × String)} :
    matchSegments [.var name] segs = some v ↔ ∃ seg, segs = [seg] ∧ seg ≠ "" ∧ v = [(name, seg)] := by
  rcases segs with _ | ⟨seg, _ | ⟨_, _⟩⟩ <;> simp

/-! ### The routes of `r` -/

/-- The handlers of the REST API. -/
inductive RestHandler where
  | groupResetHandler | resetHandler | orgHandler | policyUpdateHandler | createKeyHandler
  | apiHandler | apiOASGetHandler | apiOASPostHandler | apiOASPutHandler | apiOASPatchHandler
  | versionsHandler | apiOASExportHandler | healthCheckhandler | polHandler | createOauthClient
  | oAuthClientHandler | rotateOauthClientHandler | getApisForOauthApp | invalidateOauthRefresh
  | revokeTokenHandler | revokeAllTokensHandler | traceHandler | invalidateCacheHandler
  | keyHandler | previewKeyHandler | certHandler | oAuthClientTokensHandler | oAuthTokensHandler
  | schemaHandler
  deriving DecidableEq, Repr

/-- A wrapper a route puts around its handler. -/
inductive RestWrapper where
  | blockInDashboardMode | validateOAS | makeImportedOASTykAPI
  deriving DecidableEq, Repr

/-- One `r.HandleFunc(path, handler).Methods(...)`. -/
structure RestRoute where
  path : List PathSegment
  methods : List String
  /-- `.Queries("orgID", "{[0-9]*?}")`. -/
  orgIDQuery : Bool
  /-- The wrappers around the handler, outermost first. -/
  wrappers : List RestWrapper
  handler : RestHandler
  deriving DecidableEq, Repr

/-- The reload routes, registered first. -/
def reloadRoutes : List RestRoute :=
  [⟨[.lit "reload", .lit "group"], ["GET"], false, [], .groupResetHandler⟩,
    ⟨[.lit "reload"], ["GET"], false, [], .resetHandler⟩]

/-- `POST /keys/create`. -/
def createKeyRoute : RestRoute :=
  ⟨[.lit "keys", .lit "create"], ["POST"], false, [], .createKeyHandler⟩

/-- `DELETE /apis/{apiID}`. -/
def deleteAPIRoute : RestRoute := ⟨[.lit "apis", .var "apiID"], ["DELETE"], false, [], .apiHandler⟩

/-- `GET /oauth/clients/apis/{appID}` with an `orgID` query. -/
def apisForOauthAppRoute : RestRoute :=
  ⟨[.lit "oauth", .lit "clients", .lit "apis", .var "appID"], ["GET"], true, [],
    .getApisForOauthApp⟩

/-- The routes registered only outside RPC mode, in their order. -/
def managementRoutes : List RestRoute :=
  [⟨[.lit "org", .lit "keys"], ["GET"], false, [], .orgHandler⟩,
    ⟨[.lit "org", .lit "keys", .varOrEmpty "keyName"], ["POST", "PUT", "GET", "DELETE"], false, [],
      .orgHandler⟩,
    ⟨[.lit "keys", .lit "policy", .var "keyName"], ["POST"], false, [], .policyUpdateHandler⟩,
    createKeyRoute,
    ⟨[.lit "apis"], ["GET"], false, [], .apiHandler⟩,
    ⟨[.lit "apis"], ["POST"], false, [.blockInDashboardMode], .apiHandler⟩,
    ⟨[.lit "apis", .lit "oas"], ["GET"], false, [], .apiOASGetHandler⟩,
    ⟨[.lit "apis", .lit "oas"], ["POST"], false, [.blockInDashboardMode, .validateOAS],
      .apiOASPostHandler⟩,
    ⟨[.lit "apis", .var "apiID"], ["GET"], false, [], .apiHandler⟩,
    ⟨[.lit "apis", .var "apiID"], ["POST"], false, [.blockInDashboardMode], .apiHandler⟩,
    ⟨[.lit "apis", .var "apiID"], ["PUT"], false, [.blockInDashboardMode], .apiHandler⟩,
    deleteAPIRoute,
    ⟨[.lit "apis", .var "apiID", .lit "versions"], ["GET"], false, [], .versionsHandler⟩,
    ⟨[.lit "apis", .lit "oas", .lit "export"], ["GET"], false, [], .apiOASExportHandler⟩,
    ⟨[.lit "apis", .lit "oas", .lit "import"], ["POST"], false,
      [.blockInDashboardMode, .validateOAS, .makeImportedOASTykAPI], .apiOASPostHandler⟩,
    ⟨[.lit "apis", .lit "oas", .var "apiID"], ["GET"], false, [], .apiOASGetHandler⟩,
    ⟨[.lit "apis", .lit "oas", .var "apiID"], ["PUT"], false, [.blockInDashboardMode, .validateOAS],
      .apiOASPutHandler⟩,
    ⟨[.lit "apis", .lit "oas", .var "apiID"], ["PATCH"], false,
      [.blockInDashboardMode, .validateOAS], .apiOASPatchHandler⟩,
    ⟨[.lit "apis", .lit "oas", .var "apiID"], ["DELETE"], false, [.blockInDashboardMode],
      .apiHandler⟩,
    ⟨[.lit "apis", .lit "oas", .var "apiID", .lit "versions"], ["GET"], false, [],
      .versionsHandler⟩,
    ⟨[.lit "apis", .lit "oas", .var "apiID", .lit "export"], ["GET"], false, [],
      .apiOASExportHandler⟩,
    ⟨[.lit "health"], ["GET"], false, [], .healthCheckhandler⟩,
    ⟨[.lit "policies"], ["GET", "POST", "PUT", "DELETE"], false, [], .polHandler⟩,
    ⟨[.lit "policies", .var "polID"], ["GET", "POST", "PUT", "DELETE"], false, [], .polHandler⟩,
    ⟨[.lit "oauth", .lit "clients", .lit "create"], ["POST"], false, [], .createOauthClient⟩,
    ⟨[.lit "oauth", .lit "clients", .var "apiID", .varOrEmpty "keyName"], ["PUT"], false, [],
      .oAuthClientHandler⟩,
    ⟨[.lit "oauth", .lit "clients", .var "apiID", .varOrEmpty "keyName", .lit "rotate"], ["PUT"],
      false, [], .rotateOauthClientHandler⟩,
    apisForOauthAppRoute,
    ⟨[.lit "oauth", .lit "refresh", .var "keyName"], ["DELETE"], false, [],
      .invalidateOauthRefresh⟩,
    ⟨[.lit "oauth", .lit "revoke"], ["POST"], false, [], .revokeTokenHandler⟩,
    ⟨[.lit "oauth", .lit "revoke_all"], ["POST"], false, [], .revokeAllTokensHandler⟩]

/-- `POST|PUT|GET|DELETE /keys/{keyName:[^/]*}`. -/
def keyRoute : RestRoute :=
  ⟨[.lit "keys", .varOrEmpty "keyName"], ["POST", "PUT", "GET", "DELETE"], false, [], .keyHandler⟩

/-- `GET|DELETE /oauth/clients/{apiID}/{keyName:[^/]*}`. -/
def oauthClientKeyRoute : RestRoute :=
  ⟨[.lit "oauth", .lit "clients", .var "apiID", .varOrEmpty "keyName"], ["GET", "DELETE"], false,
    [], .oAuthClientHandler⟩

/-- The routes every gateway registers last, in their order. -/
def commonRoutes : List RestRoute :=
  [⟨[.lit "debug"], ["POST"], false, [], .traceHandler⟩,
    ⟨[.lit "cache", .var "apiID"], ["DELETE"], false, [], .invalidateCacheHandler⟩,
    ⟨[.lit "keys"], ["POST", "PUT", "GET", "DELETE"], false, [], .keyHandler⟩,
    ⟨[.lit "keys", .lit "preview"], ["POST"], false, [], .previewKeyHandler⟩,
    keyRoute,
    ⟨[.lit "certs"], ["POST", "GET"], false, [], .certHandler⟩,
    ⟨[.lit "certs", .varOrEmpty "certID"], ["POST", "GET", "DELETE"], false, [], .certHandler⟩,
    ⟨[.lit "oauth", .lit "clients", .var "apiID"], ["GET", "DELETE"], false, [],
      .oAuthClientHandler⟩,
    oauthClientKeyRoute,
    ⟨[.lit "oauth", .lit "clients", .var "apiID", .var "keyName", .lit "tokens"], ["GET"], false,
      [], .oAuthClientTokensHandler⟩,
    ⟨[.lit "oauth", .lit "tokens"], ["DELETE"], false, [], .oAuthTokensHandler⟩,
    ⟨[.lit "schema"], ["GET"], false, [], .schemaHandler⟩]

/-- The routes of `r`, as `loadControlAPIEndpoints` registers them. -/
def restRoutes (conf : Config) : List RestRoute :=
  reloadRoutes ++ (if isRPCMode conf then [] else managementRoutes) ++ commonRoutes

/-! ### Serving a request -/

/-- What `r` reads of a request: its method, its path as the `/tyk/` chain
left it, and whether its query has an `orgID`. -/
structure RestRequest where
  method : String
  path : String
  hasOrgID : Bool
  deriving DecidableEq, Repr

/-- The path variables of a route that matches the request. -/
def RestRoute.matches (r : RestRoute) (req : RestRequest) : Option (List (String × String)) :=
  if req.method ∈ r.methods ∧ (r.orgIDQuery = true → req.hasOrgID = true) then
    (pathSegments req.path).bind (matchSegments r.path)
  else none

/-- The first route that matches, with its path variables. -/
def muxMatch (req : RestRequest) : List RestRoute → Option (RestRoute × List (String × String))
  | [] => none
  | r :: rs =>
    match r.matches req with
    | some vars => some (r, vars)
    | none => muxMatch req rs

/-- What `r` does with a request. -/
inductive RestAnswer where
  | movedPermanently (location : String)
  /-- 404, or 405 when a route failed only on its method. -/
  | notMatched
  | served (route : RestRoute) (vars : List (String × String))
  deriving DecidableEq, Repr

/-- `r.ServeHTTP`. -/
def restAPI (cleanPath : String → String) (conf : Config) (req : RestRequest) : RestAnswer :=
  if cleanPath req.path ≠ req.path then .movedPermanently (cleanPath req.path)
  else
    match muxMatch req (restRoutes conf) with
    | none => .notMatched
    | some (r, vars) => .served r vars

/-- A request to the control port, through the control router and, for
`/tyk/`, the REST router. -/
def controlPort (cleanPath : String → String) (conf : Config) (settings : ControlAPIConfig)
    (cliHTTPProfile useMutualTLS : Bool) (req : ControlRequest) (method : String)
    (hasOrgID : Bool) : ControlAnswer ⊕ RestAnswer :=
  match controlAPI cleanPath conf settings cliHTTPProfile useMutualTLS req with
  | .served .restAPI p => .inr (restAPI cleanPath conf ⟨method, p, hasOrgID⟩)
  | a => .inl a

/-! ### What a lookup can return -/

theorem muxMatch_append (req : RestRequest) (l₁ l₂ : List RestRoute) :
    muxMatch req (l₁ ++ l₂) = (muxMatch req l₁).or (muxMatch req l₂) := by
  induction l₁ with
  | nil => rfl
  | cons r rs ih =>
    simp only [List.cons_append, muxMatch]
    split <;> simp [ih]

theorem muxMatch_mem {req : RestRequest} {l : List RestRoute} {r : RestRoute}
    {vars : List (String × String)} (h : muxMatch req l = some (r, vars)) :
    r ∈ l ∧ r.matches req = some vars := by
  induction l with
  | nil => cases h
  | cons r' rs ih =>
    simp only [muxMatch] at h
    split at h
    · cases h; exact ⟨List.mem_cons_self _ _, ‹_›⟩
    · exact ⟨List.mem_cons_of_mem _ (ih h).1, (ih h).2⟩

/-! ### Routes that one request can match -/

/-- Whether two template segments can match one path segment. -/
def PathSegment.overlaps : PathSegment → PathSegment → Bool
  | .lit a, .lit b => a == b
  | .lit a, .var _ | .var _, .lit a => a != ""
  | _, _ => true

/-- Whether two templates can match one path. -/
def templatesOverlap : List PathSegment → List PathSegment → Bool
  | [], [] => true
  | a :: as, b :: bs => a.overlaps b && templatesOverlap as bs
  | _, _ => false

theorem PathSegment.overlaps_of_bind {a b : PathSegment} {seg : String}
    {v w : List (String × String)} (ha : a.bind seg = some v) (hb : b.bind seg = some w) :
    a.overlaps b = true := by
  cases a <;> cases b <;>
    simp only [PathSegment.bind_lit_eq_some, PathSegment.bind_var_eq_some,
      PathSegment.bind_varOrEmpty_eq_some] at ha hb <;>
    simp only [PathSegment.overlaps, bne_iff_ne, ne_eq, beq_iff_eq]
  · exact ha.1.symm.trans hb.1
  · exact ha.1 ▸ hb.1
  · exact hb.1 ▸ ha.1

theorem templatesOverlap_of_match {t₁ t₂ : List PathSegment} {segs : List String}
    {v w : List (String × String)} (h₁ : matchSegments t₁ segs = some v)
    (h₂ : matchSegments t₂ segs = some w) : templatesOverlap t₁ t₂ = true := by
  induction t₁ generalizing t₂ segs v w with
  | nil =>
    cases segs with
    | nil =>
      cases t₂ with
      | nil => rfl
      | cons b bs => simp at h₂
    | cons seg segs => simp at h₁
  | cons a as ih =>
    cases segs with
    | nil => simp at h₁
    | cons seg segs =>
      cases t₂ with
      | nil => simp at h₂
      | cons b bs =>
        obtain ⟨va, ha, vs, hs, -⟩ := matchSegments_cons_eq_some.mp h₁
        obtain ⟨wb, hb, ws, hw, -⟩ := matchSegments_cons_eq_some.mp h₂
        simp only [templatesOverlap, PathSegment.overlaps_of_bind ha hb, ih hs hw, Bool.and_self]

/-- Whether one request can match both routes. -/
def RestRoute.overlaps (r c : RestRoute) : Bool :=
  r.methods.any (· ∈ c.methods) && templatesOverlap r.path c.path

theorem RestRoute.overlaps_of_matches {r c : RestRoute} {req : RestRequest}
    {v w : List (String × String)} (hr : r.matches req = some v) (hc : c.matches req = some w) :
    r.overlaps c = true := by
  unfold RestRoute.matches at hr hc
  split_ifs at hr hc with hmr hmc
  obtain ⟨segs, hsegs, hr⟩ := Option.bind_eq_some.mp hr
  obtain ⟨segs', hsegs', hc⟩ := Option.bind_eq_some.mp hc
  cases hsegs.symm.trans hsegs'
  simp only [RestRoute.overlaps, templatesOverlap_of_match hr hc, Bool.and_true,
    List.any_eq_true, decide_eq_true_eq]
  exact ⟨req.method, hmr.1, hmc.1⟩

theorem RestRoute.matches_eq_some {r : RestRoute} {req : RestRequest}
    {v : List (String × String)} :
    r.matches req = some v ↔
      (req.method ∈ r.methods ∧ (r.orgIDQuery = true → req.hasOrgID = true)) ∧
        ∃ segs, pathSegments req.path = some segs ∧ matchSegments r.path segs = some v := by
  unfold RestRoute.matches
  split_ifs with h
  · exact ⟨(fun hv => ⟨h, Option.bind_eq_some.mp hv⟩), (fun hv => Option.bind_eq_some.mpr hv.2)⟩
  · exact ⟨(fun hv => by cases hv), (fun hv => absurd hv.1 h)⟩

theorem restAPI_eq_served {cleanPath : String → String} {conf : Config} {req : RestRequest}
    {r : RestRoute} {vars : List (String × String)}
    (h : restAPI cleanPath conf req = .served r vars) :
    cleanPath req.path = req.path ∧ muxMatch req (restRoutes conf) = some (r, vars) := by
  unfold restAPI at h
  split_ifs at h with hc
  refine ⟨not_not.mp hc, ?_⟩
  split at h
  · cases h
  · cases h; assumption

/-! ### The RPC-mode router -/

/-- The only management routes that a request can share with a later route. -/
theorem managementRoutes_overlap_commonRoutes :
    ∀ r ∈ managementRoutes, ∀ c ∈ commonRoutes, r.overlaps c = true →
      r = createKeyRoute ∧ c = keyRoute ∨ r = apisForOauthAppRoute ∧ c = oauthClientKeyRoute := by
  decide

/-- A request for `POST /keys/create` is one `keyRoute` takes for the key
`create`. -/
theorem keyRoute_of_createKeyRoute {req : RestRequest} {v : List (String × String)}
    (h : createKeyRoute.matches req = some v) :
    req.method = "POST" ∧ pathSegments req.path = some ["keys", "create"] ∧
      keyRoute.matches req = some [("keyName", "create")] := by
  obtain ⟨⟨hm, -⟩, segs, hs, hv⟩ := RestRoute.matches_eq_some.mp h
  simp only [createKeyRoute, List.mem_singleton] at hm
  simp only [createKeyRoute, matchSegments_lit_eq_some, matchSegments_nil_eq_some] at hv
  obtain ⟨_, rfl, _, rfl, rfl, -⟩ := hv
  refine ⟨hm, hs, ?_⟩
  rw [RestRoute.matches, if_pos (by simp [keyRoute, hm]), hs]
  rfl

/-- A request for `GET /oauth/clients/apis/{appID}` is one
`oauthClientKeyRoute` takes for the client `appID` of the API `apis`. -/
theorem oauthClientKeyRoute_of_apisForOauthAppRoute {req : RestRequest}
    {v : List (String × String)} (h : apisForOauthAppRoute.matches req = some v) :
    ∃ appID, req.method = "GET" ∧ pathSegments req.path = some ["oauth", "clients", "apis", appID] ∧
      oauthClientKeyRoute.matches req = some [("apiID", "apis"), ("keyName", appID)] := by
  obtain ⟨⟨hm, -⟩, segs, hs, hv⟩ := RestRoute.matches_eq_some.mp h
  simp only [apisForOauthAppRoute, List.mem_singleton] at hm
  simp only [apisForOauthAppRoute, matchSegments_lit_eq_some, matchSegments_var_eq_some] at hv
  obtain ⟨_, rfl, _, rfl, _, rfl, appID, rfl, -, -⟩ := hv
  refine ⟨appID, hm, hs, ?_⟩
  rw [RestRoute.matches, if_pos (by simp [oauthClientKeyRoute, hm]), hs]
  rfl

/-- For every request and every two configurations, one in RPC mode and one
not: the RPC-mode router answers the request as the other does, unless the
other sends it to a management route. In RPC mode such a request gets no
handler, except `POST /keys/create`, which reaches `keyHandler` for the key
`create`, and `GET /oauth/clients/apis/{appID}`, which reaches
`oAuthClientHandler` for the client `appID` of the API `apis`. -/
theorem rpc_mode_router_falls_through (cleanPath : String → String) {conf rpcConf : Config}
    (hconf : isRPCMode conf = false) (hrpc : isRPCMode rpcConf = true) (req : RestRequest) :
    restAPI cleanPath rpcConf req = restAPI cleanPath conf req ∨
      ∃ r vars, restAPI cleanPath conf req = .served r vars ∧ r ∈ managementRoutes ∧
        (restAPI cleanPath rpcConf req = .notMatched ∨
          req.method = "POST" ∧ pathSegments req.path = some ["keys", "create"] ∧
            restAPI cleanPath rpcConf req = .served keyRoute [("keyName", "create")] ∨
          ∃ appID, req.method = "GET" ∧
            pathSegments req.path = some ["oauth", "clients", "apis", appID] ∧
            restAPI cleanPath rpcConf req =
              .served oauthClientKeyRoute [("apiID", "apis"), ("keyName", appID)]) := by
  unfold restAPI
  split_ifs with hc
  · exact .inl rfl
  simp only [restRoutes, hconf, hrpc, if_true, Bool.false_eq_true, if_false, List.append_nil,
    muxMatch_append]
  cases hr : muxMatch req reloadRoutes with
  | some x => exact .inl (by simp)
  | none =>
    cases hm : muxMatch req managementRoutes with
    | none => exact .inl (by simp)
    | some x =>
      obtain ⟨r, vars⟩ := x
      obtain ⟨hrmem, hrv⟩ := muxMatch_mem hm
      refine .inr ⟨r, vars, by simp, hrmem, ?_⟩
      cases hcm : muxMatch req commonRoutes with
      | none => exact .inl (by simp)
      | some y =>
        obtain ⟨c, w⟩ := y
        obtain ⟨hcmem, hcw⟩ := muxMatch_mem hcm
        rcases managementRoutes_overlap_commonRoutes r hrmem c hcmem
            (RestRoute.overlaps_of_matches hrv hcw) with ⟨rfl, rfl⟩ | ⟨rfl, rfl⟩
        · obtain ⟨hpost, hs, hk⟩ := keyRoute_of_createKeyRoute hrv
          cases hcw.symm.trans hk
          exact .inr (.inl ⟨hpost, hs, by simp⟩)
        · obtain ⟨appID, hget, hs, hk⟩ := oauthClientKeyRoute_of_apisForOauthAppRoute hrv
          cases hcw.symm.trans hk
          exact .inr (.inr ⟨appID, hget, hs, by simp⟩)

/-- A gateway whose auth provider is forced to the RPC storage engine. -/
def rpcModeConf : Config :=
  { (default : Config) with forceAuthProvider := true, authProvider := ⟨"", rpcStorageEngine⟩ }

theorem rpc_mode_router_falls_through_create_key :
    isRPCMode default = false ∧ isRPCMode rpcModeConf = true ∧
      (restAPI id rpcModeConf ⟨"POST", "/keys/create", false⟩ =
          restAPI id default ⟨"POST", "/keys/create", false⟩ ∨
        ∃ r vars, restAPI id default ⟨"POST", "/keys/create", false⟩ = .served r vars ∧
          r ∈ managementRoutes ∧
          (restAPI id rpcModeConf ⟨"POST", "/keys/create", false⟩ = .notMatched ∨
            "POST" = "POST" ∧ pathSegments "/keys/create" = some ["keys", "create"] ∧
              restAPI id rpcModeConf ⟨"POST", "/keys/create", false⟩ =
                .served keyRoute [("keyName", "create")] ∨
            ∃ appID, "POST" = "GET" ∧
              pathSegments "/keys/create" = some ["oauth", "clients", "apis", appID] ∧
              restAPI id rpcModeConf ⟨"POST", "/keys/create", false⟩ =
                .served oauthClientKeyRoute [("apiID", "apis"), ("keyName", appID)])) :=
  ⟨rfl, rfl, rpc_mode_router_falls_through id (rfl : isRPCMode default = false)
    (rfl : isRPCMode rpcModeConf = true) _⟩

/-- Outside RPC mode `POST /keys/create` creates a key with a generated id; in
RPC mode it reaches `keyHandler` for the key `create`. -/
example : restAPI id default ⟨"POST", "/keys/create", false⟩ = .served createKeyRoute [] ∧
    restAPI id rpcModeConf ⟨"POST", "/keys/create", false⟩ =
      .served keyRoute [("keyName", "create")] := by
  decide

/-- `GET /apis/oas/versions` lists the versions of the API `oas`. -/
example : restAPI id default ⟨"GET", "/apis/oas/versions", false⟩ =
    .served ⟨[.lit "apis", .var "apiID", .lit "versions"], ["GET"], false, [], .versionsHandler⟩
      [("apiID", "oas")] := by
  decide

/-! ### The control port -/

/-- For every configuration, request and setting of mutual TLS: a REST
handler runs for a request to the control port exactly when the control router
hands it to the `/tyk/` chain, its key is the `Secret` and, under mutual TLS,
its certificates validate, and the REST router sends the path without `/tyk`
and trailing slashes to that handler. -/
theorem controlPort_rest_handler (cleanPath : String → String) (conf : Config)
    (settings : ControlAPIConfig) (cliHTTPProfile useMutualTLS : Bool) (req : ControlRequest)
    (method : String) (hasOrgID : Bool) (r : RestRoute) (vars : List (String × String)) :
    controlPort cleanPath conf settings cliHTTPProfile useMutualTLS req method hasOrgID =
        .inr (.served r vars) ↔
      reachesRestChain cleanPath conf req ∧ req.authorization = conf.secret ∧
        (useMutualTLS = true → req.certError = none) ∧
        restAPI cleanPath conf ⟨method, trimRight ⟨req.path.toList.drop 4⟩ '/', hasOrgID⟩ =
          .served r vars := by
  have hiff := controlAPI_served_restAPI_iff cleanPath conf settings cliHTTPProfile useMutualTLS req
  unfold controlPort
  by_cases hp : ∃ p,
      controlAPI cleanPath conf settings cliHTTPProfile useMutualTLS req = .served .restAPI p
  · obtain ⟨p, hc⟩ := hp
    obtain ⟨hreach, hkey, hcert, rfl⟩ := (hiff p).mp hc
    rw [hc, Sum.inr.injEq]
    exact ⟨fun hr => ⟨hreach, hkey, hcert, hr⟩, fun ⟨_, _, _, hr⟩ => hr⟩
  · refine iff_of_false ?_ fun ⟨hreach, hkey, hcert, _⟩ =>
      hp ⟨_, (hiff _).mpr ⟨hreach, hkey, hcert, rfl⟩⟩
    split
    · exact absurd ⟨_, ‹_›⟩ hp
    · simp

end TykGateway
