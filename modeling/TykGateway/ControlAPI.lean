import TykGateway.Config.Setup

/-! # The control API's front door

`loadControlAPIEndpoints` registers on the control port's router, in this
order, the liveness and readiness endpoints, everything under `/tyk/` through
one handler chain, and, when profiling is on, the `pprof` endpoints on a
subrouter for the control API hostname. The chain strips `/tyk`, trims the
trailing slashes, answers `403` unless `X-Tyk-Authorization` carries the
gateway's `Secret`, answers `403` when mutual TLS is required and the client
certificates do not validate, and only then hands the request to the router
of the REST endpoints.

The hostname subrouter is made after the `/tyk/` route is registered, so the
hostname restricts the profiling endpoints only; the REST endpoints answer on
every host.

## Implementation notes

gorilla/mux is declared outside the modelled files. The routes registered on
the outer router have no variables and no method matchers, so a route
matches when its host, if it has one, and its exact path or path prefix do,
and the router serves the first route that matches; before that it answers a
`301` to the cleaned path when cleaning changes it (`cleanPath`, a parameter).
`/debug/pprof/{_:.*}` is the path prefix `/debug/pprof/`. `http.StripPrefix`
is modelled for requests without a raw path. The model stops at the REST
router `r`: reaching it with a path is the outcome. What
`crypto.ValidateRequestCerts` returns for the request is the request's
`certError`. `InstrumentationMW` and logging are left out.
-/

namespace TykGateway

/-- The fields of `config.Config` that only the control API reads. -/
structure ControlAPIConfig where
  hostName : String
  controlAPIHostname : String
  httpProfile : Bool
  deriving DecidableEq, Repr

/-- What the front door reads of a request. -/
structure ControlRequest where
  /-- `r.Host`, as `mux.Host` compares it. -/
  host : String
  /-- `r.URL.Path`. -/
  path : String
  /-- `r.Header.Get(header.XTykAuthorization)`: `""` when the header is absent. -/
  authorization : String
  /-- What `crypto.ValidateRequestCerts` returns for the request's certificates. -/
  certError : Option String
  deriving DecidableEq, Repr

/-- The handlers the outer router can reach. -/
inductive ControlEndpoint where
  | liveCheck
  | readiness
  | pprofProfile
  | pprofIndex
  /-- The REST router `r`, behind the `/tyk/` chain. -/
  | restAPI
  deriving DecidableEq, Repr

/-- How the front door answers. -/
inductive ControlAnswer where
  | movedPermanently (location : String)
  | notFound
  /-- `doJSONWrite(w, http.StatusForbidden, apiError(message))`. -/
  | forbidden (message : String)
  /-- The handler runs on the request with this path. -/
  | served (endpoint : ControlEndpoint) (path : String)
  deriving DecidableEq, Repr

/-- The path matcher of a route without variables. -/
inductive PathMatcher where
  | exact (path : String)
  | pathPrefix (pre : String)
  deriving DecidableEq, Repr

def PathMatcher.matches : PathMatcher → String → Bool
  | .exact p, path => path = p
  | .pathPrefix p, path => hasPrefix path p

/-- A route of the outer router. -/
structure MuxRoute where
  host : Option String
  path : PathMatcher
  endpoint : ControlEndpoint
  deriving DecidableEq, Repr

def MuxRoute.matches (route : MuxRoute) (req : ControlRequest) : Bool :=
  route.host.all (req.host = ·) && route.path.matches req.path

/-! ### The handler chain of `/tyk/` -/

/-- `strings.TrimRight(s, string(c))`. -/
def trimRight (s : String) (c : Char) : String := ⟨(s.toList.reverse.dropWhile (· = c)).reverse⟩

/-- `http.StripPrefix(prefix, h)` on a request without a raw path: the path
handed to `h`, or none when `http.NotFound` answers. -/
def stripPrefix (pre path : String) : Option String :=
  let p := trimPrefix path pre
  if p.length < path.length then some p else none

/-- The path `stripSlashes` hands on. -/
def stripSlashes (path : String) : String :=
  let trim := trimRight path '/'
  if trim ≠ path then trim else path

/-- The message `checkIsAPIOwner` answers with. -/
def invalidKeyMessage : String := "Attempted administrative access with invalid or missing key!"

/-- `checkIsAPIOwner`, with the `Secret` read when the chain was built. -/
def checkIsAPIOwner (secret : String) (req : ControlRequest) (next : ControlAnswer) :
    ControlAnswer :=
  if req.authorization ≠ secret then .forbidden invalidKeyMessage else next

/-- `controlAPICheckClientCertificate`, with `ControlAPIUseMutualTLS` read
when the request is served. -/
def controlAPICheckClientCertificate (useMutualTLS : Bool) (req : ControlRequest)
    (next : ControlAnswer) : ControlAnswer :=
  if useMutualTLS then
    match req.certError with
    | some err => .forbidden err
    | none => next
  else next

/-- `http.StripPrefix("/tyk", stripSlashes(checkIsAPIOwner(
controlAPICheckClientCertificate(..., InstrumentationMW(r)))))`. -/
def restAPIChain (secret : String) (useMutualTLS : Bool) (req : ControlRequest) :
    ControlAnswer :=
  match stripPrefix "/tyk" req.path with
  | none => .notFound
  | some p =>
    checkIsAPIOwner secret req
      (controlAPICheckClientCertificate useMutualTLS req (.served .restAPI (stripSlashes p)))

/-! ### The outer router -/

/-- The hostname the profiling subrouter is restricted to, `""` for none. -/
def controlHostname (settings : ControlAPIConfig) : String :=
  if settings.controlAPIHostname ≠ "" then settings.controlAPIHostname else settings.hostName

/-- The routes `loadControlAPIEndpoints` registers on the router it is given,
with `cliHTTPProfile` the `--httpprofile` flag. -/
def controlMuxRoutes (conf : Config) (settings : ControlAPIConfig) (cliHTTPProfile : Bool) :
    List MuxRoute :=
  let hostname := controlHostname settings
  let host := if hostname ≠ "" then some hostname else none
  [⟨none, .exact ("/" ++ conf.healthCheckEndpointName), .liveCheck⟩,
    ⟨none, .exact ("/" ++ conf.readinessCheckEndpointName), .readiness⟩,
    ⟨none, .pathPrefix "/tyk/", .restAPI⟩] ++
  (if cliHTTPProfile || settings.httpProfile then
    [⟨host, .exact "/debug/pprof/profile", .pprofProfile⟩,
      ⟨host, .pathPrefix "/debug/pprof/", .pprofIndex⟩]
  else [])

/-- The outer router serving a request. -/
def serveControlAPI (cleanPath : String → String) (routes : List MuxRoute) (secret : String)
    (useMutualTLS : Bool) (req : ControlRequest) : ControlAnswer :=
  if cleanPath req.path ≠ req.path then .movedPermanently (cleanPath req.path)
  else
    match (routes.find? (·.matches req)).map MuxRoute.endpoint with
    | none => .notFound
    | some .restAPI => restAPIChain secret useMutualTLS req
    | some e => .served e req.path

/-- The control port's router after `loadControlAPIEndpoints`, with `conf` and
`settings` the configuration it ran with and `useMutualTLS` the
`Security.ControlAPIUseMutualTLS` of the configuration when the request is
served. -/
def controlAPI (cleanPath : String → String) (conf : Config) (settings : ControlAPIConfig)
    (cliHTTPProfile useMutualTLS : Bool) (req : ControlRequest) : ControlAnswer :=
  serveControlAPI cleanPath (controlMuxRoutes conf settings cliHTTPProfile) conf.secret
    useMutualTLS req

/-! ### The chain in closed form -/

theorem hasPrefix_tyk_of_tyk_slash {path : String} (h : hasPrefix path "/tyk/" = true) :
    hasPrefix path "/tyk" = true := by
  unfold hasPrefix at *
  rw [List.isPrefixOf_iff_prefix] at *
  exact List.IsPrefix.trans (by decide) h

theorem stripPrefix_tyk (path : String) :
    stripPrefix "/tyk" path =
      if hasPrefix path "/tyk" then some ⟨path.toList.drop 4⟩ else none := by
  have h4 : "/tyk".length = 4 := rfl
  unfold stripPrefix trimPrefix
  by_cases h : hasPrefix path "/tyk" = true
  · have hl := (List.isPrefixOf_iff_prefix.mp h).length_le
    have hlt : (⟨path.toList.drop 4⟩ : String).length < path.length := by
      show (path.data.drop 4).length < path.data.length
      simp only [List.length_drop]
      have : 4 ≤ path.data.length := hl
      omega
    simp only [h, h4, if_true, if_pos hlt]
  · simp [h]

theorem stripSlashes_eq (path : String) : stripSlashes path = trimRight path '/' := by
  unfold stripSlashes
  dsimp only
  split_ifs with h
  · rfl
  · exact (not_not.mp h).symm

/-- The `/tyk/` chain hands a request on exactly when its path has the
prefix, its key is the secret and, under mutual TLS, its certificates
validate; the REST router then sees the path without `/tyk` and without
trailing slashes. -/
theorem restAPIChain_served {secret : String} {useMutualTLS : Bool} {req : ControlRequest}
    {e : ControlEndpoint} {p : String} :
    restAPIChain secret useMutualTLS req = .served e p ↔
      e = .restAPI ∧ hasPrefix req.path "/tyk" = true ∧ req.authorization = secret ∧
        (useMutualTLS = true → req.certError = none) ∧
        p = trimRight ⟨req.path.toList.drop 4⟩ '/' := by
  unfold restAPIChain checkIsAPIOwner controlAPICheckClientCertificate
  rw [stripPrefix_tyk]
  by_cases hp : hasPrefix req.path "/tyk" = true
  · by_cases ha : req.authorization = secret <;> cases useMutualTLS <;>
      rcases hc : req.certError with _ | err <;>
      simp [hp, ha, hc, stripSlashes_eq, eq_comm]
  · simp [hp]

/-- The chain answers `403` with the key message when the key is not the
secret, whatever the certificates, and with the certificate error when the key
is right but mutual TLS fails. -/
theorem restAPIChain_forbidden {secret : String} {useMutualTLS : Bool} {req : ControlRequest}
    {msg : String} :
    restAPIChain secret useMutualTLS req = .forbidden msg ↔
      hasPrefix req.path "/tyk" = true ∧
        ((req.authorization ≠ secret ∧ msg = invalidKeyMessage) ∨
          (req.authorization = secret ∧ useMutualTLS = true ∧ req.certError = some msg)) := by
  unfold restAPIChain checkIsAPIOwner controlAPICheckClientCertificate
  rw [stripPrefix_tyk]
  by_cases hp : hasPrefix req.path "/tyk" = true
  · by_cases ha : req.authorization = secret <;> cases useMutualTLS <;>
      rcases hc : req.certError with _ | err <;>
      simp [hp, ha, hc, eq_comm]
  · simp [hp]

/-! ### The outer router in closed form -/

theorem find?_map_cons {α β : Type} (p : α → Bool) (f : α → β) (a : α) (l : List α) :
    ((a :: l).find? p).map f = if p a then some (f a) else (l.find? p).map f := by
  cases h : p a <;> simp [List.find?, h]

/-- The route the outer router takes: the first of the registered routes that
matches. -/
theorem controlMuxRoutes_endpoint (conf : Config) (settings : ControlAPIConfig)
    (cliHTTPProfile : Bool) (req : ControlRequest) :
    ((controlMuxRoutes conf settings cliHTTPProfile).find? (·.matches req)).map
        MuxRoute.endpoint =
      if req.path = "/" ++ conf.healthCheckEndpointName then some .liveCheck
      else if req.path = "/" ++ conf.readinessCheckEndpointName then some .readiness
      else if hasPrefix req.path "/tyk/" then some .restAPI
      else if (cliHTTPProfile || settings.httpProfile) ∧
          (controlHostname settings = "" ∨ req.host = controlHostname settings) then
        if req.path = "/debug/pprof/profile" then some .pprofProfile
        else if hasPrefix req.path "/debug/pprof/" then some .pprofIndex else none
      else none := by
  unfold controlMuxRoutes
  by_cases hprof : (cliHTTPProfile || settings.httpProfile) = true <;>
    simp only [hprof, if_true, if_false, List.cons_append, List.nil_append, find?_map_cons,
      List.find?_nil, Option.map_none', MuxRoute.matches, PathMatcher.matches, Option.all_none,
      Bool.true_and, decide_eq_true_eq, false_and, and_false, true_and, Bool.false_eq_true]
  by_cases hh : controlHostname settings = ""
  · simp only [hh, ne_eq, not_true_eq_false, if_false, Option.all_none, Bool.true_and,
      decide_eq_true_eq, true_or, if_true]
  · by_cases hr : req.host = controlHostname settings
    · simp only [hh, hr, ne_eq, not_false_eq_true, if_true, Option.all_some, decide_True,
        Bool.true_and, decide_eq_true_eq, or_true]
    · simp only [hh, hr, ne_eq, not_false_eq_true, if_true, Option.all_some, decide_False,
        Bool.false_and, or_self, if_false, Bool.false_eq_true]

/-- The outer router hands the request to the `/tyk/` chain: its path is
clean, is neither the liveness nor the readiness path, and starts with
`/tyk/`. The host plays no part. -/
def reachesRestChain (cleanPath : String → String) (conf : Config) (req : ControlRequest) :
    Prop :=
  cleanPath req.path = req.path ∧ req.path ≠ "/" ++ conf.healthCheckEndpointName ∧
    req.path ≠ "/" ++ conf.readinessCheckEndpointName ∧ hasPrefix req.path "/tyk/" = true

/-- The answers only the `/tyk/` chain gives. -/
def ControlAnswer.fromRestChain : ControlAnswer → Prop
  | .served .restAPI _ | .forbidden _ => True
  | _ => False

/-- A router answer of the `/tyk/` chain that serves a handler serves the
REST router. -/
theorem ControlAnswer.eq_restAPI_of_fromRestChain {e : ControlEndpoint} {p : String}
    (h : (ControlAnswer.served e p).fromRestChain) : e = .restAPI := by
  cases e <;> first | rfl | exact h.elim

theorem controlAPI_eq_of_fromRestChain (cleanPath : String → String) (conf : Config)
    (settings : ControlAPIConfig) (cliHTTPProfile useMutualTLS : Bool) (req : ControlRequest)
    {a : ControlAnswer} (ha : a.fromRestChain) :
    controlAPI cleanPath conf settings cliHTTPProfile useMutualTLS req = a ↔
      cleanPath req.path = req.path ∧
        ((controlMuxRoutes conf settings cliHTTPProfile).find? (·.matches req)).map
          MuxRoute.endpoint = some .restAPI ∧ restAPIChain conf.secret useMutualTLS req = a := by
  unfold controlAPI serveControlAPI
  by_cases hc : cleanPath req.path = req.path
  · rw [if_neg (not_not.mpr hc)]
    split <;> rename_i h
    · exact iff_of_false (by rintro rfl; exact ha) (by simp [h])
    · simp [hc, h]
    · rename_i e he
      exact iff_of_false (by rintro rfl; exact he (ControlAnswer.eq_restAPI_of_fromRestChain ha))
        fun ⟨_, hr, _⟩ => he (Option.some.inj (h.symm.trans hr))
  · rw [if_pos hc]
    exact iff_of_false (by rintro rfl; exact ha) fun h => hc h.1

theorem route_eq_restAPI (conf : Config) (settings : ControlAPIConfig) (cliHTTPProfile : Bool)
    (req : ControlRequest) :
    ((controlMuxRoutes conf settings cliHTTPProfile).find? (·.matches req)).map
        MuxRoute.endpoint = some .restAPI ↔
      req.path ≠ "/" ++ conf.healthCheckEndpointName ∧
        req.path ≠ "/" ++ conf.readinessCheckEndpointName ∧
        hasPrefix req.path "/tyk/" = true := by
  rw [controlMuxRoutes_endpoint]
  by_cases hh : req.path = "/" ++ conf.healthCheckEndpointName
  · rw [if_pos hh]; exact iff_of_false (by simp) fun h => h.1 hh
  rw [if_neg hh]
  by_cases hre : req.path = "/" ++ conf.readinessCheckEndpointName
  · rw [if_pos hre]; exact iff_of_false (by simp) fun h => h.2.1 hre
  rw [if_neg hre]
  by_cases ht : hasPrefix req.path "/tyk/" = true
  · rw [if_pos ht]; exact iff_of_true rfl ⟨hh, hre, ht⟩
  · rw [if_neg ht]
    refine iff_of_false ?_ fun h => ht h.2.2
    split_ifs <;> simp

/-- The REST router runs exactly for a request the outer router hands to the
`/tyk/` chain whose key is the secret and, under mutual TLS, whose certificates
validate; it sees the path without `/tyk` and trailing slashes. -/
theorem controlAPI_served_restAPI_iff (cleanPath : String → String) (conf : Config)
    (settings : ControlAPIConfig) (cliHTTPProfile useMutualTLS : Bool) (req : ControlRequest)
    (p : String) :
    controlAPI cleanPath conf settings cliHTTPProfile useMutualTLS req = .served .restAPI p ↔
      reachesRestChain cleanPath conf req ∧ req.authorization = conf.secret ∧
        (useMutualTLS = true → req.certError = none) ∧
        p = trimRight ⟨req.path.toList.drop 4⟩ '/' := by
  rw [controlAPI_eq_of_fromRestChain (a := .served .restAPI p) _ _ _ _ _ _ trivial,
    route_eq_restAPI, restAPIChain_served]
  exact ⟨fun ⟨hc, ⟨hh, hre, ht⟩, h⟩ => ⟨⟨hc, hh, hre, ht⟩, h.2.2⟩,
    fun ⟨⟨hc, hh, hre, ht⟩, h⟩ =>
      ⟨hc, ⟨hh, hre, ht⟩, rfl, hasPrefix_tyk_of_tyk_slash ht, h⟩⟩

/-- For every request, every configuration the endpoints were loaded with and
every setting of mutual TLS: the REST router runs exactly for a request the
outer router hands to the `/tyk/` chain, on any host, whose
`X-Tyk-Authorization` is the `Secret` and, under mutual TLS, whose
certificates validate; it sees the path without `/tyk` and trailing slashes.
The chain answers `403` exactly to the other requests it is handed: with the
key message when the key is wrong, whatever the certificates, and otherwise
with the certificate error. -/
theorem controlAPI_restAPI_access (cleanPath : String → String) (conf : Config)
    (settings : ControlAPIConfig) (cliHTTPProfile useMutualTLS : Bool) (req : ControlRequest) :
    (∀ p, controlAPI cleanPath conf settings cliHTTPProfile useMutualTLS req = .served .restAPI p ↔
      reachesRestChain cleanPath conf req ∧ req.authorization = conf.secret ∧
        (useMutualTLS = true → req.certError = none) ∧
        p = trimRight ⟨req.path.toList.drop 4⟩ '/') ∧
    (∀ msg, controlAPI cleanPath conf settings cliHTTPProfile useMutualTLS req = .forbidden msg ↔
      reachesRestChain cleanPath conf req ∧
        ((req.authorization ≠ conf.secret ∧ msg = invalidKeyMessage) ∨
          (req.authorization = conf.secret ∧ useMutualTLS = true ∧ req.certError = some msg))) := by
  refine ⟨controlAPI_served_restAPI_iff cleanPath conf settings cliHTTPProfile useMutualTLS req,
    fun msg => ?_⟩
  rw [controlAPI_eq_of_fromRestChain (a := .forbidden msg) _ _ _ _ _ _ trivial,
    route_eq_restAPI, restAPIChain_forbidden]
  exact ⟨fun ⟨hc, ⟨hh, hre, ht⟩, h⟩ => ⟨⟨hc, hh, hre, ht⟩, h.2⟩,
    fun ⟨⟨hc, hh, hre, ht⟩, h⟩ => ⟨hc, ⟨hh, hre, ht⟩, hasPrefix_tyk_of_tyk_slash ht, h⟩⟩

/-- A request for `/tyk/keys/` with the secret reaches the REST router as
`/keys`; without the key it is refused. -/
example : controlAPI id { (default : Config) with secret := "s3cret" } ⟨"", "", false⟩ false false
    ⟨"gw.example", "/tyk/keys/", "s3cret", none⟩ = .served .restAPI "/keys" := by
  decide

example : controlAPI id { (default : Config) with secret := "s3cret" } ⟨"", "", false⟩ false false
    ⟨"gw.example", "/tyk/keys/", "", none⟩ = .forbidden invalidKeyMessage := by
  decide

/-- No path is both under `/debug/pprof/` and under `/tyk/`. -/
theorem not_hasPrefix_tyk_of_pprof {path : String} (h : hasPrefix path "/debug/pprof/" = true) :
    hasPrefix path "/tyk/" = false := by
  unfold hasPrefix at *
  rw [List.isPrefixOf_iff_prefix] at h
  refine Bool.eq_false_iff.mpr fun ht => ?_
  rw [List.isPrefixOf_iff_prefix] at ht
  exact absurd (List.prefix_of_prefix_length_le ht h (by decide)) (by decide)

/-- A handler other than the REST router runs exactly when the path is clean
and its route is the first that matches; it sees the path as it came. -/
theorem controlAPI_served_of_ne_restAPI (cleanPath : String → String) (conf : Config)
    (settings : ControlAPIConfig) (cliHTTPProfile useMutualTLS : Bool) (req : ControlRequest)
    {e : ControlEndpoint} (he : e ≠ .restAPI) (p : String) :
    controlAPI cleanPath conf settings cliHTTPProfile useMutualTLS req = .served e p ↔
      cleanPath req.path = req.path ∧
        ((controlMuxRoutes conf settings cliHTTPProfile).find? (·.matches req)).map
          MuxRoute.endpoint = some e ∧ p = req.path := by
  unfold controlAPI serveControlAPI
  by_cases hc : cleanPath req.path = req.path
  · simp only [hc, ne_eq, not_true_eq_false, if_false, true_and]
    split <;> rename_i h
    · simp [h]
    · simp only [h, Option.some.injEq]
      constructor
      · intro hs; exact absurd (restAPIChain_served.mp hs).1 he
      · rintro ⟨rfl, -⟩; exact absurd rfl he
    · simp [h, eq_comm]
  · simp [hc]

/-- For every request: with profiling on (`--httpprofile` or `HTTPProfile`),
the profiling endpoints are served to any request for a clean path under
`/debug/pprof/` that the liveness and readiness paths do not take, whatever
its key and certificates, on the control API hostname or, when none is set,
on any host; with profiling off they are never served. -/
theorem controlAPI_pprof_access (cleanPath : String → String) (conf : Config)
    (settings : ControlAPIConfig) (cliHTTPProfile useMutualTLS : Bool) (req : ControlRequest)
    (p : String) :
    (controlAPI cleanPath conf settings cliHTTPProfile useMutualTLS req = .served .pprofProfile p ↔
      cleanPath req.path = req.path ∧ req.path = "/debug/pprof/profile" ∧
        req.path ≠ "/" ++ conf.healthCheckEndpointName ∧
        req.path ≠ "/" ++ conf.readinessCheckEndpointName ∧
        (cliHTTPProfile || settings.httpProfile) = true ∧
        (controlHostname settings = "" ∨ req.host = controlHostname settings) ∧ p = req.path) ∧
    (controlAPI cleanPath conf settings cliHTTPProfile useMutualTLS req = .served .pprofIndex p ↔
      cleanPath req.path = req.path ∧ hasPrefix req.path "/debug/pprof/" = true ∧
        req.path ≠ "/debug/pprof/profile" ∧ req.path ≠ "/" ++ conf.healthCheckEndpointName ∧
        req.path ≠ "/" ++ conf.readinessCheckEndpointName ∧
        (cliHTTPProfile || settings.httpProfile) = true ∧
        (controlHostname settings = "" ∨ req.host = controlHostname settings) ∧ p = req.path) := by
  rw [controlAPI_served_of_ne_restAPI _ _ _ _ _ _ (by decide),
    controlAPI_served_of_ne_restAPI _ _ _ _ _ _ (by decide), controlMuxRoutes_endpoint]
  by_cases hh : req.path = "/" ++ conf.healthCheckEndpointName
  · rw [if_pos hh]
    exact ⟨iff_of_false (by simp) fun h => h.2.2.1 hh, iff_of_false (by simp) fun h => h.2.2.2.1 hh⟩
  rw [if_neg hh]
  by_cases hre : req.path = "/" ++ conf.readinessCheckEndpointName
  · rw [if_pos hre]
    exact ⟨iff_of_false (by simp) fun h => h.2.2.2.1 hre,
      iff_of_false (by simp) fun h => h.2.2.2.2.1 hre⟩
  rw [if_neg hre]
  by_cases hpp : hasPrefix req.path "/debug/pprof/" = true
  · rw [if_neg (by simp [not_hasPrefix_tyk_of_pprof hpp])]
    by_cases hon : (cliHTTPProfile || settings.httpProfile) = true ∧
        (controlHostname settings = "" ∨ req.host = controlHostname settings)
    · rw [if_pos hon]
      by_cases hpr : req.path = "/debug/pprof/profile"
      · rw [if_pos hpr]
        exact ⟨⟨fun ⟨hc, _, hp⟩ => ⟨hc, hpr, hh, hre, hon.1, hon.2, hp⟩,
            fun ⟨hc, _, _, _, _, _, hp⟩ => ⟨hc, rfl, hp⟩⟩,
          iff_of_false (by simp) fun h => h.2.2.1 hpr⟩
      · rw [if_neg hpr, if_pos hpp]
        exact ⟨iff_of_false (by simp) fun h => hpr h.2.1,
          ⟨fun ⟨hc, _, hp⟩ => ⟨hc, hpp, hpr, hh, hre, hon.1, hon.2, hp⟩,
            fun ⟨hc, _, _, _, _, _, _, hp⟩ => ⟨hc, rfl, hp⟩⟩⟩
    · rw [if_neg hon]
      exact ⟨iff_of_false (by simp) fun h => hon ⟨h.2.2.2.2.1, h.2.2.2.2.2.1⟩,
        iff_of_false (by simp) fun h => hon ⟨h.2.2.2.2.2.1, h.2.2.2.2.2.2.1⟩⟩
  · have hpr : req.path ≠ "/debug/pprof/profile" := fun h => hpp (h ▸ rfl)
    refine ⟨iff_of_false ?_ fun h => hpr h.2.1, iff_of_false ?_ fun h => hpp h.2.1⟩ <;>
      rintro ⟨-, hr, -⟩ <;> simp only [hpr, hpp, Bool.false_eq_true, reduceIte, ite_self] at hr <;>
      split_ifs at hr <;> cases hr

end TykGateway
