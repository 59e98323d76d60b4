import TykGateway.Startup
import TykGateway.Dashboard.Handler
import TykGateway.Dashboard.Heartbeat

/-! # From `initSystem` to the first reload

After `initSystem` and `setupPortsWhitelist`, `Start` initialises the tracer
provider with the OpenTelemetry section of its `gwConfig` and the node id the
gateway has at that moment, then calls `start` and `startServer`. `start`
initialises the default org and quota stores and starts the reload loops on a
ticker of `ReloadInterval` seconds, one second when that is not positive.
`startServer` registers the node with the dashboard when `UseDBAppConfigs` is
set, starts the distributed rate limiter with the node id registration left,
and calls `DoReload`.

Two values are made once per process and kept whatever the configuration
says later: the dashboard's HTTP client and the verifier `SignatureVerifier`
caches.

## Implementation notes

`gwConfig` of `Start` is the configuration `NewGateway` was given, taken
before `initSystem` loads the configuration again and sets its defaults. The
fields of `config.Config` that only this part reads are `BootOptions`, as the
running configuration has them: no modelled step of `initSystem` writes them.
`buildDashboardConnStr` reads a configuration that does not change while it
runs, so with zeroconf on and no connection string it waits for a signal the
model never sends, and does not return. As for `Register`, the dashboard's
answers, the context and `DoReload` are parameters, and so is the host name
`getHostDetails` found. The listeners `startServer` sets up and the work of
the goroutines it starts are left out.
-/

namespace TykGateway

/-- The fields of `config.Config` that `start`, `startServer` and
`initialiseClient` read and that no modelled step of `initSystem` writes. -/
structure BootOptions where
  /-- `SupressDefaultOrgStore`. -/
  supressDefaultOrgStore : Bool
  suppressRedisSignalReload : Bool
  /-- `ReloadInterval`, in seconds. -/
  reloadInterval : GoInt
  managementNode : Bool
  enableSentinelRateLimiter : Bool
  enableRedisRollingLimiter : Bool
  enableFixedWindowRateLimiter : Bool
  /-- `DBAppConfOptions.ConnectionTimeout`, in seconds. -/
  connectionTimeout : GoInt
  /-- `HttpServerOptions.SSLInsecureSkipVerify`. -/
  sslInsecureSkipVerify : Bool
  deriving DecidableEq, Repr

/-- The values of a `config.Config{}`. -/
def noBootOptions : BootOptions := ⟨false, false, 0, false, false, false, false, 0, false⟩

theorem exceptT_run_bind_eq_ok {ε α β : Type} {x : ExceptT ε Option α}
    {f : α → ExceptT ε Option β} {b : β} :
    (x >>= f).run = some (.ok b) ↔ ∃ a, x.run = some (.ok a) ∧ (f a).run = some (.ok b) := by
  rw [ExceptT.run_bind]
  match x.run with
  | none => simp
  | some (.error _) => simp [pure]
  | some (.ok a) => simp

/-! ### `start` -/

/-- The `storage.Handler` `getGlobalStorageHandler` returns. -/
inductive StorageHandler where
  | rpcStorageHandler (keyPrefix : String) (hashKeys : Bool)
  | redisCluster (keyPrefix : String) (hashKeys : Bool)
  deriving DecidableEq, Repr

/-- `getGlobalStorageHandler`: the RPC store on MDCB, Redis otherwise. -/
def getGlobalStorageHandler (conf : Config) (keyPrefix : String) (hashKeys : Bool) :
    StorageHandler :=
  if conf.useRPC then .rpcStorageHandler keyPrefix hashKeys else .redisCluster keyPrefix hashKeys

/-- `time.Second`. -/
def second : GoInt := GoInt.durationOfSeconds 1

/-- `reloadInterval` in `start`. -/
def startReloadInterval (opts : BootOptions) : GoInt :=
  if opts.reloadInterval.val > 0 then GoInt.durationOfSeconds opts.reloadInterval else second

/-- What `start` sets up. -/
structure Loops where
  /-- The store `DefaultOrgStore` and `DefaultQuotaStore` are initialised with. -/
  orgStore : Option StorageHandler
  pubSubLoop : Bool
  /-- The RPC reload listener, with its keepalive watcher and loop check. -/
  rpcListener : Bool
  /-- `time.Tick(reloadInterval)`, the ticker of `reloadLoop`. `time.Tick`
  returns nil for a period that is not positive, and `reloadLoop` then never
  receives a tick. -/
  reloadTick : Option GoInt
  deriving DecidableEq, Repr

/-- `start`, on the running configuration. -/
def Gateway.start (conf : Config) (opts : BootOptions) : Loops where
  orgStore := if opts.supressDefaultOrgStore then none
    else some (getGlobalStorageHandler conf "orgkey." false)
  pubSubLoop := !opts.suppressRedisSignalReload
  rpcListener := conf.useRPC
  reloadTick := if (startReloadInterval opts).val > 0 then some (startReloadInterval opts) else none

/-- Up to `9223372036` seconds, the ticker period is `ReloadInterval` seconds,
or a second when that is not positive. -/
theorem startReloadInterval_val {opts : BootOptions} (h : opts.reloadInterval.val ≤ 9223372036) :
    (startReloadInterval opts).val = max opts.reloadInterval.val 1 * 1000000000 := by
  unfold startReloadInterval
  split_ifs with hp
  · rw [GoInt.durationOfSeconds_val (by omega) h]; omega
  · rw [second, GoInt.durationOfSeconds_val (by decide) (by decide), GoInt.one_val]; omega

/-- For every configuration: a `ReloadInterval` of at most `9223372036` seconds
gives `reloadLoop` a ticker of `ReloadInterval` seconds, or of one second when
it is not positive, so reloads start at least a second apart, as the comment in
`start` says. One second more and `time.Duration` wraps to a negative period:
`time.Tick` returns nil and `reloadLoop` never ticks. -/
theorem start_reload_tick (conf : Config) (opts : BootOptions) :
    (opts.reloadInterval.val ≤ 9223372036 → ∃ d, (Gateway.start conf opts).reloadTick = some d ∧
        d.val = max opts.reloadInterval.val 1 * 1000000000) ∧
      (opts.reloadInterval.val = 9223372037 → (Gateway.start conf opts).reloadTick = none) := by
  refine ⟨fun h => ⟨_, if_pos ?_, startReloadInterval_val h⟩, fun h => if_neg ?_⟩
  · have := startReloadInterval_val h
    omega
  · rw [startReloadInterval, if_pos (by omega), GoInt.durationOfSeconds, GoInt.wrap]
    simp only [h]
    omega

/-- `ReloadInterval` one second past the bound. -/
example : (Gateway.start default
    { noBootOptions with reloadInterval := ⟨9223372037, by omega, by omega⟩ }).reloadTick =
    none := by
  decide

/-! ### `startDRL` -/

/-- `drl.DRL`, with what `startDRL` sets. -/
structure DRL where
  thisServerID : String
  /-- Whether `Init` ran on it and the rate limit notifications started. -/
  running : Bool
  deriving DecidableEq, Repr

/-- The rate limiters that turn the distributed one off. -/
def drlDisabled (opts : BootOptions) : Bool :=
  opts.managementNode || opts.enableSentinelRateLimiter || opts.enableRedisRollingLimiter ||
    opts.enableFixedWindowRateLimiter

/-- `startDRL`: the `DRLManager` it leaves. `drlOnce` runs its function on the
first call only, which sets `DRLManager` (`none` before). -/
def Gateway.startDRL (gw : Gateway) (opts : BootOptions) (hostname : String) : Option DRL → DRL
  | some drlManager => drlManager
  | none => if drlDisabled opts then ⟨"", false⟩ else ⟨gw.nodeID ++ "|" ++ hostname, true⟩

/-! ### Dashboard registration -/

/-- Where the start-up stops with `log.Fatal` once it has a configuration. -/
inductive BootFatal where
  /-- A `log.Fatal` of `Start` up to `setupPortsWhitelist`. -/
  | start (e : StartFatal)
  /-- A `log.Fatal` of `buildDashboardConnStr`. -/
  | dashboard (e : DashboardFatal)
  /-- `"Node secret is not set, required for dashboard connection"`, in `Init`. -/
  | nodeSecretNotSet
  deriving DecidableEq, Repr

/-- `HTTPDashboardHandler`, with what `Init` sets. -/
structure HTTPDashboardHandler where
  registrationEndpoint : String
  deRegistrationEndpoint : String
  heartBeatEndpoint : String
  keyQuotaTriggerEndpoint : String
  secret : String
  deriving DecidableEq, Repr

/-- `HTTPDashboardHandler.Init`. -/
def HTTPDashboardHandler.init (conf : Config) : ExceptT BootFatal Option HTTPDashboardHandler := do
  let registrationEndpoint ← (buildDashboardConnStr conf "/register/node").adapt .dashboard
  let deRegistrationEndpoint ← (buildDashboardConnStr conf "/system/node").adapt .dashboard
  let heartBeatEndpoint ← (buildDashboardConnStr conf "/register/ping").adapt .dashboard
  let keyQuotaTriggerEndpoint ←
    (buildDashboardConnStr conf "/system/key/quota_trigger").adapt .dashboard
  if conf.nodeSecret = "" then throw .nodeSecretNotSet
  else pure ⟨registrationEndpoint, deRegistrationEndpoint, heartBeatEndpoint,
    keyQuotaTriggerEndpoint, conf.nodeSecret⟩

/-- `dashboardServiceInit`: a `DashService` already set is kept. -/
def dashboardServiceInit (conf : Config) :
    Option HTTPDashboardHandler → ExceptT BootFatal Option HTTPDashboardHandler
  | some dashService => pure dashService
  | none => HTTPDashboardHandler.init conf

/-- What `startServer` leaves. -/
structure ServerStarted where
  gw : Gateway
  /-- `DashService`; a `StartBeating` goroutine runs exactly when it is set. -/
  dashService : Option HTTPDashboardHandler
  drlManager : DRL

section StartServer

variable (doReload : Gateway → Gateway) (ctxDone : Nat → Option GoError)
  (answers : List RegisterAnswer) (hostname : String)

/-- `handleDashboardRegistration`: the gateway `Register` leaves, and the
dashboard service. The error of `Register` is only logged, and a
`StartBeating` goroutine starts after it whatever it returned. -/
def handleDashboardRegistration (conf : Config) (dashService : Option HTTPDashboardHandler)
    (gw : Gateway) : ExceptT BootFatal Option (Gateway × Option HTTPDashboardHandler) :=
  if conf.useDBAppConfigs = false then pure (gw, dashService)
  else do
    let dashService ← dashboardServiceInit conf dashService
    let (_, gw) ← ExceptT.lift (register doReload ctxDone 0 answers gw)
    pure (gw, some dashService)

/-- `startServer`, on a gateway with no `DashService` and no `DRLManager` yet. -/
def Gateway.startServer (conf : Config) (opts : BootOptions) (gw : Gateway) :
    ExceptT BootFatal Option ServerStarted := do
  let (gw, dashService) ← handleDashboardRegistration doReload ctxDone answers conf none gw
  pure ⟨doReload gw, dashService, gw.startDRL opts hostname none⟩

theorem handleDashboardRegistration_eq_ok {conf : Config} {gw g : Gateway}
    {dash : Option HTTPDashboardHandler}
    (h : (handleDashboardRegistration doReload ctxDone answers conf none gw).run =
      some (.ok (g, dash))) :
    conf.useDBAppConfigs = false ∧ g = gw ∧ dash = none ∨
      conf.useDBAppConfigs = true ∧ (HTTPDashboardHandler.init conf).run = dash.map .ok ∧
        ∃ res, register doReload ctxDone 0 answers gw = some (res, g) := by
  unfold handleDashboardRegistration at h
  split_ifs at h with hu
  · obtain ⟨rfl, rfl⟩ := Prod.mk.inj (Except.ok.inj (Option.some.inj h))
    exact .inl ⟨hu, rfl, rfl⟩
  · obtain ⟨d, hd, h⟩ := exceptT_run_bind_eq_ok.mp h
    obtain ⟨⟨res, g'⟩, hr, h⟩ := exceptT_run_bind_eq_ok.mp h
    obtain ⟨rfl, rfl⟩ := Prod.mk.inj (Except.ok.inj (Option.some.inj h))
    simp only [ExceptT.run_lift] at hr
    obtain ⟨_, hreg, he⟩ := Option.map_eq_some'.mp hr
    cases Except.ok.inj he
    exact .inr ⟨Bool.eq_true_of_not_eq_false hu, hd, _, hreg⟩

theorem startServer_eq_ok {conf : Config} {opts : BootOptions} {gw : Gateway} {srv : ServerStarted}
    (h : (gw.startServer doReload ctxDone answers hostname conf opts).run = some (.ok srv)) :
    ∃ g, (handleDashboardRegistration doReload ctxDone answers conf none gw).run =
        some (.ok (g, srv.dashService)) ∧
      srv.gw = doReload g ∧ srv.drlManager = g.startDRL opts hostname none := by
  obtain ⟨⟨g, dash⟩, hh, h⟩ := exceptT_run_bind_eq_ok.mp h
  cases Except.ok.inj (Option.some.inj h)
  exact ⟨g, hh, rfl, rfl⟩

/-- For every dashboard, context, `DoReload`, gateway and configuration: when
`startServer` returns, it has called `DoReload` once more on the gateway
registration left, and started the distributed rate limiter with that
gateway's node id. Without `UseDBAppConfigs` that gateway is the one it was
given. With it, `Init` has set up the dashboard service and `Register` has
returned: after a `200` answer with a node id the gateway holds that node id
and nonce, and `Register` has already called `DoReload`, so `startServer`
reloads twice; otherwise the gateway is as before, or only its node id was
cleared. -/
theorem startServer_reloads_after_registration {conf : Config} {opts : BootOptions}
    {gw : Gateway} (srv : ServerStarted)
    (h : (gw.startServer doReload ctxDone answers hostname conf opts).run = some (.ok srv)) :
    ∃ g, srv.gw = doReload g ∧ srv.drlManager = g.startDRL opts hostname none ∧
      (conf.useDBAppConfigs = false ∧ g = gw ∧ srv.dashService = none ∨
        conf.useDBAppConfigs = true ∧
          (HTTPDashboardHandler.init conf).run = srv.dashService.map .ok ∧
          ∃ res, RegisterOutcome doReload answers gw res g) := by
  obtain ⟨g, hh, hgw, hdrl⟩ := startServer_eq_ok doReload ctxDone answers hostname h
  refine ⟨g, hgw, hdrl, ?_⟩
  rcases handleDashboardRegistration_eq_ok doReload ctxDone answers hh with hn | ⟨hu, hi, res, hr⟩
  · exact .inl hn
  · exact .inr ⟨hu, hi, res, register_outcome doReload ctxDone 0 answers gw g res hr⟩

/-- A gateway on the dashboard at `http://dashboard`, with the node secret `s`. -/
def dashboardConf : Config :=
  { (default : Config) with
    useDBAppConfigs := true, dbAppConfConnectionString := "http://dashboard", nodeSecret := "s" }

/-- The dashboard registers the node with the node id `n-1` and the nonce `c-1`. -/
def nodeIDAnswer : RegisterAnswer :=
  .response 200 (.ok ⟨(∅ : GoMap String).insert "NodeID" "n-1", "c-1"⟩)

/-- The dashboard service `Init` sets up for `dashboardConf`. -/
def dashboardHandler : HTTPDashboardHandler :=
  ⟨"http://dashboard/register/node", "http://dashboard/system/node",
    "http://dashboard/register/ping", "http://dashboard/system/key/quota_trigger", "s"⟩

/-- The registered gateway, and what `startServer` leaves with a `DoReload`
that only records a successful reload. -/
def registeredGateway : Gateway := { newGateway "u" with nodeID := "n-1", serviceNonce := "c-1" }

def markReloaded (gw : Gateway) : Gateway := { gw with performedSuccessfulReload := true }

theorem startServer_reloads_after_registration_node_id :
    ((newGateway "u").startServer markReloaded (fun _ => none) [nodeIDAnswer] "host" dashboardConf
        noBootOptions).run =
      some (.ok ⟨markReloaded (markReloaded registeredGateway), some dashboardHandler,
        ⟨"n-1|host", true⟩⟩) ∧
    ∃ g, markReloaded (markReloaded registeredGateway) = markReloaded g ∧
      (⟨"n-1|host", true⟩ : DRL) = g.startDRL noBootOptions "host" none ∧
      (dashboardConf.useDBAppConfigs = false ∧ g = newGateway "u" ∧
          (some dashboardHandler : Option HTTPDashboardHandler) = none ∨
        dashboardConf.useDBAppConfigs = true ∧
          (HTTPDashboardHandler.init dashboardConf).run =
            (some dashboardHandler).map .ok ∧
          ∃ res, RegisterOutcome markReloaded [nodeIDAnswer] (newGateway "u") res g) :=
  ⟨rfl, startServer_reloads_after_registration markReloaded (fun _ => none) [nodeIDAnswer] "host"
    ⟨markReloaded (markReloaded registeredGateway), some dashboardHandler, ⟨"n-1|host", true⟩⟩ rfl⟩

/-! ### Registering again -/

/-- With a context that is never done, `Register` returns an error only after
a `200` answer whose body does not decode. -/
theorem register_error_of_background : ∀ (w : Nat) (answers : List RegisterAnswer)
    (gw g : Gateway) (e : GoError),
    register doReload (fun _ => none) w answers gw = some (some e, g) →
      RegisterAnswer.response 200 (.error e) ∈ answers
  | _, [], _, _, _, h => by simp [register] at h
  | w, a :: rest, gw, g, e, h => by
    have ih : ∀ g', register doReload (fun _ => none) (w + 1) rest g' = some (some e, g) →
        RegisterAnswer.response 200 (.error e) ∈ a :: rest :=
      fun g' h' => List.mem_cons_of_mem a (register_error_of_background (w + 1) rest g' g e h')
    cases a with
    | requestFailed _ => exact ih gw h
    | response status body =>
      dsimp only [register] at h
      by_cases h409 : status = 409
      · rw [if_pos h409] at h
        cases Option.some.inj h
      rw [if_neg h409] at h
      by_cases h200 : status ≠ 200
      · rw [if_pos h200] at h
        exact ih gw h
      rw [if_neg h200] at h
      obtain rfl : status = 200 := not_not.mp h200
      rcases body with e' | val
      · cases Option.some.inj h
        exact List.mem_cons_self _ _
      dsimp only at h
      by_cases hn : (val.message.lookup "NodeID").isSome
      · rw [if_pos hn] at h
        cases Option.some.inj h
      · rw [if_neg hn] at h
        exact ih _ h

/-- `reLogin`: the heartbeat actions it takes (`StopBeating`, and the
`StartBeating` of the goroutine it starts once `Register` succeeded), the
gateway `DeRegister` and `Register` leave, and whether it queued a reload with
`reloadURLStructure`; `none` while `Register` has not returned. `Register`
runs with `context.Background()`, which is never done. -/
def Gateway.reLogin (conf : Config) (deRegisterAnswer : RegisterAnswer) (gw : Gateway) :
    Option (List Heartbeat.Action × Gateway × Bool) :=
  if conf.useDBAppConfigs = false then some ([], gw, false)
  else
    (register doReload (fun _ => none) 0 answers (deRegister deRegisterAnswer gw).2).map fun r =>
      (.stop :: if r.1.isNone then [.start] else [], r.2, true)

/-- For every dashboard and `DoReload`, with `UseDBAppConfigs`: when `reLogin`
returns, it has stopped the heartbeat and queued a reload. It has started a
new `StartBeating` unless `Register` failed, which, with a context that is
never done, happens only after a `200` answer whose body does not decode; the
heartbeat then stays stopped, whatever the loops were doing. -/
theorem reLogin_restarts_heartbeat_unless_undecodable {conf : Config}
    {deRegisterAnswer : RegisterAnswer} {gw g : Gateway} {acts : List Heartbeat.Action}
    {queued : Bool} (hu : conf.useDBAppConfigs = true)
    (h : gw.reLogin doReload answers conf deRegisterAnswer = some (acts, g, queued)) :
    queued = true ∧ (acts = [.stop, .start] ∨
      acts = [.stop] ∧ (∃ e, RegisterAnswer.response 200 (.error e) ∈ answers) ∧
        ∀ s : Heartbeat.Beating, (Heartbeat.run s acts).stopped = true) := by
  unfold Gateway.reLogin at h
  rw [if_neg (by simp [hu])] at h
  obtain ⟨⟨err, g'⟩, hreg, he⟩ := Option.map_eq_some'.mp h
  simp only [Prod.mk.injEq] at he
  obtain ⟨rfl, -, rfl⟩ := he
  rcases err with _ | e
  · exact ⟨rfl, .inl rfl⟩
  · exact ⟨rfl, .inr ⟨rfl, ⟨e, register_error_of_background doReload 0 answers _ g' e hreg⟩,
      fun _ => rfl⟩⟩

/-- The dashboard answers the re-registration with a body that does not
decode. -/
def undecodableAnswer : RegisterAnswer := .response 200 (.error (.new "unexpected EOF"))

def deRegisteredAnswer : RegisterAnswer := .response 200 (.ok ⟨∅, "c-2"⟩)

theorem reLogin_restarts_heartbeat_unless_undecodable_eof :
    registeredGateway.reLogin markReloaded [undecodableAnswer] dashboardConf deRegisteredAnswer =
        some ([.stop], (deRegister deRegisteredAnswer registeredGateway).2, true) ∧
      dashboardConf.useDBAppConfigs = true ∧
      (true = true ∧ ([.stop] = [Heartbeat.Action.stop, .start] ∨
        [Heartbeat.Action.stop] = [.stop] ∧
          (∃ e, RegisterAnswer.response 200 (.error e) ∈ [undecodableAnswer]) ∧
          ∀ s : Heartbeat.Beating, (Heartbeat.run s [.stop]).stopped = true)) :=
  ⟨rfl, rfl, @reLogin_restarts_heartbeat_unless_undecodable markReloaded [undecodableAnswer]
    dashboardConf deRegisteredAnswer registeredGateway _ _ _ rfl rfl⟩

end StartServer

/-! ### `Start` after `initSystem` -/

/-- What `Start` passes `otel.InitOpenTelemetry`, besides the context, the
logger and the version. -/
structure TracerArgs where
  openTelemetry : OpenTelemetry
  nodeID : String
  useRPC : Bool
  groupID : String
  deriving DecidableEq, Repr

/-- What the start-up has built when `startServer` returns. -/
structure Booted where
  started : Started
  tracer : TracerArgs
  loops : Loops
  server : ServerStarted

section Boot

variable (env : KVEnv) (defaultOTelResourceName : String)
  (setDefaults : OpenTelemetry → OpenTelemetry) (load : List String → Except GoError StartConfig)
  (checkup : StartConfig → StartConfig) (atoi : String → Except GoError Int)
  (toLower : String → String) (flags : StartFlags)
  (doReload : Gateway → Gateway) (ctxDone : Nat → Option GoError)
  (answers : List RegisterAnswer) (hostname : String)

/-- `Start` up to the end of `startServer`, on the gateway `NewGateway` made
with the node id `"solo-" + uuid`. -/
def boot (newDefaultWithEnv : Except GoError StartConfig) (uuid : String) (opts : BootOptions) :
    ExceptT BootFatal Option Booted := do
  let s ← ExceptT.mk (pure ((start env defaultOTelResourceName setDefaults load checkup atoi
    toLower flags newDefaultWithEnv).mapError .start))
  let gw := newGateway uuid
  let tracer : TracerArgs :=
    ⟨s.own.conf.openTelemetry, gw.nodeID, s.running.conf.useRPC, s.running.conf.groupID⟩
  let server ← gw.startServer doReload ctxDone answers hostname s.running.conf opts
  pure ⟨s, tracer, Gateway.start s.running.conf opts, server⟩

theorem boot_eq_ok {newDefaultWithEnv : Except GoError StartConfig} {uuid : String}
    {opts : BootOptions} {b : Booted}
    (h : (boot env defaultOTelResourceName setDefaults load checkup atoi toLower flags doReload
      ctxDone answers hostname newDefaultWithEnv uuid opts).run = some (.ok b)) :
    start env defaultOTelResourceName setDefaults load checkup atoi toLower flags
        newDefaultWithEnv = .ok b.started ∧
      b.tracer = ⟨b.started.own.conf.openTelemetry, "solo-" ++ uuid,
        b.started.running.conf.useRPC, b.started.running.conf.groupID⟩ ∧
      ((newGateway uuid).startServer doReload ctxDone answers hostname b.started.running.conf
        opts).run = some (.ok b.server) := by
  obtain ⟨s, hs, h⟩ := exceptT_run_bind_eq_ok.mp h
  obtain ⟨server, hserver, h⟩ := exceptT_run_bind_eq_ok.mp h
  cases Except.ok.inj (Option.some.inj h)
  exact ⟨mapError_eq_ok.mp (Option.some.inj hs), rfl, hserver⟩

/-- For every loader, fallback, flag, KV environment, dashboard and `DoReload`:
when the start-up reaches the end of `startServer`, the tracer provider was
initialised with the OpenTelemetry section `Start` loaded first, and with the
node id `NewGateway` made, before registration could replace it. Without
`--conf`, and with a `checkup.Run` that keeps the section, the gateway itself
runs with that section with `afterConfSetup`'s defaults. -/
theorem boot_tracer_misses_defaults (newDefaultWithEnv : Except GoError StartConfig)
    {uuid : String} {opts : BootOptions} {b : Booted}
    (h : (boot env defaultOTelResourceName setDefaults load checkup atoi toLower flags doReload
      ctxDone answers hostname newDefaultWithEnv uuid opts).run = some (.ok b))
    (hcheck : ∀ c, (checkup c).conf.openTelemetry = c.conf.openTelemetry) :
    b.tracer.openTelemetry = b.started.own.conf.openTelemetry ∧
      b.tracer.nodeID = "solo-" ++ uuid ∧
      (flags.conf = "" → b.started.running.conf.openTelemetry =
        (openTelemetryDefaults defaultOTelResourceName setDefaults
          b.started.own.conf).openTelemetry) := by
  obtain ⟨hs, ht, -⟩ := boot_eq_ok env defaultOTelResourceName setDefaults load checkup atoi
    toLower flags doReload ctxDone answers hostname h
  rw [ht]
  exact ⟨rfl, rfl, fun hconf => start_running_openTelemetry env defaultOTelResourceName setDefaults
    load checkup atoi toLower flags hs hconf hcheck⟩

/-- The MDCB file of `mdcbStartConfig` with OpenTelemetry on and no resource
name. -/
def tracedStartConfig : StartConfig :=
  ⟨{ loadedConf with openTelemetry := ⟨true, ""⟩ }, ⟨"info", "redis", 0, 0, 0, 0, 0, 0⟩⟩

/-- The configuration the gateway runs with from `tracedStartConfig`. -/
def tracedRunning : StartConfig :=
  ⟨{ setupConf with
      openTelemetry := ⟨true, "gateway"⟩
      portWhiteList := (∅ : GoMap PortWhiteList).insert "http" ⟨[0]⟩ },
    ⟨"info", "redis", 0, 0, versionTLS12, 0, versionTLS12, 10000000000⟩⟩

/-- The start-up from `tracedStartConfig` without a dashboard: the tracer gets
the loaded section and the node id `NewGateway` made. -/
def tracedBooted : Booted :=
  ⟨⟨tracedStartConfig, cacheCreate tracedStartConfig, tracedRunning, ⟨false, false⟩⟩,
    ⟨⟨true, ""⟩, "solo-u", true, "ungrouped"⟩, Gateway.start tracedRunning.conf noBootOptions,
    ⟨newGateway "u", none, ⟨"solo-u|host", true⟩⟩⟩

theorem boot_tracer_misses_defaults_traced :
    (boot echoEnv "gateway" id (fun _ => .ok tracedStartConfig) id (fun _ => .error (.new "")) id
        noFlags id (fun _ => none) [] "host" (.error (.new "")) "u" noBootOptions).run =
      some (.ok tracedBooted) ∧
    (∀ c : StartConfig, (id c).conf.openTelemetry = c.conf.openTelemetry) ∧
    tracedBooted.tracer.openTelemetry = tracedBooted.started.own.conf.openTelemetry ∧
      tracedBooted.tracer.nodeID = "solo-" ++ "u" ∧
      (noFlags.conf = "" → tracedBooted.started.running.conf.openTelemetry =
        (openTelemetryDefaults "gateway" id tracedBooted.started.own.conf).openTelemetry) :=
  ⟨rfl, fun _ => rfl,
    boot_tracer_misses_defaults echoEnv "gateway" id (fun _ => .ok tracedStartConfig) id
      (fun _ => .error (.new "")) id noFlags id (fun _ => none) [] "host" (.error (.new ""))
      (b := tracedBooted) rfl
      fun _ => rfl⟩

/-- The tracer is initialised with no resource name while the gateway runs
with the default one. -/
example : tracedBooted.tracer.openTelemetry.resourceName = "" ∧
    tracedBooted.started.running.conf.openTelemetry.resourceName = "gateway" := by
  decide

end Boot

/-! ### Values made once per process -/

/-- The `http.Client` `initialiseClient` builds: its timeout, and the TLS
settings of its transport when the gateway serves over TLS
(`InsecureSkipVerify`, `MinVersion`, `MaxVersion`). -/
structure DashClient where
  timeout : GoInt
  tlsConfig : Option (Bool × UInt16 × UInt16)
  deriving DecidableEq, Repr

/-- `initialiseClient`, with the package's `dashClient`: the client it
returns, which `dashClient` then holds. -/
def initialiseClient (c : StartConfig) (opts : BootOptions) : Option DashClient → DashClient
  | some dashClient => dashClient
  | none =>
    let timeout := if opts.connectionTimeout.val < 1 then 30 else opts.connectionTimeout
    { timeout := GoInt.durationOfSeconds timeout
      tlsConfig := if c.conf.useSSL then
        some (opts.sslInsecureSkipVerify, c.opts.minVersion, c.opts.maxVersion) else none }

/-- The clients a sequence of `initialiseClient` calls returns, each call
reading the configuration of its moment. -/
def initialiseClientRun : Option DashClient → List (StartConfig × BootOptions) → List DashClient
  | _, [] => []
  | dashClient, (c, opts) :: calls =>
    initialiseClient c opts dashClient ::
      initialiseClientRun (some (initialiseClient c opts dashClient)) calls

theorem initialiseClientRun_some (client : DashClient) :
    ∀ calls, initialiseClientRun (some client) calls = List.replicate calls.length client
  | [] => rfl
  | _ :: calls => congrArg (client :: ·) (initialiseClientRun_some client calls)

/-- For every sequence of `initialiseClient` calls: every call returns the
client the first call built from its configuration, so a later change of the
timeout or of the TLS settings never reaches the dashboard client. Up to
`9223372036` seconds, its timeout is `ConnectionTimeout` seconds, or thirty
seconds when that is below one. -/
theorem initialiseClient_keeps_first_config (c : StartConfig) {opts : BootOptions}
    (calls : List (StartConfig × BootOptions)) (h : opts.connectionTimeout.val ≤ 9223372036) :
    initialiseClientRun none ((c, opts) :: calls) =
        List.replicate (calls.length + 1) (initialiseClient c opts none) ∧
      (initialiseClient c opts none).timeout.val =
        (if opts.connectionTimeout.val < 1 then 30 else opts.connectionTimeout.val) *
          1000000000 := by
  refine ⟨congrArg (_ :: ·) (initialiseClientRun_some _ calls), ?_⟩
  simp only [initialiseClient]
  split_ifs with hc
  · exact GoInt.durationOfSeconds_val (by decide) (by decide)
  · exact GoInt.durationOfSeconds_val (by omega) h

theorem initialiseClient_keeps_first_config_default :
    noBootOptions.connectionTimeout.val ≤ 9223372036 ∧
      initialiseClientRun none [(mdcbStartConfig, noBootOptions)] =
        List.replicate 1 (initialiseClient mdcbStartConfig noBootOptions none) ∧
      (initialiseClient mdcbStartConfig noBootOptions none).timeout.val =
        (if noBootOptions.connectionTimeout.val < 1 then 30
          else noBootOptions.connectionTimeout.val) * 1000000000 :=
  ⟨by decide, initialiseClient_keeps_first_config mdcbStartConfig [] (by decide)⟩

/-- One call of `SignatureVerifier`: the `PublicKeyPath` of the configuration
at the call, and what `goverify.LoadPublicKeyFromFile` gives for it if the
call loads it. -/
structure VerifierCall (V : Type) where
  publicKeyPath : String
  loaded : Except GoError V

/-- `SignatureVerifier`, with the cached `signatureVerifier`: what it returns
(a nil verifier is `none`) and the cache it leaves. -/
def signatureVerifier {V : Type} (cached : Option V) (call : VerifierCall V) :
    (Option V × Option GoError) × Option V :=
  if call.publicKeyPath = "" then ((none, none), cached)
  else
    match cached with
    | some verifier => ((some verifier, none), cached)
    | none =>
      match call.loaded with
      | .error err => ((none, some err), none)
      | .ok verifier => ((some verifier, none), some verifier)

/-- What a sequence of `SignatureVerifier` calls returns. -/
def signatureVerifierRun {V : Type} :
    Option V → List (VerifierCall V) → List (Option V × Option GoError)
  | _, [] => []
  | cached, call :: calls =>
    (signatureVerifier cached call).1 ::
      signatureVerifierRun (signatureVerifier cached call).2 calls

/-- The verifier of the first call with a key path whose load succeeded. -/
def firstLoaded {V : Type} : List (VerifierCall V) → Option V
  | [] => none
  | call :: calls =>
    if call.publicKeyPath = "" then firstLoaded calls
    else
      match call.loaded with
      | .ok verifier => some verifier
      | .error _ => firstLoaded calls

theorem firstLoaded_append {V : Type} (l₁ l₂ : List (VerifierCall V)) :
    firstLoaded (l₁ ++ l₂) = (firstLoaded l₁).or (firstLoaded l₂) := by
  induction l₁ with
  | nil => rfl
  | cons call calls ih =>
    simp only [List.cons_append, firstLoaded]
    split_ifs
    · exact ih
    · cases call.loaded
      · exact ih
      · rfl

/-- The cache only ever holds the first verifier loaded. -/
theorem signatureVerifier_cache {V : Type} (cached : Option V) (call : VerifierCall V) :
    (signatureVerifier cached call).2 = cached.or (firstLoaded [call]) := by
  unfold signatureVerifier firstLoaded
  split_ifs
  · cases cached <;> rfl
  · cases cached
    · cases call.loaded <;> rfl
    · rfl

theorem signatureVerifierRun_getElem {V : Type} (call : VerifierCall V)
    (post : List (VerifierCall V)) :
    ∀ (pre : List (VerifierCall V)) (cached : Option V),
      (signatureVerifierRun cached (pre ++ call :: post))[pre.length]? =
        some (signatureVerifier (cached.or (firstLoaded pre)) call).1
  | [], cached => by simp [signatureVerifierRun, firstLoaded]
  | c :: pre, cached => by
    rw [List.cons_append, signatureVerifierRun, List.length_cons, List.getElem?_cons_succ,
      signatureVerifierRun_getElem call post pre, signatureVerifier_cache, Option.or_assoc,
      ← firstLoaded_append]
    rfl

/-- For every sequence of `SignatureVerifier` calls from an empty cache, each
with the key path of its moment and what loading that file gives: a call with
no key path returns nil and no error. Any other call returns the verifier of
the first earlier call that loaded one, whatever its own path and file; only
when there is none does it load its own file, and return its verifier or its
error. A failed load is never cached, and once a verifier is, a new key path
is never loaded. -/
theorem signatureVerifier_keeps_first_verifier {V : Type} (pre post : List (VerifierCall V))
    (call : VerifierCall V) :
    (signatureVerifierRun none (pre ++ call :: post))[pre.length]? =
      some (if call.publicKeyPath = "" then (none, none)
        else match firstLoaded pre, call.loaded with
          | some verifier, _ => (some verifier, none)
          | none, .ok verifier => (some verifier, none)
          | none, .error err => (none, some err)) := by
  rw [signatureVerifierRun_getElem, Option.none_or]
  unfold signatureVerifier
  split_ifs
  · rfl
  · cases firstLoaded pre <;> cases call.loaded <;> rfl

/-- After the key path changes, the verifier of the first key is returned. -/
example : signatureVerifierRun none [⟨"a.pem", .ok 1⟩, ⟨"b.pem", .ok 2⟩, ⟨"", .ok 3⟩] =
    [(some 1, none), (some 1, none), (none, none)] := by
  decide

end TykGateway
