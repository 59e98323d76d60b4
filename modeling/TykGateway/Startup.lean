import TykGateway.Config.Setup

/-! # Starting the gateway

`Start` loads the configuration from `confPaths`, falling back to
`config.NewDefaultWithEnv`, and builds the gateway with `NewGateway`, whose
`cacheCreate` sizes the caches from that configuration. `initSystem` then
checks the log level of the configuration the gateway holds, loads the
configuration again (from the file `--conf` names, when it names one), runs
`afterConfSetup` on it, requires Redis storage, runs `setupGlobals`, applies
`--port`, and fills in the TLS versions, the dashboard policy source and the
liveness check interval before it stores the result. `Start` then
whitelists the ports with `setupPortsWhitelist`.

The caches and the log level check therefore read the configuration `Start`
loaded first: they miss the defaults of `afterConfSetup`, and the file that
`--conf` names.

## Implementation notes

`config.Config` is split in two: `Config` holds the fields the rest of the
model reads, and `StartOptions` those only the start-up reads. `config.Load`,
`config.NewDefaultWithEnv`, `checkup.Run` and `strconv.Atoi` are declared
outside the modelled files and are parameters; `config.Load` is a function of
the paths, so two loads of the same paths read the same file. The gateway is
not under test (`isRunningTests` is false). The log hooks are those of
`setupLogger`, modelled on their own since nothing else depends on them. The
log formatter, the PID file, the storage connection, the DNS cache, the
analytics and notifier set-up, instrumentation and the goroutines started on
the way change none of the modelled fields and are left out.
-/

namespace TykGateway

/-- The fields of `config.Config` that only the start-up reads. -/
structure StartOptions where
  logLevel : String
  /-- `Storage.Type`. -/
  storageType : String
  /-- `ServiceDiscovery.DefaultCacheTimeout`, in seconds. -/
  serviceDiscoveryCacheTimeout : Int
  proxySSLMinVersion : UInt16
  proxySSLMaxVersion : UInt16
  /-- `HttpServerOptions.MinVersion`. -/
  minVersion : UInt16
  /-- `HttpServerOptions.MaxVersion`. -/
  maxVersion : UInt16
  /-- `LivenessCheck.CheckDuration`, a `time.Duration` in nanoseconds. -/
  livenessCheckDuration : Int
  deriving DecidableEq, Repr

/-- A whole `config.Config`. -/
structure StartConfig where
  conf : Config
  opts : StartOptions
  deriving DecidableEq

/-- `confPaths` as the process starts: the files `config.Load` tries. -/
def defaultConfPaths : List String := ["tyk.conf", "/etc/tyk/tyk.conf"]

/-- The paths `initSystem` loads: `--conf` replaces `confPaths` when given. -/
def initConfPaths (cliConf : String) : List String :=
  if cliConf ≠ "" then [cliConf] else defaultConfPaths

/-! ### `cacheCreate` -/

/-- `cache.New(defaultExpiration, cleanupInterval)`, both in seconds; the
expiration is the `int64` the call is given, `none` where Go leaves that
value to the implementation. -/
structure CacheSpec where
  defaultExpiration : Option Int
  cleanupInterval : Int
  deriving DecidableEq, Repr

/-- The caches `cacheCreate` gives the gateway. -/
structure Caches where
  sessionCache : CacheSpec
  expiryCache : CacheSpec
  utilCache : CacheSpec
  serviceCache : CacheSpec
  rpcGlobalCache : CacheSpec
  rpcCertCache : CacheSpec
  deriving DecidableEq, Repr

/-- `int64(f)` of a `float32`: the fraction is discarded, truncating toward
zero. Go leaves the result to the implementation when the truncated value is
outside the `int64` range, so it is `none` there. -/
def int64OfFloat32 (f : ℚ) : Option Int :=
  let t := f.num.tdiv f.den
  if -9223372036854775808 ≤ t ∧ t < 9223372036854775808 then some t else none

/-- `cacheCreate`, on the configuration the gateway holds when `NewGateway`
runs it. -/
def cacheCreate (c : StartConfig) : Caches :=
  let timeout := c.opts.serviceDiscoveryCacheTimeout
  let timeout := if timeout ≤ 0 then 120 else timeout
  { sessionCache := ⟨some 10, 5⟩, expiryCache := ⟨some 600, 10 * 60⟩,
    utilCache := ⟨some 3600, 10 * 60⟩, serviceCache := ⟨some timeout, 15⟩,
    rpcGlobalCache := ⟨int64OfFloat32 c.conf.rpcGlobalCacheExpiration, 15⟩,
    rpcCertCache := ⟨int64OfFloat32 c.conf.rpcCertCacheExpiration, 15⟩ }

/-! ### The steps of `initSystem` -/

/-- The command-line flags and environment variables the start-up reads. -/
structure StartFlags where
  /-- `os.Getenv("TYK_LOGLEVEL")`. -/
  logLevelEnv : String
  /-- `*cli.DebugMode`. -/
  debugMode : Bool
  /-- `*cli.Conf`. -/
  conf : String
  /-- `*cli.Port`. -/
  port : String

/-- Where the start-up stops with `log.Fatal`. -/
inductive StartFatal where
  /-- `"Error falling back to default config with env: %v"`, in `Start`. -/
  | defaultConfig (err : GoError)
  /-- `"Invalid log level %q specified in config, ..."`, with the lowered level. -/
  | logLevel (level : String)
  /-- `"Error initialising system: %v"`: `initSystem` returned the error of
  `config.Load`, and `Start` stops with it. -/
  | initSystem (err : GoError)
  /-- A `log.Fatal` of `afterConfSetup`, with its message and the KV error. -/
  | confSetup (msg : String) (err : GoError)
  /-- `"Redis connection details not set, ..."`. -/
  | storage
  /-- `"Analytics requires Redis Storage backend, ..."`, in `setupGlobals`. -/
  | analytics
  deriving DecidableEq, Repr

/-- The levels the `switch` of `initSystem` accepts. -/
def knownLogLevel : String → Bool
  | "" | "info" | "error" | "warn" | "debug" => true
  | _ => false

/-- The log level check of `initSystem`, made when `TYK_LOGLEVEL` is unset and
debug mode is off, on the configuration the gateway holds; `toLower` is
`strings.ToLower`, whose Unicode case mapping is left to the library. -/
def checkLogLevel (toLower : String → String) (flags : StartFlags) (c : StartConfig) :
    Except StartFatal Unit :=
  if flags.logLevelEnv = "" ∧ flags.debugMode = false ∧
      knownLogLevel (toLower c.opts.logLevel) = false then
    .error (.logLevel (toLower c.opts.logLevel))
  else .ok ()

/-- `setupGlobals`, on the configuration: `checkup.Run` may change it, and
analytics needs Redis storage. -/
def setupGlobals (checkup : StartConfig → StartConfig) (c : StartConfig) :
    Except StartFatal StartConfig :=
  let c := checkup c
  if c.conf.enableAnalytics = true ∧ c.opts.storageType ≠ "redis" then .error .analytics else .ok c

/-- `--port`: a port that parses as a number replaces `ListenPort`; one that
does not is logged and ignored. -/
def applyPortFlag (atoi : String → Except GoError Int) (port : String) (c : StartConfig) :
    StartConfig :=
  if port ≠ "" then
    match atoi port with
    | .ok n => { c with conf := { c.conf with listenPort := n } }
    | .error _ => c
  else c

/-- The `logrus` levels. -/
inductive LogLevel where
  | panic
  | fatal
  | error
  | warn
  | info
  | debug
  | trace
  deriving DecidableEq, Repr

/-- The fields of `config.Config` that `setupLogger` reads. -/
structure LoggerOptions where
  useSentry : Bool
  sentryLogLevel : String
  useSyslog : Bool
  useGraylog : Bool
  useLogstash : Bool
  useRedisLog : Bool
  deriving DecidableEq, Repr

/-- A hook `setupLogger` adds to both `log` and `rawLog`. -/
inductive LogHook where
  | sentry (levels : List LogLevel)
  | syslog
  | graylog
  | logstash
  | redis
  deriving DecidableEq, Repr

/-- Whether `logrussentry.NewSentryHook`, `logrussyslog.NewSyslogHook` and the
Logstash dial returned no error. -/
structure HookResults where
  sentry : Bool
  syslog : Bool
  logstash : Bool
  deriving DecidableEq, Repr

/-- The levels `setupLogger` gives the Sentry hook. -/
def sentryLevels (sentryLogLevel : String) : List LogLevel :=
  if sentryLogLevel = "" then [.panic, .fatal, .error]
  else if sentryLogLevel = "panic" then [.panic, .fatal]
  else []

/-- `setupLogger`, which `initSystem` calls after `--port`: the hooks it adds,
in order. A hook whose constructor fails is not added. -/
def setupLogger (opts : LoggerOptions) (made : HookResults) : List LogHook :=
  (if opts.useSentry && made.sentry then [.sentry (sentryLevels opts.sentryLogLevel)] else []) ++
    (if opts.useSyslog && made.syslog then [.syslog] else []) ++
    (if opts.useGraylog then [.graylog] else []) ++
    (if opts.useLogstash && made.logstash then [.logstash] else []) ++
    (if opts.useRedisLog then [.redis] else [])

theorem mem_setupLogger_sentry {opts : LoggerOptions} {made : HookResults}
    {levels : List LogLevel} :
    LogHook.sentry levels ∈ setupLogger opts made ↔
      (opts.useSentry && made.sentry) = true ∧ levels = sentryLevels opts.sentryLogLevel := by
  unfold setupLogger
  cases h : (opts.useSentry && made.sentry) <;> simp [h, List.mem_ite_nil_right]

/-- For every logging configuration and whatever the hook constructors give:
Sentry receives entries of a level exactly when `UseSentry` is set, its hook
was created, and either `SentryLogLevel` is empty and the level is `panic`,
`fatal` or `error`, or it is `"panic"` and the level is `panic` or `fatal`.
Any other `SentryLogLevel`, such as `"error"`, adds a Sentry hook that fires
on no level, and `warn`, `info`, `debug` and `trace` never reach Sentry. -/
theorem setupLogger_sentry_levels (opts : LoggerOptions) (made : HookResults) (level : LogLevel) :
    (∃ levels, LogHook.sentry levels ∈ setupLogger opts made ∧ level ∈ levels) ↔
      opts.useSentry = true ∧ made.sentry = true ∧
        (opts.sentryLogLevel = "" ∧ (level = .panic ∨ level = .fatal ∨ level = .error) ∨
          opts.sentryLogLevel = "panic" ∧ (level = .panic ∨ level = .fatal)) := by
  simp only [mem_setupLogger_sentry, Bool.and_eq_true, and_assoc, exists_and_left, exists_eq_left]
  refine and_congr_right fun _ => and_congr_right fun _ => ?_
  unfold sentryLevels
  split_ifs with h₁ h₂
  · cases level <;> simp [h₁]
  · cases level <;> simp [h₁, h₂]
  · cases level <;> simp [h₁, h₂]

/-- `SentryLogLevel` set to `"error"` adds a Sentry hook with no level. -/
example : setupLogger ⟨true, "error", false, false, false, false⟩ ⟨true, true, true⟩ =
    [.sentry []] := by
  decide

/-- `tls.VersionTLS12`. -/
def versionTLS12 : UInt16 := 0x0303

/-- `config.DefaultDashPolicySource`. -/
def defaultDashPolicySource : String := "service"

/-- `config.DefaultDashPolicyRecordName`. -/
def defaultDashPolicyRecordName : String := "tyk_policies"

/-- A maximum TLS version as `initSystem` leaves it: TLS 1.2 when it is unset,
and raised to the minimum. -/
def tlsMaxVersion (minVersion maxVersion : UInt16) : UInt16 :=
  let maxVersion := if maxVersion = 0 then versionTLS12 else maxVersion
  if minVersion > maxVersion then minVersion else maxVersion

/-- Either block of `initSystem` that, with `UseDBAppConfigs`, takes the
policies from the dashboard. The first reads `gw.GetConfig()` and the second
`gwConfig`; the two hold the same value there. -/
def useDashboardPolicies (conf : Config) : Config :=
  if conf.useDBAppConfigs = true ∧ conf.policySource ≠ defaultDashPolicySource then
    { conf with
      policySource := defaultDashPolicySource
      policyConnectionString := conf.dbAppConfConnectionString
      policyRecordName := withDefault "" conf.policyRecordName defaultDashPolicyRecordName }
  else conf

/-- The defaults at the end of `initSystem`, in its order: the dashboard
policy source, the proxy and the server TLS versions, the policy source again,
and a liveness check every ten seconds. -/
def initSystemDefaults (c : StartConfig) : StartConfig :=
  let conf := useDashboardPolicies c.conf
  let opts := { c.opts with
    proxySSLMaxVersion := tlsMaxVersion c.opts.proxySSLMinVersion c.opts.proxySSLMaxVersion }
  let opts := { opts with maxVersion := tlsMaxVersion opts.minVersion opts.maxVersion }
  let conf := useDashboardPolicies conf
  { conf, opts := { opts with
    livenessCheckDuration := withDefault 0 opts.livenessCheckDuration 10000000000 } }

/-! ### The defaults of `initSystem` -/

theorem ne_zero_of_gt {a b : UInt16} (h : a > b) : a ≠ 0 := by
  rintro rfl
  have : b.toBitVec < 0#16 := UInt16.lt_def.mp h
  bv_omega

theorem tlsMaxVersion_ne_zero (minVersion maxVersion : UInt16) :
    tlsMaxVersion minVersion maxVersion ≠ 0 := by
  dsimp only [tlsMaxVersion]
  split_ifs with h0 h h
  · exact ne_zero_of_gt h
  · decide
  · exact ne_zero_of_gt h
  · exact h0

theorem le_tlsMaxVersion (minVersion maxVersion : UInt16) :
    minVersion ≤ tlsMaxVersion minVersion maxVersion := by
  dsimp only [tlsMaxVersion]
  split_ifs with h0 h h
  · exact UInt16.le_refl _
  · exact UInt16.not_lt.mp h
  · exact UInt16.le_refl _
  · exact UInt16.not_lt.mp h

/-- A maximum that is set and not below the minimum is kept. -/
theorem tlsMaxVersion_of_le {minVersion maxVersion : UInt16} (h0 : maxVersion ≠ 0)
    (h : minVersion ≤ maxVersion) : tlsMaxVersion minVersion maxVersion = maxVersion := by
  simp only [tlsMaxVersion, if_neg h0, if_neg (UInt16.not_lt.mpr h)]

@[simp] theorem useDashboardPolicies_useDBAppConfigs (conf : Config) :
    (useDashboardPolicies conf).useDBAppConfigs = conf.useDBAppConfigs := by
  unfold useDashboardPolicies; split_ifs <;> rfl

@[simp] theorem useDashboardPolicies_rpcCertCacheExpiration (conf : Config) :
    (useDashboardPolicies conf).rpcCertCacheExpiration = conf.rpcCertCacheExpiration := by
  unfold useDashboardPolicies; split_ifs <;> rfl

@[simp] theorem useDashboardPolicies_rpcGlobalCacheExpiration (conf : Config) :
    (useDashboardPolicies conf).rpcGlobalCacheExpiration = conf.rpcGlobalCacheExpiration := by
  unfold useDashboardPolicies; split_ifs <;> rfl

@[simp] theorem useDashboardPolicies_openTelemetry (conf : Config) :
    (useDashboardPolicies conf).openTelemetry = conf.openTelemetry := by
  unfold useDashboardPolicies; split_ifs <;> rfl

theorem useDashboardPolicies_policySource {conf : Config} (h : conf.useDBAppConfigs = true) :
    (useDashboardPolicies conf).policySource = defaultDashPolicySource := by
  unfold useDashboardPolicies
  split_ifs with hc
  · rfl
  · exact not_not.mp fun hs => hc ⟨h, hs⟩

theorem useDashboardPolicies_of_policySource {conf : Config}
    (h : conf.useDBAppConfigs = true → conf.policySource = defaultDashPolicySource) :
    useDashboardPolicies conf = conf :=
  if_neg fun ⟨hu, hs⟩ => hs (h hu)

/-- The second dashboard policy block of `initSystem` never changes anything. -/
@[simp] theorem useDashboardPolicies_idem (conf : Config) :
    useDashboardPolicies (useDashboardPolicies conf) = useDashboardPolicies conf :=
  useDashboardPolicies_of_policySource fun h =>
    useDashboardPolicies_policySource (by simpa using h)

@[simp] theorem initSystemDefaults_conf (c : StartConfig) :
    (initSystemDefaults c).conf = useDashboardPolicies c.conf := by
  simp [initSystemDefaults]

/-- What the defaults at the end of `initSystem` make the configuration pass. -/
structure StartDefaulted (c : StartConfig) : Prop where
  proxySSLMaxVersion : c.opts.proxySSLMaxVersion ≠ 0
  proxySSLVersions : c.opts.proxySSLMinVersion ≤ c.opts.proxySSLMaxVersion
  maxVersion : c.opts.maxVersion ≠ 0
  versions : c.opts.minVersion ≤ c.opts.maxVersion
  livenessCheckDuration : c.opts.livenessCheckDuration ≠ 0
  policySource : c.conf.useDBAppConfigs = true → c.conf.policySource = defaultDashPolicySource

theorem startDefaulted_initSystemDefaults (c : StartConfig) :
    StartDefaulted (initSystemDefaults c) where
  proxySSLMaxVersion := tlsMaxVersion_ne_zero _ _
  proxySSLVersions := le_tlsMaxVersion _ _
  maxVersion := tlsMaxVersion_ne_zero _ _
  versions := le_tlsMaxVersion _ _
  livenessCheckDuration := withDefault_ne (by decide) _
  policySource h := by
    rw [initSystemDefaults_conf] at h ⊢
    exact useDashboardPolicies_policySource (by simpa using h)

/-- On a configuration that passes them, the defaults change nothing. -/
theorem initSystemDefaults_of_startDefaulted {c : StartConfig} (h : StartDefaulted c) :
    initSystemDefaults c = c := by
  obtain ⟨conf, opts⟩ := c
  simp only [initSystemDefaults, useDashboardPolicies_of_policySource h.policySource,
    tlsMaxVersion_of_le h.proxySSLMaxVersion h.proxySSLVersions,
    tlsMaxVersion_of_le h.maxVersion h.versions, withDefault_of_ne h.livenessCheckDuration]

/-- `setupPortsWhitelist` changes only the whitelists. -/
theorem StartDefaulted.setupPortsWhitelist {c : StartConfig} (h : StartDefaulted c) :
    StartDefaulted { c with conf := TykGateway.setupPortsWhitelist c.conf } :=
  ⟨h.1, h.2, h.3, h.4, h.5, h.6⟩

@[simp] theorem applyPortFlag_opts (atoi : String → Except GoError Int) (port : String)
    (c : StartConfig) : (applyPortFlag atoi port c).opts = c.opts := by
  unfold applyPortFlag; split <;> [split <;> rfl; rfl]

@[simp] theorem applyPortFlag_rpcCacheExpirations (atoi : String → Except GoError Int)
    (port : String) (c : StartConfig) :
    (applyPortFlag atoi port c).conf.rpcCertCacheExpiration = c.conf.rpcCertCacheExpiration ∧
      (applyPortFlag atoi port c).conf.rpcGlobalCacheExpiration =
        c.conf.rpcGlobalCacheExpiration := by
  unfold applyPortFlag; split <;> [split <;> exact ⟨rfl, rfl⟩; exact ⟨rfl, rfl⟩]

@[simp] theorem applyPortFlag_openTelemetry (atoi : String → Except GoError Int) (port : String)
    (c : StartConfig) : (applyPortFlag atoi port c).conf.openTelemetry = c.conf.openTelemetry := by
  unfold applyPortFlag; split <;> [split <;> rfl; rfl]

/-! ### `initSystem` and `Start` -/

section Start

variable (env : KVEnv) (defaultOTelResourceName : String)
  (setDefaults : OpenTelemetry → OpenTelemetry) (load : List String → Except GoError StartConfig)
  (checkup : StartConfig → StartConfig) (atoi : String → Except GoError Int)
  (toLower : String → String) (flags : StartFlags)

/-- `initSystem`, from the configuration the gateway holds and its KV clients:
the configuration it stores and the KV clients it leaves, or where it stops. -/
def initSystem (stored : StartConfig) (kv : KVClients) :
    Except StartFatal (StartConfig × KVClients) := do
  checkLogLevel toLower flags stored
  let loaded ← (load (initConfPaths flags.conf)).mapError .initSystem
  let st ← (afterConfSetup env defaultOTelResourceName setDefaults loaded.conf kv).mapError
    fun e => .confSetup e.1 e.2
  let c := { loaded with conf := st.1 }
  if c.opts.storageType ≠ "redis" then throw .storage
  else
    let c ← setupGlobals checkup c
    pure (initSystemDefaults (applyPortFlag atoi flags.port c), st.2)

/-- `Start`'s first load: the configuration at `confPaths`, or the defaults
with the environment when it cannot be loaded. -/
def startConfig (newDefaultWithEnv : Except GoError StartConfig) :
    Except StartFatal StartConfig :=
  match load defaultConfPaths with
  | .ok c => .ok c
  | .error _ => newDefaultWithEnv.mapError .defaultConfig

/-- What `Start` has built once `initSystem` has returned and the ports are
whitelisted. -/
structure Started where
  /-- `gwConfig` of `Start`: the configuration `NewGateway` was given. -/
  own : StartConfig
  /-- The caches of `NewGateway`. -/
  caches : Caches
  /-- `gw.GetConfig()`. -/
  running : StartConfig
  /-- The KV clients `afterConfSetup` left. -/
  kv : KVClients

/-- `Start` up to `setupPortsWhitelist`. `NewGateway` stores `gwConfig`, sizes
the caches from it and has no KV client yet; `initSystem` then replaces the
stored configuration. -/
def start (newDefaultWithEnv : Except GoError StartConfig) : Except StartFatal Started := do
  let own ← startConfig load newDefaultWithEnv
  let st ← initSystem env defaultOTelResourceName setDefaults load checkup atoi toLower flags own
    ⟨false, false⟩
  pure ⟨own, cacheCreate own, { st.1 with conf := setupPortsWhitelist st.1.conf }, st.2⟩

/-! ### What each step can do -/

theorem mapError_eq_ok {ε ε' α : Type} {f : ε → ε'} {x : Except ε α} {a : α} :
    x.mapError f = .ok a ↔ x = .ok a := by
  cases x <;> simp [Except.mapError]

theorem mapError_eq_error {ε ε' α : Type} {f : ε → ε'} {x : Except ε α} {e : ε'} :
    x.mapError f = .error e ↔ ∃ e', x = .error e' ∧ f e' = e := by
  cases x <;> simp [Except.mapError]

theorem initSystem_eq_ok {stored c : StartConfig} {kv kv' : KVClients}
    (h : initSystem env defaultOTelResourceName setDefaults load checkup atoi toLower flags
      stored kv = .ok (c, kv')) :
    checkLogLevel toLower flags stored = .ok () ∧ ∃ loaded conf pre,
      load (initConfPaths flags.conf) = .ok loaded ∧
      afterConfSetup env defaultOTelResourceName setDefaults loaded.conf kv = .ok (conf, kv') ∧
      loaded.opts.storageType = "redis" ∧ setupGlobals checkup { loaded with conf } = .ok pre ∧
      c = initSystemDefaults (applyPortFlag atoi flags.port pre) := by
  obtain ⟨⟨⟩, hlog, h⟩ := except_bind_eq_ok.mp h
  obtain ⟨loaded, hload, h⟩ := except_bind_eq_ok.mp h
  obtain ⟨⟨conf, kv₁⟩, hsetup, h⟩ := except_bind_eq_ok.mp h
  dsimp only at h
  split_ifs at h with hs
  obtain ⟨pre, hpre, h⟩ := except_bind_eq_ok.mp h
  obtain ⟨rfl, rfl⟩ := Prod.mk.inj (Except.ok.inj h)
  exact ⟨hlog, loaded, conf, pre, mapError_eq_ok.mp hload, mapError_eq_ok.mp hsetup,
    not_not.mp hs, hpre, rfl⟩

theorem start_eq_ok {newDefaultWithEnv : Except GoError StartConfig} {s : Started}
    (h : start env defaultOTelResourceName setDefaults load checkup atoi toLower flags
      newDefaultWithEnv = .ok s) :
    startConfig load newDefaultWithEnv = .ok s.own ∧ s.caches = cacheCreate s.own ∧ ∃ c,
      initSystem env defaultOTelResourceName setDefaults load checkup atoi toLower flags s.own
        ⟨false, false⟩ = .ok (c, s.kv) ∧
      s.running = { c with conf := setupPortsWhitelist c.conf } := by
  obtain ⟨own, hown, h⟩ := except_bind_eq_ok.mp h
  obtain ⟨⟨c, kv⟩, hinit, h⟩ := except_bind_eq_ok.mp h
  cases Except.ok.inj h
  exact ⟨hown, rfl, c, hinit, rfl⟩

theorem checkLogLevel_eq_error {c : StartConfig} {f : StartFatal} :
    checkLogLevel toLower flags c = .error f ↔
      (flags.logLevelEnv = "" ∧ flags.debugMode = false ∧
        knownLogLevel (toLower c.opts.logLevel) = false) ∧
      f = .logLevel (toLower c.opts.logLevel) := by
  unfold checkLogLevel
  split_ifs with h
  · exact ⟨fun he => ⟨h, (Except.error.inj he).symm⟩, fun ⟨_, he⟩ => he ▸ rfl⟩
  · exact ⟨fun he => (by cases he), fun ⟨hc, _⟩ => absurd hc h⟩

theorem initSystem_of_checkLogLevel {stored : StartConfig} {f : StartFatal} (kv : KVClients)
    (h : checkLogLevel toLower flags stored = .error f) :
    initSystem env defaultOTelResourceName setDefaults load checkup atoi toLower flags stored kv =
      .error f := by
  unfold initSystem
  rw [h]
  rfl

theorem setupGlobals_eq_ok {c c' : StartConfig} (h : setupGlobals checkup c = .ok c') :
    c' = checkup c := by
  dsimp only [setupGlobals] at h
  split_ifs at h
  exact (Except.ok.inj h).symm

theorem setupGlobals_eq_error {c : StartConfig} {f : StartFatal}
    (h : setupGlobals checkup c = .error f) :
    f = .analytics ∧ (checkup c).opts.storageType ≠ "redis" := by
  dsimp only [setupGlobals] at h
  split_ifs at h with hc
  exact ⟨(Except.error.inj h).symm, hc.2⟩

theorem initSystem_eq_error {stored : StartConfig} {kv : KVClients} {f : StartFatal}
    (h : initSystem env defaultOTelResourceName setDefaults load checkup atoi toLower flags
      stored kv = .error f) :
    checkLogLevel toLower flags stored = .error f ∨ checkLogLevel toLower flags stored = .ok () ∧
      ((∃ err, load (initConfPaths flags.conf) = .error err ∧ f = .initSystem err) ∨
        ∃ loaded, load (initConfPaths flags.conf) = .ok loaded ∧
          ((∃ e, afterConfSetup env defaultOTelResourceName setDefaults loaded.conf kv = .error e ∧
              f = .confSetup e.1 e.2) ∨
            ∃ st, afterConfSetup env defaultOTelResourceName setDefaults loaded.conf kv = .ok st ∧
              (loaded.opts.storageType ≠ "redis" ∧ f = .storage ∨
                loaded.opts.storageType = "redis" ∧
                  setupGlobals checkup { loaded with conf := st.1 } = .error f))) := by
  rcases except_bind_eq_error.mp h with hlog | ⟨⟨⟩, hlog, h⟩
  · exact .inl hlog
  refine .inr ⟨hlog, ?_⟩
  rcases except_bind_eq_error.mp h with hload | ⟨loaded, hload, h⟩
  · obtain ⟨err, hl, rfl⟩ := mapError_eq_error.mp hload
    exact .inl ⟨err, hl, rfl⟩
  refine .inr ⟨loaded, mapError_eq_ok.mp hload, ?_⟩
  rcases except_bind_eq_error.mp h with hsetup | ⟨st, hsetup, h⟩
  · obtain ⟨e, hs, rfl⟩ := mapError_eq_error.mp hsetup
    exact .inl ⟨e, hs, rfl⟩
  refine .inr ⟨st, mapError_eq_ok.mp hsetup, ?_⟩
  dsimp only at h
  split_ifs at h with hs
  · exact .inl ⟨hs, (Except.error.inj h).symm⟩
  · rcases except_bind_eq_error.mp h with hg | ⟨_, -, hp⟩
    · exact .inr ⟨not_not.mp hs, hg⟩
    · cases hp

theorem startConfig_eq_error {newDefaultWithEnv : Except GoError StartConfig} {f : StartFatal}
    (h : startConfig load newDefaultWithEnv = .error f) : ∃ err, f = .defaultConfig err := by
  unfold startConfig at h
  split at h
  · cases h
  · obtain ⟨err, -, rfl⟩ := mapError_eq_error.mp h
    exact ⟨err, rfl⟩

theorem start_eq_error {newDefaultWithEnv : Except GoError StartConfig} {f : StartFatal}
    (h : start env defaultOTelResourceName setDefaults load checkup atoi toLower flags
      newDefaultWithEnv = .error f) :
    startConfig load newDefaultWithEnv = .error f ∨
      ∃ own, startConfig load newDefaultWithEnv = .ok own ∧
        initSystem env defaultOTelResourceName setDefaults load checkup atoi toLower flags own
          ⟨false, false⟩ = .error f := by
  rcases except_bind_eq_error.mp h with hs | ⟨own, hown, h⟩
  · exact .inl hs
  rcases except_bind_eq_error.mp h with hi | ⟨_, -, hp⟩
  · exact .inr ⟨own, hown, hi⟩
  · cases hp

/-- Without `--conf`, `initSystem` reloads the file `Start` loaded first. -/
theorem start_eq_ok_of_default_paths {newDefaultWithEnv : Except GoError StartConfig}
    {s : Started}
    (h : start env defaultOTelResourceName setDefaults load checkup atoi toLower flags
      newDefaultWithEnv = .ok s)
    (hconf : flags.conf = "") :
    ∃ conf pre, afterConfSetup env defaultOTelResourceName setDefaults s.own.conf ⟨false, false⟩ =
        .ok (conf, s.kv) ∧ setupGlobals checkup { s.own with conf } = .ok pre ∧
      s.running = { initSystemDefaults (applyPortFlag atoi flags.port pre) with
        conf :=
          setupPortsWhitelist (initSystemDefaults (applyPortFlag atoi flags.port pre)).conf } := by
  obtain ⟨hown, -, c, hinit, hrun⟩ := start_eq_ok env defaultOTelResourceName setDefaults load
    checkup atoi toLower flags h
  obtain ⟨-, loaded, conf, pre, hload, hsetup, -, hpre, rfl⟩ := initSystem_eq_ok env
    defaultOTelResourceName setDefaults load checkup atoi toLower flags hinit
  have hloaded : loaded = s.own := by
    rw [hconf, show initConfPaths "" = defaultConfPaths from if_neg (not_not.mpr rfl)] at hload
    unfold startConfig at hown
    rw [hload] at hown
    exact Except.ok.inj hown
  subst hloaded
  exact ⟨conf, pre, hsetup, hpre, hrun⟩

/-- Without `--conf`, and with a `checkup.Run` that keeps it, the gateway runs
with the OpenTelemetry section `Start` loaded first, with `afterConfSetup`'s
defaults. -/
theorem start_running_openTelemetry {newDefaultWithEnv : Except GoError StartConfig}
    {s : Started}
    (h : start env defaultOTelResourceName setDefaults load checkup atoi toLower flags
      newDefaultWithEnv = .ok s)
    (hconf : flags.conf = "")
    (hcheck : ∀ c, (checkup c).conf.openTelemetry = c.conf.openTelemetry) :
    s.running.conf.openTelemetry =
      (openTelemetryDefaults defaultOTelResourceName setDefaults s.own.conf).openTelemetry := by
  obtain ⟨conf, pre, hsetup, hpre, hrun⟩ := start_eq_ok_of_default_paths env
    defaultOTelResourceName setDefaults load checkup atoi toLower flags h hconf
  rw [hrun, setupGlobals_eq_ok checkup hpre]
  simp only [setupPortsWhitelist, initSystemDefaults_conf, useDashboardPolicies_openTelemetry,
    applyPortFlag_openTelemetry, hcheck]
  exact afterConfSetup_openTelemetry env defaultOTelResourceName setDefaults hsetup

/-! ### The configuration the gateway runs with -/

/-- For every loader, every fallback, every `checkup.Run`, every flag and
every KV environment: when `Start` gets past `initSystem` and
`setupPortsWhitelist`, the configuration the gateway runs with has a maximum
TLS version, for the proxy and for the server, that is set and not below the
minimum, a liveness check interval, and the dashboard as its policy source
with `UseDBAppConfigs`; the defaults of `initSystem` change nothing in it. -/
theorem start_running_config_defaulted (newDefaultWithEnv : Except GoError StartConfig)
    {s : Started}
    (h : start env defaultOTelResourceName setDefaults load checkup atoi toLower flags
      newDefaultWithEnv = .ok s) :
    StartDefaulted s.running ∧ initSystemDefaults s.running = s.running := by
  obtain ⟨-, -, c, hinit, hrun⟩ := start_eq_ok env defaultOTelResourceName setDefaults load checkup
    atoi toLower flags h
  obtain ⟨-, -, -, pre, -, -, -, -, rfl⟩ := initSystem_eq_ok env defaultOTelResourceName setDefaults
    load checkup atoi toLower flags hinit
  have hd : StartDefaulted s.running :=
    hrun ▸ (startDefaulted_initSystemDefaults _).setupPortsWhitelist
  exact ⟨hd, initSystemDefaults_of_startDefaulted hd⟩

/-- A file at the default paths for a gateway on MDCB (`loadedConf`) with Redis
storage and no TLS version, cache expiration or liveness interval set. -/
def mdcbStartConfig : StartConfig := ⟨loadedConf, ⟨"info", "redis", 0, 0, 0, 0, 0, 0⟩⟩

/-- No flag, and `TYK_LOGLEVEL` unset. -/
def noFlags : StartFlags := ⟨"", false, "", ""⟩

/-- What `Start` builds from `mdcbStartConfig`: the caches keep the loaded
expirations, while the gateway runs with the defaults of `afterConfSetup` and
`initSystem` and the listen port whitelisted. -/
def mdcbStarted : Started :=
  ⟨mdcbStartConfig, cacheCreate mdcbStartConfig,
    ⟨{ setupConf with portWhiteList := (∅ : GoMap PortWhiteList).insert "http" ⟨[0]⟩ },
      ⟨"info", "redis", 0, 0, versionTLS12, 0, versionTLS12, 10000000000⟩⟩, ⟨false, false⟩⟩

theorem start_running_config_defaulted_mdcb :
    start echoEnv "gateway" id (fun _ => .ok mdcbStartConfig) id (fun _ => .error (.new "")) id
        noFlags (.error (.new "")) = .ok mdcbStarted ∧
      StartDefaulted mdcbStarted.running ∧
      initSystemDefaults mdcbStarted.running = mdcbStarted.running :=
  ⟨rfl, start_running_config_defaulted echoEnv "gateway" id (fun _ => .ok mdcbStartConfig) id
    (fun _ => .error (.new "")) id noFlags (.error (.new "")) (s := mdcbStarted) rfl⟩

/-- For every loader, fallback, flag and KV environment, and a `checkup.Run`
that keeps the `SlaveOptions` cache expirations: the RPC caches are sized from
the configuration `Start` loaded first from `confPaths`, even when `--conf`
names another file. Without `--conf` and with `UseRPC`, the gateway then runs
with the expirations `afterConfSetup` defaults (an hour for certificates,
thirty seconds for keys), while a cache whose expiration was not set was
created with expiration `0`. -/
theorem start_rpc_caches_miss_defaults (newDefaultWithEnv : Except GoError StartConfig)
    {s : Started}
    (h : start env defaultOTelResourceName setDefaults load checkup atoi toLower flags
      newDefaultWithEnv = .ok s)
    (hcheck : ∀ c, (checkup c).conf.rpcCertCacheExpiration = c.conf.rpcCertCacheExpiration ∧
      (checkup c).conf.rpcGlobalCacheExpiration = c.conf.rpcGlobalCacheExpiration) :
    startConfig load newDefaultWithEnv = .ok s.own ∧
      s.caches.rpcCertCache = ⟨int64OfFloat32 s.own.conf.rpcCertCacheExpiration, 15⟩ ∧
      s.caches.rpcGlobalCache = ⟨int64OfFloat32 s.own.conf.rpcGlobalCacheExpiration, 15⟩ ∧
      (flags.conf = "" → s.own.conf.useRPC = true →
        s.running.conf.rpcCertCacheExpiration =
            withDefault 0 s.own.conf.rpcCertCacheExpiration 3600 ∧
          s.running.conf.rpcGlobalCacheExpiration =
            withDefault 0 s.own.conf.rpcGlobalCacheExpiration 30) := by
  obtain ⟨hown, hcache, -⟩ := start_eq_ok env defaultOTelResourceName setDefaults load checkup
    atoi toLower flags h
  refine ⟨hown, by rw [hcache]; rfl, by rw [hcache]; rfl, fun hconf hrpc => ?_⟩
  obtain ⟨conf, pre, hsetup, hpre, hrun⟩ := start_eq_ok_of_default_paths env
    defaultOTelResourceName setDefaults load checkup atoi toLower flags h hconf
  obtain ⟨hcert, hglobal⟩ := afterConfSetup_rpcCacheExpirations env defaultOTelResourceName
    setDefaults hsetup hrpc
  rw [hrun, setupGlobals_eq_ok checkup hpre]
  simp only [setupPortsWhitelist, initSystemDefaults_conf,
    useDashboardPolicies_rpcCertCacheExpiration, useDashboardPolicies_rpcGlobalCacheExpiration,
    applyPortFlag_rpcCacheExpirations, hcheck]
  exact ⟨hcert, hglobal⟩

theorem start_rpc_caches_miss_defaults_mdcb :
    start echoEnv "gateway" id (fun _ => .ok mdcbStartConfig) id (fun _ => .error (.new "")) id
        noFlags (.error (.new "")) = .ok mdcbStarted ∧
      (∀ c : StartConfig, (id c).conf.rpcCertCacheExpiration = c.conf.rpcCertCacheExpiration ∧
        (id c).conf.rpcGlobalCacheExpiration = c.conf.rpcGlobalCacheExpiration) ∧
      startConfig (fun _ => .ok mdcbStartConfig) (.error (.new "")) = .ok mdcbStarted.own ∧
      mdcbStarted.caches.rpcCertCache =
        ⟨int64OfFloat32 mdcbStarted.own.conf.rpcCertCacheExpiration, 15⟩ ∧
      mdcbStarted.caches.rpcGlobalCache =
        ⟨int64OfFloat32 mdcbStarted.own.conf.rpcGlobalCacheExpiration, 15⟩ ∧
      (noFlags.conf = "" → mdcbStarted.own.conf.useRPC = true →
        mdcbStarted.running.conf.rpcCertCacheExpiration =
            withDefault 0 mdcbStarted.own.conf.rpcCertCacheExpiration 3600 ∧
          mdcbStarted.running.conf.rpcGlobalCacheExpiration =
            withDefault 0 mdcbStarted.own.conf.rpcGlobalCacheExpiration 30) :=
  ⟨rfl, fun _ => ⟨rfl, rfl⟩,
    start_rpc_caches_miss_defaults echoEnv "gateway" id (fun _ => .ok mdcbStartConfig) id
      (fun _ => .error (.new "")) id noFlags (.error (.new "")) (s := mdcbStarted) rfl
      fun _ => ⟨rfl, rfl⟩⟩

/-- With both expirations unset, the caches were created with expiration `0`
while the gateway runs with an hour and thirty seconds. -/
example : mdcbStarted.caches.rpcCertCache.defaultExpiration = some 0 ∧
    mdcbStarted.running.conf.rpcCertCacheExpiration = 3600 ∧
    mdcbStarted.caches.rpcGlobalCache.defaultExpiration = some 0 ∧
    mdcbStarted.running.conf.rpcGlobalCacheExpiration = 30 := by
  decide

/-- A half-second expiration is set, so `afterConfSetup` keeps it, while
`int64()` truncates it to a cache created with expiration `0`. -/
example : (cacheCreate ⟨{ loadedConf with rpcCertCacheExpiration := mkRat 1 2 },
      ⟨"info", "redis", 0, 0, 0, 0, 0, 0⟩⟩).rpcCertCache.defaultExpiration = some 0 ∧
    withDefault 0 (mkRat 1 2) 3600 = mkRat 1 2 := by
  decide

/-- For every loader, fallback, flag and KV environment: the start-up stops
with the invalid log level message exactly when the configuration `Start`
loaded first from `confPaths` has a level the `switch` does not know, with
`TYK_LOGLEVEL` unset and debug mode off; the level of a file `--conf` names is
never checked. With a `checkup.Run` that keeps `Storage.Type`, the analytics
check of `setupGlobals` never stops it: `initSystem` has required Redis
before. -/
theorem start_log_level_and_analytics_fatal (newDefaultWithEnv : Except GoError StartConfig)
    (hcheck : ∀ c, (checkup c).opts.storageType = c.opts.storageType) :
    (∀ level, start env defaultOTelResourceName setDefaults load checkup atoi toLower flags
        newDefaultWithEnv = .error (.logLevel level) ↔
      ∃ own, startConfig load newDefaultWithEnv = .ok own ∧ flags.logLevelEnv = "" ∧
        flags.debugMode = false ∧ knownLogLevel (toLower own.opts.logLevel) = false ∧
        level = toLower own.opts.logLevel) ∧
      start env defaultOTelResourceName setDefaults load checkup atoi toLower flags
        newDefaultWithEnv ≠ .error .analytics := by
  refine ⟨fun level => ⟨fun h => ?_, fun ⟨own, hown, h1, h2, h3, hl⟩ => ?_⟩, fun h => ?_⟩
  · rcases start_eq_error env defaultOTelResourceName setDefaults load checkup atoi toLower flags
      h with hs | ⟨own, hown, hinit⟩
    · obtain ⟨_, ⟨⟩⟩ := startConfig_eq_error load hs
    rcases initSystem_eq_error env defaultOTelResourceName setDefaults load checkup atoi toLower
        flags hinit with hlog | ⟨-, ⟨_, -, ⟨⟩⟩ | ⟨_, -, ⟨_, -, ⟨⟩⟩ | ⟨_, -, ⟨-, ⟨⟩⟩ | ⟨-, hg⟩⟩⟩⟩
    · obtain ⟨⟨h1, h2, h3⟩, he⟩ := checkLogLevel_eq_error toLower flags |>.mp hlog
      exact ⟨own, hown, h1, h2, h3, StartFatal.logLevel.inj he⟩
    · obtain ⟨⟨⟩, -⟩ := setupGlobals_eq_error checkup hg
  · have hinit := initSystem_of_checkLogLevel env defaultOTelResourceName setDefaults load checkup
      atoi toLower flags ⟨false, false⟩
      ((checkLogLevel_eq_error toLower flags).mpr ⟨⟨h1, h2, h3⟩, congrArg _ hl⟩)
    simp only [start, hown, bind, Except.bind, hinit]
  · rcases start_eq_error env defaultOTelResourceName setDefaults load checkup atoi toLower flags
      h with hs | ⟨own, hown, hinit⟩
    · obtain ⟨_, ⟨⟩⟩ := startConfig_eq_error load hs
    rcases initSystem_eq_error env defaultOTelResourceName setDefaults load checkup atoi toLower
        flags hinit with
      hlog | ⟨-, ⟨_, -, ⟨⟩⟩ | ⟨loaded, -, ⟨_, -, ⟨⟩⟩ | ⟨_, -, ⟨-, ⟨⟩⟩ | ⟨hs, hg⟩⟩⟩⟩
    · obtain ⟨-, ⟨⟩⟩ := checkLogLevel_eq_error toLower flags |>.mp hlog
    · exact (setupGlobals_eq_error checkup hg).2 ((hcheck _).trans hs)

theorem start_log_level_and_analytics_fatal_mdcb :
    (∀ c : StartConfig, (id c).opts.storageType = c.opts.storageType) ∧
      (∀ level, start echoEnv "gateway" id (fun _ => .ok mdcbStartConfig) id
          (fun _ => .error (.new "")) id noFlags (.error (.new "")) = .error (.logLevel level) ↔
        ∃ own, startConfig (fun _ => .ok mdcbStartConfig) (.error (.new "")) = .ok own ∧
          noFlags.logLevelEnv = "" ∧ noFlags.debugMode = false ∧
          knownLogLevel (id own.opts.logLevel) = false ∧ level = id own.opts.logLevel) ∧
      start echoEnv "gateway" id (fun _ => .ok mdcbStartConfig) id (fun _ => .error (.new "")) id
        noFlags (.error (.new "")) ≠ .error .analytics :=
  ⟨fun _ => rfl, start_log_level_and_analytics_fatal echoEnv "gateway" id
    (fun _ => .ok mdcbStartConfig) id (fun _ => .error (.new "")) id noFlags (.error (.new ""))
    fun _ => rfl⟩

end Start

end TykGateway
