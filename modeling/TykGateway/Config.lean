import Mathlib.Data.Rat.Defs
import TykGateway.Go.Basic

/-! # The configuration fields the modelled code reads

`config.Config` is a large record. The modelled functions read only the fields
below; the record is kept flat, and each field carries the Go path it stands
for.
-/

namespace TykGateway

/-- `apidef.AuthProviderMeta`: which auth provider an API uses and its storage engine. -/
structure AuthProvider where
  name : String
  storageEngine : String
  deriving DecidableEq, Repr

/-- `apidef.SessionProviderMeta`. -/
structure SessionProvider where
  name : String
  storageEngine : String
  deriving DecidableEq, Repr

/-- `config.PortWhiteList`, with the field `setupPortsWhitelist` changes. -/
structure PortWhiteList where
  ports : List Int
  deriving DecidableEq, Repr

/-- `config.OpenTelemetry`, with the fields `afterConfSetup` reads. -/
structure OpenTelemetry where
  enabled : Bool
  resourceName : String
  deriving DecidableEq, Repr

/-- The fields of `config.Config` read by the reload, policy, dashboard,
shutdown and start-up code.

`KeySpaceSyncInterval`, `RPCCertCacheExpiration`, `RPCGlobalCacheExpiration`
and `AnalyticsConfig.PurgeInterval` are `float32` in Go. They are rationals
here, which hold every finite `float32`, so that `afterConfSetup` compares
them with `0` exactly and `cacheCreate` truncates them with `int64()`. -/
structure Config where
  /-- `ResourceSync.RetryAttempts`. -/
  retryAttempts : GoInt
  /-- `SlaveOptions.UseRPC`. -/
  useRPC : Bool
  /-- `UseDBAppConfigs`. -/
  useDBAppConfigs : Bool
  /-- `Policies.PolicySource`. -/
  policySource : String
  /-- `Policies.PolicyPath`. -/
  policyPath : String
  /-- `Policies.PolicyRecordName`. -/
  policyRecordName : String
  /-- `Policies.AllowExplicitPolicyID`. -/
  allowExplicitPolicyID : Bool
  /-- `AuthOverride.ForceAuthProvider`. -/
  forceAuthProvider : Bool
  /-- `AuthOverride.AuthProvider`. -/
  authProvider : AuthProvider
  /-- `AuthOverride.ForceSessionProvider`. -/
  forceSessionProvider : Bool
  /-- `AuthOverride.SessionProvider`. -/
  sessionProvider : SessionProvider
  /-- `EnableAnalytics`. -/
  enableAnalytics : Bool
  /-- `SlaveOptions.GroupID`. -/
  groupID : String
  /-- `SlaveOptions.CallTimeout`. -/
  callTimeout : Int
  /-- `SlaveOptions.PingTimeout`. -/
  pingTimeout : Int
  /-- `SlaveOptions.KeySpaceSyncInterval`, a `float32`. -/
  keySpaceSyncInterval : ℚ
  /-- `SlaveOptions.RPCCertCacheExpiration`, a `float32`. -/
  rpcCertCacheExpiration : ℚ
  /-- `SlaveOptions.RPCGlobalCacheExpiration`, a `float32`. -/
  rpcGlobalCacheExpiration : ℚ
  /-- `SlaveOptions.APIKey`. -/
  slaveAPIKey : String
  /-- `AnalyticsConfig.PurgeInterval`, a `float32`. -/
  purgeInterval : ℚ
  healthCheckEndpointName : String
  readinessCheckEndpointName : String
  secret : String
  nodeSecret : String
  /-- `Storage.Password`. -/
  storagePassword : String
  /-- `CacheStorage.Password`. -/
  cacheStoragePassword : String
  /-- `Security.PrivateCertificateEncodingSecret`. -/
  privateCertificateEncodingSecret : String
  /-- `DBAppConfOptions.ConnectionString`. -/
  dbAppConfConnectionString : String
  /-- `DisableDashboardZeroConf`. -/
  disableDashboardZeroConf : Bool
  /-- `Policies.PolicyConnectionString`. -/
  policyConnectionString : String
  /-- `Private.EdgeOriginalAPIKeyPath`. -/
  edgeOriginalAPIKeyPath : String
  /-- `Secrets`, the secret store in the configuration. -/
  secrets : GoMap String
  openTelemetry : OpenTelemetry
  listenPort : Int
  controlAPIPort : Int
  /-- `HttpServerOptions.UseSSL`. -/
  useSSL : Bool
  /-- `PortWhiteList`, keyed by protocol. -/
  portWhiteList : GoMap PortWhiteList
  deriving DecidableEq

/-- The zero value of the fields, as a Go `config.Config{}` has them. -/
instance : Inhabited Config :=
  ⟨{ retryAttempts := 0, useRPC := false, useDBAppConfigs := false, policySource := "",
     policyPath := "", policyRecordName := "", allowExplicitPolicyID := false,
     forceAuthProvider := false, authProvider := ⟨"", ""⟩, forceSessionProvider := false,
     sessionProvider := ⟨"", ""⟩, enableAnalytics := false, groupID := "", callTimeout := 0,
     pingTimeout := 0, keySpaceSyncInterval := 0, rpcCertCacheExpiration := 0,
     rpcGlobalCacheExpiration := 0, slaveAPIKey := "", purgeInterval := 0,
     healthCheckEndpointName := "", readinessCheckEndpointName := "", secret := "",
     nodeSecret := "", storagePassword := "", cacheStoragePassword := "",
     privateCertificateEncodingSecret := "", dbAppConfConnectionString := "",
     disableDashboardZeroConf := false, policyConnectionString := "", edgeOriginalAPIKeyPath := "",
     secrets := ∅,
     openTelemetry := ⟨false, ""⟩, listenPort := 0, controlAPIPort := 0, useSSL := false,
     portWhiteList := ∅ }⟩

end TykGateway
