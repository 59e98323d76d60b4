import TykGateway.Config
import TykGateway.Policy.Loaders

/-! # The gateway's shared state

The fields of `Gateway` that the reload and dashboard code read and write, and
`buildDashboardConnStr`, which the dashboard registration and the API sync
both call to build a dashboard URL.

## Implementation notes

`buildDashboardConnStr` reads a configuration that does not change while it
runs, so with zeroconf on and no connection string it waits for a signal the
model never sends, and does not return: its result is `none`.
-/

namespace TykGateway

/-- `APISpec`, with the fields the reload code reads or overrides. -/
structure APISpec where
  apiID : String
  name : String
  authProvider : AuthProvider
  sessionProvider : SessionProvider
  deriving DecidableEq, Repr

/-- The state of one `Gateway`. -/
structure Gateway where
  /-- `policiesByID`, guarded by `policiesMu`. -/
  policiesByID : GoMap Policy
  /-- `apiSpecs`, guarded by `apisMu`. -/
  apiSpecs : List APISpec
  /-- `apisByID`, guarded by `apisMu`. -/
  apisByID : GoMap APISpec
  /-- `ServiceNonce`, guarded by `ServiceNonceMutex`. -/
  serviceNonce : String
  /-- `nodeID`, guarded by `nodeIDMu`. -/
  nodeID : String
  /-- `rpc.IsEmergencyMode()`. -/
  emergencyMode : Bool
  performedSuccessfulReload : Bool

/-- `NewGateway`: empty registries, and the node id `"solo-" + uuid.New()`. -/
def newGateway (uuid : String) : Gateway :=
  { policiesByID := ∅, apiSpecs := [], apisByID := ∅, serviceNonce := "",
    nodeID := "solo-" ++ uuid, emergencyMode := false, performedSuccessfulReload := false }

/-- A `log.Fatal` of the dashboard connection and of the policy sync. -/
inductive DashboardFatal where
  /-- `"Connection string is empty, failing."`, in `buildDashboardConnStr`. -/
  | connectionStringEmpty
  /-- `"No connection string or node ID present. Failing."`, in `syncPolicies`. -/
  | noPolicyConnectionString
  deriving DecidableEq, Repr

/-- `buildDashboardConnStr(resource)`: the dashboard URL of `resource`, a
`log.Fatal` when there is no connection string and zeroconf is disabled, and
no return while it waits for the zeroconf signal. -/
def buildDashboardConnStr (conf : Config) (resource : String) :
    ExceptT DashboardFatal Option String :=
  if conf.dbAppConfConnectionString = "" ∧ conf.disableDashboardZeroConf = true then
    throw .connectionStringEmpty
  else if conf.disableDashboardZeroConf = false ∧ conf.dbAppConfConnectionString = "" then
    ExceptT.lift none
  else pure (conf.dbAppConfConnectionString ++ resource)

/-- What `buildDashboardConnStr` does, by the configuration alone. -/
theorem buildDashboardConnStr_run (conf : Config) (resource : String) :
    (buildDashboardConnStr conf resource).run =
      if conf.dbAppConfConnectionString = "" then
        if conf.disableDashboardZeroConf then some (.error .connectionStringEmpty) else none
      else some (.ok (conf.dbAppConfConnectionString ++ resource)) := by
  unfold buildDashboardConnStr
  by_cases he : conf.dbAppConfConnectionString = "" <;>
    cases hd : conf.disableDashboardZeroConf <;> simp [he, hd]

end TykGateway
