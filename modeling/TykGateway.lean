import TykGateway.Go.Basic
import TykGateway.Config
import TykGateway.Config.Setup
import TykGateway.Reload.SyncRetry
import TykGateway.Reload.Coordinator
import TykGateway.Policy.Loaders
import TykGateway.Gateway
import TykGateway.Policy.Registry
import TykGateway.Reload.DoReload
import TykGateway.Reload.System
import TykGateway.Dashboard.Nonce
import TykGateway.Dashboard.Heartbeat
import TykGateway.Response.Chain
import TykGateway.Shutdown
import TykGateway.Dashboard.Register
import TykGateway.Dashboard.Handler
import TykGateway.Response.GoPlugin
import TykGateway.CustomMiddleware
import TykGateway.ControlAPI
import TykGateway.Startup
import TykGateway.RestAPI
import TykGateway.Boot
import TykGateway.Lifecycle
