import Tenancy.Registry.Record
import Tenancy.Registry.Dynamo
import Tenancy.Registry.Mock
import Tenancy.Registry.Refinement
import Tenancy.Registry.InFlight
import Tenancy.Registry.Presence
import Tenancy.Lock
import Tenancy.Lock.Refinement
import Tenancy.Cluster
import Tenancy.System.State
import Tenancy.System.Wake
import Tenancy.System.Router
import Tenancy.System.Idle
import Tenancy.System.Reconciler
import Tenancy.System.Handlers
import Tenancy.System.Step
import Tenancy.Invariant.Basic
import Tenancy.Invariant.Procs
import Tenancy.Invariant.Step
import Tenancy.Invariant.Frame
import Tenancy.Invariant.Footprint
import Tenancy.Invariant.Registry
import Tenancy.Safety.Coupling
import Tenancy.Safety.Delivery
import Tenancy.Safety.IdleEviction
import Tenancy.Safety.Reconcile
import Tenancy.Safety.Wake
import Tenancy.Safety.Delete
import Tenancy.Safety.Activity
import Tenancy.Safety.Lifecycle
import Tenancy.Safety.WarmClaim
import Tenancy.Safety.ReconcilePass
import Tenancy.Safety.UpdateTenant
import Tenancy.Safety.WakeAlone
import Tenancy.Safety.IdlePass
import Tenancy.Safety.ClusterVersions
import Tenancy.Safety.RouterAlone
import Tenancy.Safety.Expiry
import Tenancy.Safety.ClaimRefinement
import Tenancy.Safety.LockRefinement
import Tenancy.Safety.CreateTenant
import Tenancy.Safety.Settle
