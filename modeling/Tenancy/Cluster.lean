import Tenancy.Registry.Record

/-!
The Kubernetes side of `internal/k8s/client.go`: the pods, PVCs and PVs the controller
works on, the client calls it makes, and the cluster's own moves.

* `Pod`: what the controller reads or writes of a pod: namespace and name, the labels
  `app`, `tenant` and `warm`, the node, the `TELEGRAM_BOT_TOKEN` variable, the phase, the
  pod IP, whether a deletion timestamp is set, and the resource version.
* `Cluster`: the pods, the PVCs by namespace and name, the PVs, and the resource-version
  counter every write of a pod advances.
* client calls: `createPod` (the `Create` of `CreateTenantPod`; `none` is AlreadyExists),
  `getPod`, `readyPod` (one poll of `WaitPodReady`), `deletePod`, `createPV`, `createPVC`,
  `deletePVC`, `deletePV`, `listWarmPods` and `claimWarmPod` (the list and the conditional
  relabel of `GetWarmPod`).
* the cluster's moves: `podReady` gives a pending pod an address no pod holds, `podGone`
  removes a terminating pod at the end of its grace period, `podLost` removes a pod whose
  node failed, `warmReplica` is a new replica of the `warm-pool` Deployment.
-/

namespace Tenancy

/-- The pod phases the controller tells apart. -/
inductive PodPhase
  | pending
  | running
  deriving DecidableEq, Repr

/-- A pod, as far as the controller looks at it. -/
structure Pod where
  ns : String
  name : String
  app : String
  tenant : String
  warm : String
  nodeName : String
  botToken : String
  phase : PodPhase
  podIP : String
  deleting : Bool
  resourceVersion : Nat
  deriving DecidableEq, Repr

/-- `podName`: the tenant pod's name, a function of the tenant id alone. -/
def podName (tenantID : String) : String := "zeroclaw-" ++ tenantID

/-- `PVCName`. -/
def pvcName (tenantID : String) : String := "pvc-tenant-" ++ tenantID

/-- `pvName`. -/
def pvName (tenantID : String) : String := "pv-tenant-" ++ tenantID

/-- The name prefix of the `warm-pool` Deployment's pods. -/
def warmPoolPrefix : String := "warm-pool-"

/-- The objects of the cluster the controller touches. -/
structure Cluster where
  pods : List Pod
  pvcs : List (String × String)
  pvs : List String
  rev : Nat

/-- Is `p` the object `ns/name`? -/
def Pod.is (p : Pod) (ns name : String) : Bool := p.ns == ns && p.name == name

namespace Cluster

/-- `Pods(ns).Get(name)`. -/
def getPod (c : Cluster) (ns name : String) : Option Pod :=
  c.pods.find? (·.is ns name)

/-- The pod holding address `ip`, if any. -/
def podAt (c : Cluster) (ip : String) : Option Pod :=
  if ip = "" then none else c.pods.find? (·.podIP == ip)

/-- The pod `CreateTenantPod` submits: `app=zeroclaw`, `tenant=<id>`, pinned to `nodeName`
when it is not empty, with the tenant's bot token in its environment. -/
def tenantPod (c : Cluster) (tenantID ns botToken nodeName : String) : Pod :=
  ⟨ns, podName tenantID, "zeroclaw", tenantID, "", nodeName, botToken, .pending, "", false,
    c.rev + 1⟩

/-- `Pods(ns).Create(pod)`: `none` when a pod of that name exists. -/
def createPod (c : Cluster) (p : Pod) : Option Cluster :=
  if (c.getPod p.ns p.name).isSome then none
  else some { c with pods := p :: c.pods, rev := c.rev + 1 }

/-- One poll of `WaitPodReady`: the pod, when it is Running with an IP. It does not look at
the deletion timestamp. -/
def readyPod (c : Cluster) (ns name : String) : Option Pod :=
  (c.getPod ns name).filter fun p => p.phase == .running && p.podIP != ""

/-- Rewrite every object `ns/name` and advance the resource version. -/
def modifyPod (c : Cluster) (ns name : String) (f : Pod → Pod) : Cluster :=
  { c with pods := c.pods.map (fun p => if p.is ns name then f p else p), rev := c.rev + 1 }

/-- Remove the object `ns/name`. -/
def erasePod (c : Cluster) (ns name : String) : Cluster :=
  { c with pods := c.pods.filter fun p => !p.is ns name }

/-- `DeletePod(name, ns, grace)`: NotFound is success. A zero grace period removes the pod
at once; otherwise it is marked for deletion and keeps running until its grace ends. -/
def deletePod (c : Cluster) (ns name : String) (grace : Nat) : Cluster :=
  if grace = 0 then c.erasePod ns name
  else c.modifyPod ns name fun p => { p with deleting := true, resourceVersion := c.rev + 1 }

/-- The `Create` of the PV in `CreatePVC`; AlreadyExists is success. -/
def createPV (c : Cluster) (tenantID : String) : Cluster :=
  if pvName tenantID ∈ c.pvs then c else { c with pvs := pvName tenantID :: c.pvs }

/-- The `Create` of the PVC in `CreatePVC`; AlreadyExists is success. -/
def createPVC (c : Cluster) (tenantID ns : String) : Cluster :=
  if (ns, pvcName tenantID) ∈ c.pvcs then c else { c with pvcs := (ns, pvcName tenantID) :: c.pvcs }

/-- The PVC `Delete` of `DeletePVC`; NotFound is success. -/
def deletePVC (c : Cluster) (tenantID ns : String) : Cluster :=
  { c with pvcs := c.pvcs.filter (· != (ns, pvcName tenantID)) }

/-- The PV `Delete` of `DeletePVC`; NotFound is success. -/
def deletePV (c : Cluster) (tenantID : String) : Cluster :=
  { c with pvs := c.pvs.filter (· != pvName tenantID) }

/-- `Pods(ns).List` with `app=warm-pool,warm=true`. -/
def listWarmPods (c : Cluster) (ns : String) : List Pod :=
  c.pods.filter fun p => p.ns == ns && p.app == "warm-pool" && p.warm == "true"

/-- The candidates `GetWarmPod` tries: Running, with an IP, not terminating. -/
def warmEligible (p : Pod) : Bool :=
  p.phase == .running && p.podIP != "" && !p.deleting

/-- `Pods(ns).Update` of a listed pod relabelled `warm=consuming`: it succeeds only if the
pod still has the listed resource version. -/
def claimWarmPod (c : Cluster) (p : Pod) : Option (Pod × Cluster) :=
  match c.getPod p.ns p.name with
  | some cur =>
    if cur.resourceVersion = p.resourceVersion then
      let p' := { p with warm := "consuming", resourceVersion := c.rev + 1 }
      some (p', c.modifyPod p.ns p.name fun _ => p')
    else none
  | none => none

/-! ### The cluster's moves -/

/-- The kubelet reports a pending pod Running at `ip`, an address no pod holds. -/
def podReady (c : Cluster) (ns name ip : String) : Option Cluster :=
  match c.getPod ns name with
  | some p =>
    if p.phase = .pending ∧ p.deleting = false ∧ ip ≠ "" ∧ c.podAt ip = none then
      some (c.modifyPod ns name fun q =>
        { q with phase := .running, podIP := ip, resourceVersion := c.rev + 1 })
    else none
  | none => none

/-- A terminating pod's grace period ends and the object goes. -/
def podGone (c : Cluster) (ns name : String) : Option Cluster :=
  match c.getPod ns name with
  | some p => if p.deleting then some (c.erasePod ns name) else none
  | none => none

/-- The node running `ns/name` fails and the pod goes. -/
def podLost (c : Cluster) (ns name : String) : Option Cluster :=
  (c.getPod ns name).map fun _ => c.erasePod ns name

/-- The warm-pool ReplicaSet creates the replica `warm-pool-<suffix>` on `node`. -/
def warmReplica (c : Cluster) (ns suffix node : String) : Option Cluster :=
  let name := warmPoolPrefix ++ suffix
  if (c.getPod ns name).isSome then none
  else some { c with
    pods := ⟨ns, name, "warm-pool", "", "true", node, "", .pending, "", false, c.rev + 1⟩ :: c.pods
    rev := c.rev + 1 }

end Cluster

end Tenancy
