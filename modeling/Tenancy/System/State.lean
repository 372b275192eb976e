import Tenancy.Registry.Dynamo
import Tenancy.Lock
import Tenancy.Cluster

/-!
The state of the whole deployment: the orchestrator replicas, the router replicas, the
registry table, Redis, the cluster, and the requests and passes in flight.

* `Config`: `api.Config` after `api.New`'s defaults, and the namespace `cmd/orchestrator`
  hands the handler, the reconciler and the warm pool alike.
* the program counters: `WakePc` (`wakeOrGet` with `pollUntilRunning`), `RouterPc`
  (`handleTelegramUpdate` with `forwardToPod`), `IdlePc` (`checkIdleTenants`), `ReconPc`
  (`reconcile`), `DeletePc` (`DeleteTenant`), `UpdatePc` (`UpdateTenant`); each constructor
  carries the locals bound so far. A process moves one I/O call at a time: every call to
  DynamoDB, Kubernetes, Redis or Telegram is a point where the other goroutines and replicas
  may interleave.
* `Event`: a ghost log of what happened, with what the processes observed at that moment;
  the properties of whole runs are read off it.
* `Sys`: the shared state (the webhook registrations of Telegram included) and the
  processes; `Request` starts a process, `Act` is one
  move of the system, a process's or the environment's.
-/

namespace Tenancy

/-- `api.Config` after `api.New` has filled its defaults; `telegram` says whether the
handler has a Telegram client (`ROUTER_PUBLIC_URL` set). -/
structure Config where
  ns : String
  wakeLockTTL : Int
  podReadyWait : Int
  telegram : Bool
  deriving DecidableEq, Repr

/-- `api.New`: a zero `WakeLockTTL` is 240 s and a zero `PodReadyWait` 210 s. -/
def Config.new (ns : String) (wakeLockTTL podReadyWait : Int) (telegram : Bool) : Config :=
  ⟨ns, if wakeLockTTL = 0 then 240 * nsPerSec else wakeLockTTL,
    if podReadyWait = 0 then 210 * nsPerSec else podReadyWait, telegram⟩

/-- What `cmd/orchestrator` passes to `api.New`: the namespace alone. -/
def Config.orchestrator (ns : String) (telegram : Bool) : Config := Config.new ns 0 0 telegram

/-- The router's address cache entry `router:endpoint:<id>`, with its expiry. -/
structure CacheEntry where
  ip : String
  expiresAt : Int
  deriving DecidableEq, Repr

/-- `endpointCacheTTL = 5 * time.Minute`. -/
def endpointCacheTTL : Int := 300 * nsPerSec

/-- Where a `wakeOrGet` call is. -/
inductive WakePc
  | start
  | acquire (rec : Option TenantRecord)
  | poll
  | autoCreate
  | createPV (rec : TenantRecord) (ns : String)
  | createPVC (rec : TenantRecord) (ns : String)
  | listWarm (rec : TenantRecord) (ns : String)
  | claimWarm (rec : TenantRecord) (ns : String) (cands : List Pod)
  | deleteWarm (rec : TenantRecord) (ns : String) (warm : Pod)
  | createPod (rec : TenantRecord) (ns nodeName : String)
  | getPod (ns : String)
  | waitReady (ns : String) (pod : Pod)
  | commit (pod seen : Pod) (podIP : String)
  | release (result : Option String)
  | done (result : Option String)
  deriving DecidableEq, Repr

/-- Where a `handleTelegramUpdate` goroutine is; `awaitWake j` waits on the orchestrator's
`/wake` call, served by process `j`. -/
inductive RouterPc
  | lookup
  | awaitWake (j : Nat)
  | setCache (ip : String)
  | forward (ip : String)
  | updateActivity
  | done
  deriving DecidableEq, Repr

/-- Where a `checkIdleTenants` pass is: the records of its scan still to examine. -/
inductive IdlePc
  | scan
  | check (ts : List TenantRecord)
  | demote (t : TenantRecord) (ts : List TenantRecord)
  | done
  deriving DecidableEq, Repr

/-- Where a `reconcile` pass is. -/
inductive ReconPc
  | list
  | check (ts : List TenantRecord)
  | demote (t : TenantRecord) (ts : List TenantRecord)
  | clearCache (t : TenantRecord) (ts : List TenantRecord)
  | done
  deriving DecidableEq, Repr

/-- Where a `CreateTenant` (POST) request is. -/
inductive CreatePc
  | create
  | webhook
  | done (code : Nat)
  deriving DecidableEq, Repr

/-- Where a `DeleteTenant` request is, with the record it read. -/
inductive DeletePc
  | get
  | deletePod (rec : TenantRecord)
  | deletePVC (rec : TenantRecord)
  | deletePV (rec : TenantRecord)
  | deleteRecord (rec : TenantRecord)
  | clearCache (rec : TenantRecord)
  | deleteWebhook (rec : TenantRecord)
  | done (code : Nat)
  deriving DecidableEq, Repr

/-- Where an `UpdateTenant` (PATCH) request is. -/
inductive UpdatePc
  | token
  | webhook
  | timeout
  | read
  | done (code : Nat)
  deriving DecidableEq, Repr

/-- A request or pass in flight. `wake` carries (ghost) the expiry of the wake lock it holds;
`deleteTenant` carries (ghost) whether every cleanup call so far succeeded. -/
inductive Proc
  | wake (tenantID : String) (lockUntil : Option Int) (pc : WakePc)
  | router (tenantID text : String) (pc : RouterPc)
  | idle (pc : IdlePc)
  | reconcile (pc : ReconPc)
  | createTenant (tenantID botToken : String) (idleTimeoutS : Int) (pc : CreatePc)
  | deleteTenant (tenantID : String) (clean : Bool) (pc : DeletePc)
  | updateActivity (tenantID : String) (finished : Bool)
  | updateTenant (tenantID : String) (botToken : Option String) (idleTimeoutS : Option Int)
      (pc : UpdatePc)
  deriving DecidableEq, Repr

/-- The ghost log. -/
inductive Event
  | podCreated (ns name : String) (proc : Nat)
  | podReady (ns name ip : String)
  | claimStarted (proc : Nat) (tenantID : String)
  | committed (proc : Nat) (tenantID ip : String) (seen : Pod)
  | wakeReturned (proc : Nat) (tenantID ip : String)
  | delivered (tenantID ip : String) (holder : Pod)
  | idleDeletedPod (tenantID : String) (snap : TenantRecord) (cur : Option TenantRecord)
      (now : Int)
  | idleDemoted (tenantID : String) (snap : TenantRecord) (cur : Option TenantRecord)
      (now : Int)
  | reconChecked (proc : Nat) (tenantID : String) (found : Bool)
  | reconDemoted (proc : Nat) (tenantID : String) (cur : Option TenantRecord) (podFound : Bool)
  | tenantDeleted (proc : Nat) (tenantID : String)
  deriving DecidableEq, Repr

/-- The deployment. `webhooks` maps a bot token to the tenant whose inbound URL Telegram
pushes its updates to. -/
structure Sys where
  cfg : Config
  now : Int
  reg : Table
  cluster : Cluster
  locks : LockStore
  cache : String → Option CacheEntry
  webhooks : String → Option String
  procs : List Proc
  log : List Event

/-- What starts a process: an HTTP request to the orchestrator or the router, or a tick
of the idle or reconcile loop. -/
inductive Request
  | wake (tenantID : String)
  | telegram (tenantID text : String)
  | idlePass
  | reconcilePass
  | createTenant (tenantID botToken : String) (idleTimeoutS : Int)
  | deleteTenant (tenantID : String)
  | updateActivity (tenantID : String)
  | updateTenant (tenantID : String) (botToken : Option String) (idleTimeoutS : Option Int)
  deriving DecidableEq, Repr

/-- The process a request starts. -/
def Request.proc : Request → Proc
  | .wake t => .wake t none .start
  | .telegram t text => .router t text .lookup
  | .idlePass => .idle .scan
  | .reconcilePass => .reconcile .list
  | .createTenant t tok s => .createTenant t tok s .create
  | .deleteTenant t => .deleteTenant t true .get
  | .updateActivity t => .updateActivity t false
  | .updateTenant t tok s => .updateTenant t tok s .token

/-- One move: a request arrives; process `i` makes its next call, `ok` saying whether the
call went through (a transport error or a cancelled context otherwise); or the cluster or
the clock moves. -/
inductive Act
  | request (r : Request)
  | run (i : Nat) (ok : Bool)
  | tick (d : Nat)
  | podReady (ns name ip : String)
  | podGone (ns name : String)
  | podLost (ns name : String)
  | warmReplica (suffix node : String)
  deriving DecidableEq, Repr

namespace Sys

/-- The deployment before any request. -/
def init (cfg : Config) : Sys :=
  ⟨cfg, 0, ∅, ⟨[], [], [], 0⟩, fun _ => none, fun _ => none, fun _ => none, [], []⟩

/-- Process `i` moves to `p`. -/
def setProc (s : Sys) (i : Nat) (p : Proc) : Sys := { s with procs := s.procs.set i p }

/-- Log an event. -/
def emit (s : Sys) (e : Event) : Sys := { s with log := e :: s.log }

/-- Start a process. -/
def spawn (s : Sys) (p : Proc) : Sys := { s with procs := s.procs ++ [p] }

/-- `GET router:endpoint:<id>`: the cached address, none past its TTL. -/
def cacheGet (s : Sys) (tenantID : String) : Option String :=
  ((s.cache tenantID).filter fun e => decide (s.now < e.expiresAt)).map (·.ip)

@[simp] lemma setProc_reg (s : Sys) (i : Nat) (p : Proc) : (s.setProc i p).reg = s.reg := rfl
@[simp] lemma setProc_cluster (s : Sys) (i : Nat) (p : Proc) :
    (s.setProc i p).cluster = s.cluster := rfl
@[simp] lemma setProc_cache (s : Sys) (i : Nat) (p : Proc) : (s.setProc i p).cache = s.cache := rfl
@[simp] lemma setProc_webhooks (s : Sys) (i : Nat) (p : Proc) :
    (s.setProc i p).webhooks = s.webhooks := rfl
@[simp] lemma setProc_locks (s : Sys) (i : Nat) (p : Proc) : (s.setProc i p).locks = s.locks := rfl
@[simp] lemma setProc_log (s : Sys) (i : Nat) (p : Proc) : (s.setProc i p).log = s.log := rfl
@[simp] lemma setProc_now (s : Sys) (i : Nat) (p : Proc) : (s.setProc i p).now = s.now := rfl
@[simp] lemma setProc_cfg (s : Sys) (i : Nat) (p : Proc) : (s.setProc i p).cfg = s.cfg := rfl
@[simp] lemma setProc_procs (s : Sys) (i : Nat) (p : Proc) :
    (s.setProc i p).procs = s.procs.set i p := rfl
@[simp] lemma emit_reg (s : Sys) (e : Event) : (s.emit e).reg = s.reg := rfl
@[simp] lemma emit_cluster (s : Sys) (e : Event) : (s.emit e).cluster = s.cluster := rfl
@[simp] lemma emit_cache (s : Sys) (e : Event) : (s.emit e).cache = s.cache := rfl
@[simp] lemma emit_webhooks (s : Sys) (e : Event) : (s.emit e).webhooks = s.webhooks := rfl
@[simp] lemma emit_locks (s : Sys) (e : Event) : (s.emit e).locks = s.locks := rfl
@[simp] lemma emit_log (s : Sys) (e : Event) : (s.emit e).log = e :: s.log := rfl
@[simp] lemma emit_now (s : Sys) (e : Event) : (s.emit e).now = s.now := rfl
@[simp] lemma emit_cfg (s : Sys) (e : Event) : (s.emit e).cfg = s.cfg := rfl
@[simp] lemma emit_procs (s : Sys) (e : Event) : (s.emit e).procs = s.procs := rfl

end Sys

end Tenancy
