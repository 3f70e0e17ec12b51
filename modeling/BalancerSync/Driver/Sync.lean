import BalancerSync.Driver.Balancer
import BalancerSync.Driver.FloatingIp

/-!
# Synchronisation

A run brings the backend in line with the catalog, one load balancer after another. One that the
backend does not have is created, and synchronised when all others are done. A failure ends the
pass of its load balancer only.
-/

namespace BalancerSync

/-- How the pass of a load balancer ended. -/
inductive SyncOutcome
  | synced
  | recreated
  deriving DecidableEq, Repr

structure SyncFailure where
  lbId : String
  error : String
  deriving DecidableEq, Repr

structure SyncReport where
  synced : List String
  recreated : List String
  failed : List SyncFailure
  deriving DecidableEq, Repr

namespace SyncReport

def empty : SyncReport := ⟨[], [], []⟩

def fail (r : SyncReport) (lbId : String) (e : DriverError) : SyncReport :=
  { r with failed := r.failed ++ [⟨lbId, e.message⟩] }

/-- Enters the outcome of a pass. -/
def add (r : SyncReport) (lbId : String) : SyncOutcome → SyncReport
  | .synced => { r with synced := r.synced ++ [lbId] }
  | .recreated => { r with recreated := r.recreated ++ [lbId] }

end SyncReport

namespace Driver

variable {σ : Type} (d : Driver σ)

/-! ## One load balancer -/

/-- The member as it is synchronised: in the load balancer's subnet unless it has its own. -/
def inheritSubnet (lb : LoadBalancer) (m : Member) : Member :=
  match m.subnetId.nonEmpty, lb.vipSubnetId.nonEmpty with
  | none, some subnet => { m with subnetId := .value subnet }
  | _, _ => m

/-- The members recorded for a pool that the load balancer's own rows do not have. A pool that
never appears has none. -/
def recordedElsewhere (poolId : String) : Act σ (List MemberEntry) := do
  match ← Act.observe (Act.askBackend
      (findByPoolIdWithRetry d.backend d.config.effectiveAttempts poolId)) with
  | .ok (key, row) => return row.entries key
  | .error (.backend e) => if e.isRowNotFound then return [] else throw (.backend e)
  | .error e => throw e

/-- The recorded members whose ids no member has. -/
def orphans (members : List Member) (recorded : List MemberEntry) : List MemberEntry :=
  recorded.filter fun e ↦ !(members.map (·.id)).contains e.id

/-- Synchronises or creates a health monitor. -/
def syncHealthMonitor (h : HealthMonitor) : Act σ Unit := do
  let known ← Act.askBackend (d.backend.hasHealthMonitor h.id)
  d.placeHealthMonitor (if known then .hmSync else .hmCreate) h

def syncPool (lb : LoadBalancer) (rows : List Row) (p : Pool) : Act σ Unit := do
  let found := findInRows rows p.id
  placePool (if found.isSome then .poolSync else .poolCreate) p
  p.members.items.forM fun m ↦ d.syncMember (inheritSubnet lb m)
  let recorded ← match found with
    | some (key, row) => pure (row.entries key)
    | none => d.recordedElsewhere p.id
  (orphans p.members.items recorded).forM (deleteEntry p.id)
  p.healthMonitor.asOption.toList.forM d.syncHealthMonitor

/-- Synchronises a load balancer that has these rows. -/
def syncRows (lb : LoadBalancer) (rows : List Row) : Act σ Unit := do
  Act.emit (.loadBalancer .lbSync lb)
  lb.listeners.items.forM (placeListener .listenerSync)
  lb.pools.items.forM (d.syncPool lb rows)
  Act.emit (.purgeHealthMonitors lb.id)

/-- Synchronises a load balancer, or creates it if it has no rows. -/
def syncLoadBalancer (lb : LoadBalancer) : Act σ SyncOutcome := do
  match ← Act.observe (Act.askBackend
      (retryOnNotFound d.config.effectiveAttempts (d.backend.findLoadBalancers lb.id))) with
  | .ok rows =>
    d.syncRows lb rows
    return .synced
  | .error (.backend e) =>
    if e.isRowNotFound then
      d.createLoadBalancer lb
      return .recreated
    else throw (.backend e)
  | .error e => throw e

/-! ## A run -/

/-- The pass of one listed load balancer. It returns the report and, if the load balancer was
created, the load balancer. -/
def syncListed (report : SyncReport) (id : String) : Act σ (SyncReport × List LoadBalancer) := do
  match ← Act.observe (Act.askCatalog (d.catalog.loadBalancer id)) with
  | .error e => return (report.fail id e, [])
  | .ok lb =>
    match ← Act.observe (d.syncLoadBalancer lb) with
    | .error .applierClosed => throw .applierClosed
    | .error e => return (report.fail lb.id e, [])
    | .ok outcome =>
      let _ ← d.syncVipFip lb
      return (report.add lb.id outcome, if outcome = .recreated then [lb] else [])

/-- The first pass over all listed load balancers. -/
def syncAll : SyncReport → List String → Act σ (SyncReport × List LoadBalancer)
  | report, [] => return (report, [])
  | report, id :: ids => do
    let (report, created) ← d.syncListed report id
    let (report, rest) ← syncAll report ids
    return (report, created ++ rest)

/-- The second pass, over those that were created. -/
def syncAgain : SyncReport → List LoadBalancer → Act σ SyncReport
  | report, [] => return report
  | report, lb :: lbs => do
    match ← Act.observe (d.syncLoadBalancer lb) with
    | .ok _ => syncAgain report lbs
    | .error .applierClosed => throw .applierClosed
    | .error e => syncAgain (report.fail lb.id e) lbs

/-- Synchronises every load balancer that the catalog lists. Only a failed listing and a closed
applier end the run. -/
def sync (filters : Filters) : Act σ SyncReport := do
  let ids ← Act.askCatalog (d.catalog.loadBalancerIds filters)
  let (report, created) ← d.syncAll .empty ids
  d.syncAgain report created

end Driver

end BalancerSync
