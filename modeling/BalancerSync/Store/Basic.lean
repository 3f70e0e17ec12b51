import BalancerSync.Collaborator
import BalancerSync.Store.Table

/-!
# The backend in memory

A store holds the tables that the driver reads. It is filled from a snapshot, which is one JSON
text, and can be refreshed from another.
-/

namespace BalancerSync

open Json

/-- A dump of the backend's tables. -/
structure Snapshot where
  loadBalancers : List Row
  logicalPorts : List LogicalPort
  healthChecks : List HealthCheck
  healthCheckSupported : Bool
  deriving DecidableEq, Repr

namespace Snapshot

/-- Older backends have no health checks, and say so. -/
def empty : Snapshot := ⟨[], [], [], true⟩

def ofTree? (t : Tree) : Option Snapshot := do
  let r ← t.record? ["load_balancers", "logical_ports", "health_checks", "health_check_supported"]
  return {
    loadBalancers := ← Tree.defaulting [] (Tree.asList? Row.read?) (r "load_balancers")
    logicalPorts := ← Tree.defaulting [] (Tree.asList? LogicalPort.read?) (r "logical_ports")
    healthChecks := ← Tree.defaulting [] (Tree.asList? HealthCheck.read?) (r "health_checks")
    healthCheckSupported := ← Tree.defaulting true Tree.asBool? (r "health_check_supported") }

def read? (cs : List Char) : Option Snapshot := (Tree.read? cs).bind ofTree?

def toJson (s : Snapshot) : Value :=
  .object [("load_balancers", .array (s.loadBalancers.map Row.toJson)),
    ("logical_ports", .array (s.logicalPorts.map LogicalPort.toJson)),
    ("health_checks", .array (s.healthChecks.map HealthCheck.toJson)),
    ("health_check_supported", .bool s.healthCheckSupported)]

/-- Reads the bytes of a file, which have to be UTF-8. -/
def ofBytes? (bytes : ByteArray) : Option Snapshot :=
  (String.fromUTF8? bytes).bind fun s ↦ read? s.toList

end Snapshot

structure Store where
  loadBalancers : Table Row
  logicalPorts : Table LogicalPort
  healthChecks : Table HealthCheck
  healthCheckSupported : Bool
  deriving Repr

namespace Store

def empty : Store := ⟨.empty, .empty, .empty, true⟩

/-! ## Writing -/

def insertLoadBalancer (s : Store) (r : Row) : Store :=
  { s with loadBalancers := s.loadBalancers.insert r.uuid r }

def insertLogicalPort (s : Store) (p : LogicalPort) : Store :=
  { s with logicalPorts := s.logicalPorts.insert p.name p }

def insertHealthCheck (s : Store) (c : HealthCheck) : Store :=
  { s with healthChecks := s.healthChecks.insert c.uuid c }

/-- Replaces the contents by those of a snapshot. -/
def apply (s : Store) (d : Snapshot) : Store where
  loadBalancers := s.loadBalancers.replace (d.loadBalancers.map fun r ↦ (r.uuid, r))
  logicalPorts := s.logicalPorts.replace (d.logicalPorts.map fun p ↦ (p.name, p))
  healthChecks := s.healthChecks.replace (d.healthChecks.map fun c ↦ (c.uuid, c))
  healthCheckSupported := d.healthCheckSupported

def ofSnapshot (d : Snapshot) : Store := empty.apply d

/-! ## Reading -/

/-- The rows of a load balancer, in the order of their ids. -/
def findLoadBalancers (s : Store) (id : String) : Except BackendError (List Row) :=
  match s.loadBalancers.values.filter (·.name == id) with
  | [] => .error (.balancerNotFound id)
  | rows => .ok rows

/-- The first row with the key. -/
def findByPoolKey (s : Store) (key : String) : Option Row :=
  s.loadBalancers.values.find? fun r ↦ Dictionary.has r.externalIds key

def hasHealthMonitor (s : Store) (id : String) : Bool :=
  s.healthChecks.values.any (·.belongsTo id)

def logicalPort (s : Store) (id : String) : Option LogicalPort := s.logicalPorts.get? id

/-- The store as the driver asks it. -/
def backend : Backend Store where
  findLoadBalancers id := fun s ↦ (s.findLoadBalancers id, s)
  findByPoolKey key := fun s ↦ (.ok (s.findByPoolKey key), s)
  hasHealthMonitor id := fun s ↦ (.ok (s.hasHealthMonitor id), s)
  logicalPort id := fun s ↦ (.ok (s.logicalPort id), s)
  supportsHealthChecks := fun s ↦ (.ok s.healthCheckSupported, s)

end Store

end BalancerSync
