import BalancerSync.Record.Entry
import BalancerSync.Json.Decode

/-!
# Backend rows

A load balancer is one row for each protocol. Its addresses, pools and members are texts in the
metadata of the row. The backend also has logical ports and rows for health checks.
-/

namespace BalancerSync

open Text Json

/-- Texts by key. -/
abbrev Metadata := Dictionary String

namespace Metadata

/-- The text of a key, if it is not empty. -/
def text? (m : Metadata) (key : String) : Option String :=
  (Dictionary.get? m key).filter (· != "")

end Metadata

/-! ## Rows of load balancers -/

/-- A row of a load balancer; `name` is the id of the load balancer. -/
structure Row where
  uuid : String
  name : String
  protocol : Option String
  externalIds : Metadata
  deriving DecidableEq, Repr, Inhabited

/-- The key of an enabled pool. -/
def poolKey (poolId : String) : String := "pool_" ++ poolId

/-- The key of a pool that is administratively disabled. -/
def disabledPoolKey (poolId : String) : String := poolKey poolId ++ ":D"

namespace Row

def vip? (r : Row) : Option String := r.externalIds.text? "neutron:vip"

/-- The texts between commas that are more than blanks. -/
def readList (value : String) : List String :=
  (((splitOn ',' value.toList).map trim).filter (!·.isEmpty)).map String.ofList

def additionalVips (r : Row) : List String :=
  match r.externalIds.text? "neutron:additional_vips" with
  | some value => readList value
  | none => []

/-- All virtual addresses, the primary one first. -/
def vips (r : Row) : List String := r.vip?.toList ++ r.additionalVips

def vipPortId? (r : Row) : Option String := r.externalIds.text? "neutron:vip_port_id"

def vipSubnetId? (r : Row) : Option String := r.externalIds.text? "neutron:vip_subnet_id"

def vipFip? (r : Row) : Option String := r.externalIds.text? "neutron:vip_fip"

/-- The key under which the row has a pool, enabled or not. -/
def poolKey? (r : Row) (poolId : String) : Option String :=
  if Dictionary.has r.externalIds (poolKey poolId) then some (poolKey poolId)
  else if Dictionary.has r.externalIds (disabledPoolKey poolId) then some (disabledPoolKey poolId)
  else none

/-- The members recorded under a key. -/
def entries (r : Row) (key : String) : List MemberEntry :=
  match Dictionary.get? r.externalIds key with
  | some value => MemberEntry.readPool value
  | none => []

end Row

/-! ## Logical ports and health checks -/

/-- A port of a logical switch, named after the network's port. -/
structure LogicalPort where
  name : String
  externalIds : Metadata
  deriving DecidableEq, Repr, Inhabited

/-- The floating address recorded on the port. -/
def LogicalPort.fip? (p : LogicalPort) : Option String :=
  p.externalIds.text? "neutron:port_fip"

structure HealthCheck where
  uuid : String
  externalIds : Metadata
  deriving DecidableEq, Repr, Inhabited

/-- Whether a row checks on behalf of a health monitor. -/
def HealthCheck.belongsTo (c : HealthCheck) (monitorId : String) : Bool :=
  Dictionary.get? c.externalIds "octavia:healthmonitor" == some monitorId

/-! ## Reading -/

def Row.read? (t : Tree) : Option Row := do
  let r ← t.record? ["uuid", "name", "protocol", "external_ids"]
  return {
    uuid := ← Tree.required Tree.asText? (r "uuid")
    name := ← Tree.required Tree.asText? (r "name")
    protocol := ← Tree.optional Tree.asText? (r "protocol")
    externalIds := ← Tree.defaulting [] Tree.asTextMap? (r "external_ids") }

def LogicalPort.read? (t : Tree) : Option LogicalPort := do
  let r ← t.record? ["name", "external_ids"]
  return {
    name := ← Tree.required Tree.asText? (r "name")
    externalIds := ← Tree.defaulting [] Tree.asTextMap? (r "external_ids") }

def HealthCheck.read? (t : Tree) : Option HealthCheck := do
  let r ← t.record? ["uuid", "external_ids"]
  return {
    uuid := ← Tree.required Tree.asText? (r "uuid")
    externalIds := ← Tree.defaulting [] Tree.asTextMap? (r "external_ids") }

/-! ## Writing -/

def Metadata.toJson (m : Metadata) : Value := .object (m.map fun (k, v) ↦ (k, .text v))

def Row.toJson (r : Row) : Value :=
  .object [("uuid", .text r.uuid), ("name", .text r.name),
    ("protocol", .ofOption .text r.protocol), ("external_ids", r.externalIds.toJson)]

def LogicalPort.toJson (p : LogicalPort) : Value :=
  .object [("name", .text p.name), ("external_ids", p.externalIds.toJson)]

def HealthCheck.toJson (c : HealthCheck) : Value :=
  .object [("uuid", .text c.uuid), ("external_ids", c.externalIds.toJson)]

end BalancerSync
