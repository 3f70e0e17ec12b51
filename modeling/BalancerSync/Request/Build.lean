import BalancerSync.Entity.Basic
import BalancerSync.Record.Entry
import BalancerSync.Request.Basic

/-!
# Building change requests

One builder for each kind of object and operation. Creation and synchronisation carry every
attribute with defaults filled in; updates carry what identifies the object and, of the rest, what
the caller set. Builders do not validate.
-/

namespace BalancerSync

open Json

/-! ## Attribute values -/

def textJson : Field String → Value := Field.toJson .text

def boolJson : Field Bool → Value := Field.toJson .bool

def portJson : Field UInt16 → Value := Field.toJson fun n ↦ .ofNat n.toNat

def countJson : Field UInt32 → Value := Field.toJson fun n ↦ .ofNat n.toNat

/-- Objects are up unless they are said not to be. -/
def upJson (up : Field Bool) : Value := .ofOption .bool (up.orDefault true)

/-- An attribute that is written only if there is something to write. -/
def attributeIf (present : Bool) (key : String) (v : Value) : Attributes :=
  if present then [(key, v)] else []

/-- An attribute that is written only if there is a text for it. -/
def textAttribute (key : String) : Option String → Attributes
  | none => []
  | some s => [(key, .text s)]

def AdditionalVip.toJson (v : AdditionalVip) : Value :=
  .object (textAttribute "ip_address" v.ipAddress ++ textAttribute "subnet_id" v.subnetId
    ++ textAttribute "network_id" v.networkId ++ textAttribute "port_id" v.portId)

def SessionPersistence.toJson (p : SessionPersistence) : Value :=
  .object (("type", .text p.kind) :: textAttribute "cookie_name" p.cookieName
    ++ attributeIf p.timeout.isSome "persistence_timeout"
      (.ofOption (fun n ↦ .ofNat n.toNat) p.timeout)
    ++ textAttribute "persistence_granularity" p.granularity)

def additionalVipsJson : Field (List AdditionalVip) → Value :=
  Field.toJson fun vs ↦ .array (vs.map AdditionalVip.toJson)

def persistenceJson : Field SessionPersistence → Value :=
  Field.toJson SessionPersistence.toJson

namespace ChangeRequest

/-! ## Load balancers -/

/-- Creates or synchronises a load balancer. -/
def loadBalancer (op : Operation) (lb : LoadBalancer) : ChangeRequest :=
  ⟨op, [("id", .text lb.id), ("vip_address", textJson lb.vipAddress),
    ("vip_network_id", textJson lb.vipNetworkId), ("admin_state_up", upJson lb.adminStateUp)]
    ++ attributeIf lb.additionalVips.isSet "additional_vips"
      (additionalVipsJson lb.additionalVips)⟩

def updateLoadBalancer (new : LoadBalancer) : ChangeRequest :=
  ⟨.lbUpdate, ("id", .text new.id)
    :: attributeIf new.adminStateUp.isSet "admin_state_up" (boolJson new.adminStateUp)⟩

def deleteLoadBalancer (lb : LoadBalancer) (cascade : Bool) : ChangeRequest :=
  ⟨.lbDelete, [("id", .text lb.id), ("cascade", .bool cascade)]⟩

/-! ## Listeners -/

def listener (op : Operation) (l : Listener) : ChangeRequest :=
  ⟨op, [("id", .text l.id), ("protocol", textJson l.protocol),
    ("loadbalancer_id", textJson l.loadBalancerId), ("protocol_port", portJson l.port),
    ("default_pool_id", textJson l.defaultPoolId), ("admin_state_up", upJson l.adminStateUp)]⟩

def updateListener (old new : Listener) : ChangeRequest :=
  ⟨.listenerUpdate, [("id", .text new.id), ("loadbalancer_id", textJson old.loadBalancerId),
    ("protocol", textJson old.protocol), ("protocol_port", portJson old.port)]
    ++ attributeIf new.adminStateUp.isSet "admin_state_up" (boolJson new.adminStateUp)
    ++ attributeIf new.defaultPoolId.isSet "default_pool_id" (textJson new.defaultPoolId)⟩

def deleteListener (l : Listener) : ChangeRequest :=
  ⟨.listenerDelete, [("id", .text l.id), ("loadbalancer_id", textJson l.loadBalancerId),
    ("protocol_port", portJson l.port), ("protocol", textJson l.protocol)]⟩

/-! ## Pools -/

def pool (op : Operation) (p : Pool) : ChangeRequest :=
  ⟨op, [("id", .text p.id), ("loadbalancer_id", textJson p.loadBalancerId),
    ("protocol", textJson p.protocol), ("lb_algorithm", textJson p.algorithm),
    ("listener_id", textJson p.listenerId), ("admin_state_up", upJson p.adminStateUp)]
    ++ attributeIf p.sessionPersistence.isSet "session_persistence"
      (persistenceJson p.sessionPersistence)⟩

def updatePool (old new : Pool) : ChangeRequest :=
  ⟨.poolUpdate, [("id", .text old.id), ("protocol", textJson old.protocol),
    ("loadbalancer_id", textJson old.loadBalancerId)]
    ++ attributeIf new.adminStateUp.isSet "admin_state_up" (boolJson new.adminStateUp)
    ++ attributeIf new.sessionPersistence.isSet "session_persistence"
      (persistenceJson new.sessionPersistence)⟩

def deletePool (p : Pool) : ChangeRequest :=
  ⟨.poolDelete, [("id", .text p.id), ("protocol", textJson p.protocol),
    ("loadbalancer_id", textJson p.loadBalancerId)]⟩

/-! ## Members -/

/-- Creates, synchronises or replaces a member whose subnet is known. -/
def member (op : Operation) (m : Member) (subnetId : Option String) : ChangeRequest :=
  ⟨op, [("id", .text m.id), ("address", textJson m.address), ("protocol_port", portJson m.port),
    ("pool_id", .text m.poolId), ("subnet_id", .ofOption .text subnetId),
    ("admin_state_up", upJson m.adminStateUp)]⟩

def updateMember (old new : Member) : ChangeRequest :=
  ⟨.memberUpdate, [("id", .text new.id), ("address", textJson old.address),
    ("protocol_port", portJson old.port), ("pool_id", .text old.poolId),
    ("old_admin_state_up", boolJson old.adminStateUp)]
    ++ attributeIf new.adminStateUp.isSet "admin_state_up" (boolJson new.adminStateUp)⟩

/-- A member without a subnet has no such attribute. -/
def deleteMember (id : String) (address port : Value) (poolId : String)
    (subnetId : Option String) : ChangeRequest :=
  ⟨.memberDelete, [("id", .text id), ("address", address), ("protocol_port", port),
    ("pool_id", .text poolId)] ++ textAttribute "subnet_id" subnetId⟩

/-- Tells that a member joined or left its pool, so that distributed traffic can follow. -/
def memberNotice (id : String) (address : Value) (poolId : String) (subnetId : Option String)
    (what : Membership) : ChangeRequest :=
  ⟨.handleMemberDvr, [("id", .text id), ("address", address), ("pool_id", .text poolId)]
    ++ textAttribute "subnet_id" subnetId ++ [("action", .text what.name)]⟩

def memberAdded (m : Member) (subnetId : String) : ChangeRequest :=
  memberNotice m.id (textJson m.address) m.poolId (some subnetId) .added

def memberDeleted (m : Member) (subnetId : String) : ChangeRequest :=
  memberNotice m.id (textJson m.address) m.poolId (some subnetId) .deleted

/-- Deletes a member that is only known from its record. -/
def deleteEntry (e : MemberEntry) (poolId : String) : ChangeRequest :=
  deleteMember e.id (.text e.address) (.ofNat e.port.toNat) poolId e.subnetId

def entryDeleted (e : MemberEntry) (poolId : String) : ChangeRequest :=
  memberNotice e.id (.text e.address) poolId e.subnetId .deleted

/-! ## Health monitors -/

def healthMonitor (op : Operation) (h : HealthMonitor) : ChangeRequest :=
  ⟨op, [("id", .text h.id), ("pool_id", .text h.poolId), ("type", textJson h.kind),
    ("interval", countJson h.delay), ("timeout", countJson h.timeout),
    ("failure_count", countJson h.maxRetriesDown), ("success_count", countJson h.maxRetries),
    ("admin_state_up", upJson h.adminStateUp)]⟩

def updateHealthMonitor (old new : HealthMonitor) : ChangeRequest :=
  ⟨.hmUpdate, [("id", .text new.id), ("pool_id", .text old.poolId),
    ("interval", countJson new.delay), ("timeout", countJson new.timeout),
    ("failure_count", countJson new.maxRetriesDown), ("success_count", countJson new.maxRetries),
    ("admin_state_up", upJson new.adminStateUp)]⟩

def deleteHealthMonitor (h : HealthMonitor) : ChangeRequest :=
  ⟨.hmDelete, [("id", .text h.id), ("pool_id", .text h.poolId)]⟩

/-- Removes the monitors that a load balancer no longer has. -/
def purgeHealthMonitors (loadBalancerId : String) : ChangeRequest :=
  ⟨.hmPurge, [("loadbalancer_id", .text loadBalancerId)]⟩

/-! ## Floating addresses -/

def syncVipFip (loadBalancerId portId portName fip : String) : ChangeRequest :=
  ⟨.vipFipSync, [("loadbalancer_id", .text loadBalancerId), ("vip_port_id", .text portId),
    ("port_name", .text portName), ("vip_fip", .text fip)]⟩

end ChangeRequest

end BalancerSync
