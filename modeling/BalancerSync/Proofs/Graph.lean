import BalancerSync.Entity.Graph
import BalancerSync.Proofs.Reading

/-!
# What a graph says

For each entity the record that it is read from.  An entity is read from exactly the records that
say its attributes, at every depth, so that nothing is taken from the wrong place and an attribute
that is null is never mistaken for one that is left out.  The children of a pool belong to the pool
that they name themselves, else to the one around them.
-/

namespace BalancerSync

open Json Json.Tree

/-! ## Owners -/

/-- The owner of a child: the pool that it names by a text with characters in it, else the one
around it. -/
def OwnedBy (here : Tree → Prop) (parent owner : String) : Prop :=
  (owner ≠ "" ∧ here (.text (some owner))) ∨
    owner = parent ∧ ∀ v, here v → v = .null ∨ v = .text (some "")

/-- An owner that is given counts unless it is empty. -/
theorem ownerId_value (s parent : String) :
    ownerId (.value s) parent = if s = "" then parent else s := by
  by_cases hs : s = "" <;> simp [ownerId, Field.nonEmpty, Option.filter, hs]

/-- Who owns an object can be told from what is found at the key. -/
theorem ownedBy_iff {here : Tree → Prop} {found : Option Tree}
    (hfound : ∀ v, here v ↔ found = some v) {parent owner : String} :
    OwnedBy here parent owner ↔
      ∃ own : Field String, own.Says here IsText ∧ ownerId own parent = owner := by
  simp only [← Field.read_eq_some_iff reads_text hfound, OwnedBy, hfound]
  cases found with
  | none => simp [Field.read, ownerId, Field.nonEmpty, eq_comm]
  | some t =>
    cases t with
    | null => simp [Field.read, ownerId, Field.nonEmpty, eq_comm]
    | text s? =>
      cases s? with
      | none => simp [Field.read, asText?]
      | some s =>
        simp only [Field.read, asText?, Option.map_some, Option.some_inj, exists_eq_left',
          ownerId_value]
        by_cases hs : s = "" <;> simp [hs] <;> grind
    | bool b => simp [Field.read, asText?]
    | number n => simp [Field.read, asText?]
    | array items => simp [Field.read, asText?]
    | object fields => simp [Field.read, asText?]

/-- An object below one with an id has an owner. -/
theorem OwnedBy.ne_empty {here : Tree → Prop} {parent owner : String}
    (h : OwnedBy here parent owner) (hparent : parent ≠ "") : owner ≠ "" := by
  obtain ⟨howner, -⟩ | ⟨rfl, -⟩ := h
  · exact howner
  · exact hparent

/-! ## Entities -/

/-- The field names of a further address, in the order in which an array has the fields. -/
def AdditionalVip.keys : List String := ["ip_address", "subnet_id", "network_id", "port_id"]

/-- The record says this of a further address. -/
structure AdditionalVip.Written (t : Tree) (x : AdditionalVip) : Prop where
  isRecord : t.IsRecord keys
  ipAddress : SaysOption (t.Holds keys "ip_address") IsText x.ipAddress
  subnetId : SaysOption (t.Holds keys "subnet_id") IsText x.subnetId
  networkId : SaysOption (t.Holds keys "network_id") IsText x.networkId
  portId : SaysOption (t.Holds keys "port_id") IsText x.portId

theorem reads_additionalVip : Reads AdditionalVip.read? AdditionalVip.Written := by
  refine ⟨?_, rfl⟩
  intro t x
  refine bind_record?_eq_some_iff AdditionalVip.keys AdditionalVip.Written.isRecord fun hrec ↦ ?_
  simp (disch := decide) only [↓bind_eq_some, Option.pure_def, Option.some_inj,
    optional_eq_some_iff reads_text (hrec.holds_iff _)]
  constructor
  · rintro ⟨_, hip, _, hsubnet, _, hnetwork, _, hport, rfl⟩
    exact ⟨hrec, hip, hsubnet, hnetwork, hport⟩
  · rintro ⟨-, hip, hsubnet, hnetwork, hport⟩
    exact ⟨_, hip, _, hsubnet, _, hnetwork, _, hport, rfl⟩

def SessionPersistence.keys : List String :=
  ["type", "cookie_name", "persistence_timeout", "persistence_granularity"]

structure SessionPersistence.Written (t : Tree) (x : SessionPersistence) : Prop where
  isRecord : t.IsRecord keys
  kind : t.Holds keys "type" (.text (some x.kind))
  cookieName : SaysOption (t.Holds keys "cookie_name") IsText x.cookieName
  timeout : SaysOption (t.Holds keys "persistence_timeout") IsUInt64 x.timeout
  granularity : SaysOption (t.Holds keys "persistence_granularity") IsText x.granularity

theorem reads_sessionPersistence : Reads SessionPersistence.read? SessionPersistence.Written := by
  refine ⟨?_, rfl⟩
  intro t x
  refine bind_record?_eq_some_iff SessionPersistence.keys SessionPersistence.Written.isRecord ?_
  intro hrec
  simp (disch := decide) only [↓bind_eq_some, Option.pure_def, Option.some_inj,
    required_eq_some_iff (hrec.holds_iff _), optional_eq_some_iff reads_text (hrec.holds_iff _),
    optional_eq_some_iff reads_uint64 (hrec.holds_iff _)]
  constructor
  · rintro ⟨_, hkind, _, hcookie, _, htimeout, _, hgranularity, rfl⟩
    exact ⟨hrec, hkind, hcookie, htimeout, hgranularity⟩
  · rintro ⟨-, hkind, hcookie, htimeout, hgranularity⟩
    exact ⟨_, hkind, _, hcookie, _, htimeout, _, hgranularity, rfl⟩

def Listener.keys : List String :=
  ["listener_id", "loadbalancer_id", "protocol", "protocol_port", "default_pool_id",
  "admin_state_up", "allowed_cidrs"]

structure Listener.Written (t : Tree) (l : Listener) : Prop where
  isRecord : t.IsRecord keys
  id : t.Holds keys "listener_id" (.text (some l.id))
  loadBalancerId : l.loadBalancerId.Says (t.Holds keys "loadbalancer_id") IsText
  protocol : l.protocol.Says (t.Holds keys "protocol") IsText
  port : l.port.Says (t.Holds keys "protocol_port") IsUInt16
  defaultPoolId : l.defaultPoolId.Says (t.Holds keys "default_pool_id") IsText
  adminStateUp : l.adminStateUp.Says (t.Holds keys "admin_state_up") IsBool
  allowedCidrs : l.allowedCidrs.Says (t.Holds keys "allowed_cidrs") (IsList IsText)

/-- The record of a listener is read as it is written. -/
theorem reads_listener : Reads Listener.read? Listener.Written := by
  refine ⟨?_, rfl⟩
  intro t l
  refine bind_record?_eq_some_iff Listener.keys Listener.Written.isRecord fun hrec ↦ ?_
  simp (disch := decide) only [↓bind_eq_some, Option.pure_def, Option.some_inj,
    required_eq_some_iff (hrec.holds_iff _), Field.read_eq_some_iff reads_text (hrec.holds_iff _),
    Field.read_eq_some_iff reads_uint16 (hrec.holds_iff _),
    Field.read_eq_some_iff reads_bool (hrec.holds_iff _),
    Field.read_eq_some_iff (reads_list reads_text) (hrec.holds_iff _)]
  constructor
  · rintro ⟨_, hid, _, hbalancer, _, hprotocol, _, hport, _, hdefault, _, hadmin,
      _, hcidrs, rfl⟩
    exact ⟨hrec, hid, hbalancer, hprotocol, hport, hdefault, hadmin, hcidrs⟩
  · rintro ⟨-, hid, hbalancer, hprotocol, hport, hdefault, hadmin, hcidrs⟩
    exact ⟨_, hid, _, hbalancer, _, hprotocol, _, hport, _, hdefault, _, hadmin,
      _, hcidrs, rfl⟩

def Member.keys : List String :=
  ["member_id", "pool_id", "address", "protocol_port", "subnet_id", "admin_state_up",
  "monitor_address", "monitor_port", "weight"]

/-- The record says this of a member of a pool with the id `parent`. -/
structure Member.Written (parent : String) (t : Tree) (m : Member) : Prop where
  isRecord : t.IsRecord keys
  id : t.Holds keys "member_id" (.text (some m.id))
  poolId : OwnedBy (t.Holds keys "pool_id") parent m.poolId
  address : m.address.Says (t.Holds keys "address") IsText
  port : m.port.Says (t.Holds keys "protocol_port") IsUInt16
  subnetId : m.subnetId.Says (t.Holds keys "subnet_id") IsText
  adminStateUp : m.adminStateUp.Says (t.Holds keys "admin_state_up") IsBool
  monitorAddress : m.monitorAddress.Says (t.Holds keys "monitor_address") IsText
  monitorPort : m.monitorPort.Says (t.Holds keys "monitor_port") IsUInt16
  weight : m.weight.Says (t.Holds keys "weight") IsUInt32

/-- The record of a member is read as it is written, with the pool above it as its owner. -/
theorem reads_member (parent : String) : Reads (Member.read? parent) (Member.Written parent) := by
  refine ⟨?_, rfl⟩
  intro t m
  refine bind_record?_eq_some_iff Member.keys Member.Written.isRecord fun hrec ↦ ?_
  simp (disch := decide) only [↓bind_eq_some, Option.pure_def, Option.some_inj,
    required_eq_some_iff (hrec.holds_iff _), Field.read_eq_some_iff reads_text (hrec.holds_iff _),
    Field.read_eq_some_iff reads_uint16 (hrec.holds_iff _),
    Field.read_eq_some_iff reads_bool (hrec.holds_iff _),
    Field.read_eq_some_iff reads_uint32 (hrec.holds_iff _)]
  constructor
  · rintro ⟨_, hid, _, hown, _, haddress, _, hport, _, hsubnet, _, hadmin, _,
      hmonitor, _, hmonitorPort, _, hweight, rfl⟩
    exact ⟨hrec, hid, (ownedBy_iff (hrec.holds_iff (by decide))).2 ⟨_, hown, rfl⟩,
      haddress, hport, hsubnet, hadmin, hmonitor, hmonitorPort, hweight⟩
  · rintro ⟨-, hid, howner, haddress, hport, hsubnet, hadmin, hmonitor,
      hmonitorPort, hweight⟩
    obtain ⟨own, hown, hpool⟩ := (ownedBy_iff (hrec.holds_iff (by decide))).1 howner
    exact ⟨_, hid, own, hown, _, haddress, _, hport, _, hsubnet, _, hadmin, _,
      hmonitor, _, hmonitorPort, _, hweight, by rw [hpool]⟩

def HealthMonitor.keys : List String :=
  ["healthmonitor_id", "pool_id", "type", "delay", "timeout", "max_retries", "max_retries_down",
  "admin_state_up"]

/-- The record says this of a health monitor of a pool with the id `parent`. -/
structure HealthMonitor.Written (parent : String) (t : Tree) (h : HealthMonitor) : Prop where
  isRecord : t.IsRecord keys
  id : t.Holds keys "healthmonitor_id" (.text (some h.id))
  poolId : OwnedBy (t.Holds keys "pool_id") parent h.poolId
  kind : h.kind.Says (t.Holds keys "type") IsText
  delay : h.delay.Says (t.Holds keys "delay") IsUInt32
  timeout : h.timeout.Says (t.Holds keys "timeout") IsUInt32
  maxRetries : h.maxRetries.Says (t.Holds keys "max_retries") IsUInt32
  maxRetriesDown : h.maxRetriesDown.Says (t.Holds keys "max_retries_down") IsUInt32
  adminStateUp : h.adminStateUp.Says (t.Holds keys "admin_state_up") IsBool

/-- The record of a health monitor is read as it is written, with its pool as its owner. -/
theorem reads_healthMonitor (parent : String) :
    Reads (HealthMonitor.read? parent) (HealthMonitor.Written parent) := by
  refine ⟨?_, rfl⟩
  intro t h
  refine bind_record?_eq_some_iff HealthMonitor.keys HealthMonitor.Written.isRecord fun hrec ↦ ?_
  simp (disch := decide) only [↓bind_eq_some, Option.pure_def, Option.some_inj,
    required_eq_some_iff (hrec.holds_iff _), Field.read_eq_some_iff reads_text (hrec.holds_iff _),
    Field.read_eq_some_iff reads_uint32 (hrec.holds_iff _),
    Field.read_eq_some_iff reads_bool (hrec.holds_iff _)]
  constructor
  · rintro ⟨_, hid, _, hown, _, hkind, _, hdelay, _, htimeout, _, hretries, _,
      hdown, _, hadmin, rfl⟩
    exact ⟨hrec, hid, (ownedBy_iff (hrec.holds_iff (by decide))).2 ⟨_, hown, rfl⟩,
      hkind, hdelay, htimeout, hretries, hdown, hadmin⟩
  · rintro ⟨-, hid, howner, hkind, hdelay, htimeout, hretries, hdown, hadmin⟩
    obtain ⟨own, hown, hpool⟩ := (ownedBy_iff (hrec.holds_iff (by decide))).1 howner
    exact ⟨_, hid, own, hown, _, hkind, _, hdelay, _, htimeout, _, hretries, _, hdown,
      _, hadmin, by rw [hpool]⟩

def Pool.keys : List String :=
  ["pool_id", "loadbalancer_id", "listener_id", "protocol", "lb_algorithm", "session_persistence",
  "admin_state_up", "healthmonitor", "members"]

/-- The record says this of a pool, and so do the records in it of its children. -/
structure Pool.Written (t : Tree) (p : Pool) : Prop where
  isRecord : t.IsRecord keys
  id : t.Holds keys "pool_id" (.text (some p.id))
  loadBalancerId : p.loadBalancerId.Says (t.Holds keys "loadbalancer_id") IsText
  listenerId : p.listenerId.Says (t.Holds keys "listener_id") IsText
  protocol : p.protocol.Says (t.Holds keys "protocol") IsText
  algorithm : p.algorithm.Says (t.Holds keys "lb_algorithm") IsText
  sessionPersistence :
    p.sessionPersistence.Says (t.Holds keys "session_persistence") SessionPersistence.Written
  adminStateUp : p.adminStateUp.Says (t.Holds keys "admin_state_up") IsBool
  healthMonitor : p.healthMonitor.Says (t.Holds keys "healthmonitor") (HealthMonitor.Written p.id)
  members : p.members.Says (t.Holds keys "members") (IsList (Member.Written p.id))

/-- The record of a pool is read with all that is below it. -/
theorem reads_pool : Reads Pool.read? Pool.Written := by
  refine ⟨?_, rfl⟩
  intro t p
  refine bind_record?_eq_some_iff Pool.keys Pool.Written.isRecord fun hrec ↦ ?_
  simp (disch := decide) only [↓bind_eq_some, Option.pure_def, Option.some_inj,
    required_eq_some_iff (hrec.holds_iff _), Field.read_eq_some_iff reads_text (hrec.holds_iff _),
    Field.read_eq_some_iff reads_sessionPersistence (hrec.holds_iff _),
    Field.read_eq_some_iff reads_bool (hrec.holds_iff _),
    Field.read_eq_some_iff (reads_healthMonitor _) (hrec.holds_iff _),
    Field.read_eq_some_iff (reads_list (reads_member _)) (hrec.holds_iff _)]
  constructor
  · rintro ⟨_, hid, _, hbalancer, _, hlistener, _, hprotocol, _, halgorithm, _,
      hpersistence, _, hadmin, _, hmonitor, _, hmembers, rfl⟩
    exact ⟨hrec, hid, hbalancer, hlistener, hprotocol, halgorithm, hpersistence,
      hadmin, hmonitor, hmembers⟩
  · rintro ⟨-, hid, hbalancer, hlistener, hprotocol, halgorithm, hpersistence,
      hadmin, hmonitor, hmembers⟩
    exact ⟨_, hid, _, hbalancer, _, hlistener, _, hprotocol, _, halgorithm, _,
      hpersistence, _, hadmin, _, hmonitor, _, hmembers, rfl⟩

def LoadBalancer.keys : List String :=
  ["loadbalancer_id", "vip_address", "vip_network_id", "vip_subnet_id", "vip_port_id", "project_id",
  "additional_vips", "admin_state_up", "listeners", "pools"]

/-- The record says this of a load balancer, and the records in it of everything below. -/
structure LoadBalancer.Written (t : Tree) (lb : LoadBalancer) : Prop where
  isRecord : t.IsRecord keys
  id : t.Holds keys "loadbalancer_id" (.text (some lb.id))
  vipAddress : lb.vipAddress.Says (t.Holds keys "vip_address") IsText
  vipNetworkId : lb.vipNetworkId.Says (t.Holds keys "vip_network_id") IsText
  vipSubnetId : lb.vipSubnetId.Says (t.Holds keys "vip_subnet_id") IsText
  vipPortId : lb.vipPortId.Says (t.Holds keys "vip_port_id") IsText
  projectId : lb.projectId.Says (t.Holds keys "project_id") IsText
  additionalVips :
    lb.additionalVips.Says (t.Holds keys "additional_vips") (IsList AdditionalVip.Written)
  adminStateUp : lb.adminStateUp.Says (t.Holds keys "admin_state_up") IsBool
  listeners : lb.listeners.Says (t.Holds keys "listeners") (IsList Listener.Written)
  pools : lb.pools.Says (t.Holds keys "pools") (IsList Pool.Written)

/-- The record of a load balancer is read with all that is below it. -/
theorem reads_loadBalancer : Reads LoadBalancer.read? LoadBalancer.Written := by
  refine ⟨?_, rfl⟩
  intro t lb
  refine bind_record?_eq_some_iff LoadBalancer.keys LoadBalancer.Written.isRecord fun hrec ↦ ?_
  simp (disch := decide) only [↓bind_eq_some, Option.pure_def, Option.some_inj,
    required_eq_some_iff (hrec.holds_iff _), Field.read_eq_some_iff reads_text (hrec.holds_iff _),
    Field.read_eq_some_iff (reads_list reads_additionalVip) (hrec.holds_iff _),
    Field.read_eq_some_iff reads_bool (hrec.holds_iff _),
    Field.read_eq_some_iff (reads_list reads_listener) (hrec.holds_iff _),
    Field.read_eq_some_iff (reads_list reads_pool) (hrec.holds_iff _)]
  constructor
  · rintro ⟨_, hid, _, haddress, _, hnetwork, _, hsubnet, _, hport, _, hproject,
      _, hadditional, _, hadmin, _, hlisteners, _, hpools, rfl⟩
    exact ⟨hrec, hid, haddress, hnetwork, hsubnet, hport, hproject,
      hadditional, hadmin, hlisteners, hpools⟩
  · rintro ⟨-, hid, haddress, hnetwork, hsubnet, hport, hproject,
      hadditional, hadmin, hlisteners, hpools⟩
    exact ⟨_, hid, _, haddress, _, hnetwork, _, hsubnet, _, hport, _, hproject,
      _, hadditional, _, hadmin, _, hlisteners, _, hpools, rfl⟩

/-! ## Graphs -/

/-- The children of a pool that has an id belong to a pool that has one. -/
theorem Pool.Written.owned {t : Tree} {p : Pool} (h : p.Written t) (hid : p.id ≠ "") :
    (∀ m ∈ p.members.items, m.poolId ≠ "") ∧
      ∀ m, p.healthMonitor = .value m → m.poolId ≠ "" := by
  constructor
  · intro m hm
    obtain ⟨_, hm⟩ := h.members.exists_of_mem_items hm
    exact hm.poolId.ne_empty hid
  · intro m hm
    obtain ⟨_, -, hm⟩ := (h.healthMonitor.value_iff m).1 hm
    exact hm.poolId.ne_empty hid

/-- Whatever text is accepted as a graph says every attribute of the load balancer and of all that
is below it: an attribute is unset if its key is left out, null if null stands there, and else has
the value that stands there, with the children in their order. -/
theorem graph_is_read_as_written {cs : List Char} {lb : LoadBalancer}
    (h : (Tree.read? cs).bind LoadBalancer.read? = some lb) :
    ∃ t, Tree.read? cs = some t ∧ lb.Written t ∧
      ∀ p ∈ lb.pools.items, p.id ≠ "" →
        (∀ m ∈ p.members.items, m.poolId ≠ "") ∧
          ∀ m, p.healthMonitor = .value m → m.poolId ≠ "" := by
  obtain ⟨t, ht, hlb⟩ := Option.bind_eq_some_iff.1 h
  have hwritten := (reads_loadBalancer.eq_some_iff t lb).1 hlb
  refine ⟨t, ht, hwritten, ?_⟩
  intro p hp hid
  obtain ⟨_, hp⟩ := hwritten.pools.exists_of_mem_items hp
  exact hp.owned hid

namespace Sample

/-- A pool with a member that names no pool and one that names another. -/
def graphText : String :=
  "\x7b\"loadbalancer_id\":\"lb1\",\"vip_address\":null,\"pools\":[" ++
    "\x7b\"pool_id\":\"p1\",\"members\":[\x7b\"member_id\":\"m1\",\"pool_id\":\"\"\x7d," ++
    "\x7b\"member_id\":\"m2\",\"pool_id\":\"p2\"\x7d]\x7d]\x7d"

def graph : LoadBalancer where
  id := "lb1"
  vipAddress := .null
  vipNetworkId := .unset
  vipSubnetId := .unset
  vipPortId := .unset
  projectId := .unset
  additionalVips := .unset
  adminStateUp := .unset
  listeners := .unset
  pools := .value [{
    id := "p1", loadBalancerId := .unset, listenerId := .unset, protocol := .unset,
    algorithm := .unset, sessionPersistence := .unset, adminStateUp := .unset,
    healthMonitor := .unset
    members := .value [⟨"m1", "p1", .unset, .unset, .unset, .unset, .unset, .unset, .unset⟩,
      ⟨"m2", "p2", .unset, .unset, .unset, .unset, .unset, .unset, .unset⟩] }]

end Sample

theorem graph_is_read_as_written_on_sample :
    ∃ t, Tree.read? Sample.graphText.toList = some t ∧ Sample.graph.Written t ∧
      ∀ p ∈ Sample.graph.pools.items, p.id ≠ "" →
        (∀ m ∈ p.members.items, m.poolId ≠ "") ∧
          ∀ m, p.healthMonitor = .value m → m.poolId ≠ "" :=
  graph_is_read_as_written (by decide +kernel)

end BalancerSync
