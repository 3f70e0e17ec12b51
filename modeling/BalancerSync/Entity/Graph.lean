import BalancerSync.Entity.Basic

/-!
# Reading object graphs

The API sends a load balancer with all of its children in one record. Attributes keep the three
states at every depth, and the children of a pool that do not name a pool belong to the one around
them.
-/

namespace BalancerSync

open Json

/-- The pool that a child names, else the one around it. -/
def ownerId (own : Field String) (parent : String) : String :=
  own.nonEmpty.getD parent

def AdditionalVip.read? (t : Tree) : Option AdditionalVip := do
  let r ← t.record? ["ip_address", "subnet_id", "network_id", "port_id"]
  return {
    ipAddress := ← Tree.optional Tree.asText? (r "ip_address")
    subnetId := ← Tree.optional Tree.asText? (r "subnet_id")
    networkId := ← Tree.optional Tree.asText? (r "network_id")
    portId := ← Tree.optional Tree.asText? (r "port_id") }

def SessionPersistence.read? (t : Tree) : Option SessionPersistence := do
  let r ← t.record? ["type", "cookie_name", "persistence_timeout", "persistence_granularity"]
  return {
    kind := ← Tree.required Tree.asText? (r "type")
    cookieName := ← Tree.optional Tree.asText? (r "cookie_name")
    timeout := ← Tree.optional Tree.asUInt64? (r "persistence_timeout")
    granularity := ← Tree.optional Tree.asText? (r "persistence_granularity") }

def Listener.read? (t : Tree) : Option Listener := do
  let r ← t.record? ["listener_id", "loadbalancer_id", "protocol", "protocol_port",
    "default_pool_id", "admin_state_up", "allowed_cidrs"]
  return {
    id := ← Tree.required Tree.asText? (r "listener_id")
    loadBalancerId := ← Field.read Tree.asText? (r "loadbalancer_id")
    protocol := ← Field.read Tree.asText? (r "protocol")
    port := ← Field.read Tree.asUInt16? (r "protocol_port")
    defaultPoolId := ← Field.read Tree.asText? (r "default_pool_id")
    adminStateUp := ← Field.read Tree.asBool? (r "admin_state_up")
    allowedCidrs := ← Field.read (Tree.asList? Tree.asText?) (r "allowed_cidrs") }

/-- Reads a member of the pool with this id. -/
def Member.read? (parent : String) (t : Tree) : Option Member := do
  let r ← t.record? ["member_id", "pool_id", "address", "protocol_port", "subnet_id",
    "admin_state_up", "monitor_address", "monitor_port", "weight"]
  return {
    id := ← Tree.required Tree.asText? (r "member_id")
    poolId := ownerId (← Field.read Tree.asText? (r "pool_id")) parent
    address := ← Field.read Tree.asText? (r "address")
    port := ← Field.read Tree.asUInt16? (r "protocol_port")
    subnetId := ← Field.read Tree.asText? (r "subnet_id")
    adminStateUp := ← Field.read Tree.asBool? (r "admin_state_up")
    monitorAddress := ← Field.read Tree.asText? (r "monitor_address")
    monitorPort := ← Field.read Tree.asUInt16? (r "monitor_port")
    weight := ← Field.read Tree.asUInt32? (r "weight") }

/-- Reads a health monitor of the pool with this id. -/
def HealthMonitor.read? (parent : String) (t : Tree) : Option HealthMonitor := do
  let r ← t.record? ["healthmonitor_id", "pool_id", "type", "delay", "timeout", "max_retries",
    "max_retries_down", "admin_state_up"]
  return {
    id := ← Tree.required Tree.asText? (r "healthmonitor_id")
    poolId := ownerId (← Field.read Tree.asText? (r "pool_id")) parent
    kind := ← Field.read Tree.asText? (r "type")
    delay := ← Field.read Tree.asUInt32? (r "delay")
    timeout := ← Field.read Tree.asUInt32? (r "timeout")
    maxRetries := ← Field.read Tree.asUInt32? (r "max_retries")
    maxRetriesDown := ← Field.read Tree.asUInt32? (r "max_retries_down")
    adminStateUp := ← Field.read Tree.asBool? (r "admin_state_up") }

def Pool.read? (t : Tree) : Option Pool := do
  let r ← t.record? ["pool_id", "loadbalancer_id", "listener_id", "protocol", "lb_algorithm",
    "session_persistence", "admin_state_up", "healthmonitor", "members"]
  let id ← Tree.required Tree.asText? (r "pool_id")
  return {
    id := id
    loadBalancerId := ← Field.read Tree.asText? (r "loadbalancer_id")
    listenerId := ← Field.read Tree.asText? (r "listener_id")
    protocol := ← Field.read Tree.asText? (r "protocol")
    algorithm := ← Field.read Tree.asText? (r "lb_algorithm")
    sessionPersistence := ← Field.read SessionPersistence.read? (r "session_persistence")
    adminStateUp := ← Field.read Tree.asBool? (r "admin_state_up")
    healthMonitor := ← Field.read (HealthMonitor.read? id) (r "healthmonitor")
    members := ← Field.read (Tree.asList? (Member.read? id)) (r "members") }

def LoadBalancer.read? (t : Tree) : Option LoadBalancer := do
  let r ← t.record? ["loadbalancer_id", "vip_address", "vip_network_id", "vip_subnet_id",
    "vip_port_id", "project_id", "additional_vips", "admin_state_up", "listeners", "pools"]
  return {
    id := ← Tree.required Tree.asText? (r "loadbalancer_id")
    vipAddress := ← Field.read Tree.asText? (r "vip_address")
    vipNetworkId := ← Field.read Tree.asText? (r "vip_network_id")
    vipSubnetId := ← Field.read Tree.asText? (r "vip_subnet_id")
    vipPortId := ← Field.read Tree.asText? (r "vip_port_id")
    projectId := ← Field.read Tree.asText? (r "project_id")
    additionalVips := ← Field.read (Tree.asList? AdditionalVip.read?) (r "additional_vips")
    adminStateUp := ← Field.read Tree.asBool? (r "admin_state_up")
    listeners := ← Field.read (Tree.asList? Listener.read?) (r "listeners")
    pools := ← Field.read (Tree.asList? Pool.read?) (r "pools") }

end BalancerSync
