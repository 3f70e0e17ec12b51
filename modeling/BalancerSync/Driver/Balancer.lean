import BalancerSync.Driver.Member

/-!
# Load balancers, listeners, pools and health monitors

Creation of a load balancer cascades into its children, parents first; deletion of a pool goes the
other way.
-/

namespace BalancerSync.Driver

variable {σ : Type} (d : Driver σ)

/-! ## Listeners -/

/-- Creates or synchronises a listener. -/
def placeListener (op : Operation) (l : Listener) : Act σ Unit := do
  Act.check (validateProtocol l.protocol)
  Act.check (validateAllowedCidrs l.allowedCidrs)
  Act.emit (.listener op l)

def createListener (l : Listener) : Act σ Unit := placeListener .listenerCreate l

def updateListener (old new : Listener) : Act σ Unit := do
  Act.check (validateAllowedCidrs new.allowedCidrs)
  Act.emit (.updateListener old new)

def deleteListener (l : Listener) : Act σ Unit := Act.emit (.deleteListener l)

/-! ## Health monitors -/

/-- Creates or synchronises a health monitor. -/
def placeHealthMonitor (op : Operation) (h : HealthMonitor) : Act σ Unit := do
  let supported ← d.healthChecksSupported
  Act.check (validateHealthMonitor h supported true)
  Act.emit (.healthMonitor op h)

def createHealthMonitor (h : HealthMonitor) : Act σ Unit := d.placeHealthMonitor .hmCreate h

def updateHealthMonitor (old new : HealthMonitor) : Act σ Unit := do
  let supported ← d.healthChecksSupported
  Act.check (validateHealthMonitor new supported false)
  Act.emit (.updateHealthMonitor old new)

def deleteHealthMonitor (h : HealthMonitor) : Act σ Unit := Act.emit (.deleteHealthMonitor h)

/-! ## Pools -/

/-- Creates or synchronises a pool without its children. -/
def placePool (op : Operation) (p : Pool) : Act σ Unit := do
  Act.check (validateProtocol p.protocol)
  Act.check (validateAlgorithm p.algorithm)
  Act.check (validatePersistence p.sessionPersistence.asOption)
  Act.emit (.pool op p)

/-- Creates a pool, and then its health monitor. -/
def createPool (p : Pool) : Act σ Unit := do
  placePool .poolCreate p
  p.healthMonitor.asOption.toList.forM d.createHealthMonitor

/-- Checks nothing that the caller left out. -/
def updatePool (old new : Pool) : Act σ Unit := do
  if new.protocol.isSet then Act.check (validateProtocol new.protocol)
  if new.algorithm.isSet then Act.check (validateAlgorithm new.algorithm)
  if new.sessionPersistence.isSet then
    Act.check (validatePersistence new.sessionPersistence.asOption)
  Act.emit (.updatePool old new)

/-- Deletes a pool after its health monitor and its members. -/
def deletePool (p : Pool) : Act σ Unit := do
  p.healthMonitor.asOption.toList.forM deleteHealthMonitor
  p.members.items.forM d.deleteMember
  Act.emit (.deletePool p)

/-! ## Load balancers -/

/-- Creates a member of a load balancer that is being created. -/
def cascadeMember (lb : LoadBalancer) (m : Member) : Act σ Unit := do
  match m.subnetId.nonEmpty with
  | some _ => d.createMember m
  | none =>
    match ← d.cascadeSubnet lb m with
    | some subnet => d.createMember { m with subnetId := .value subnet }
    | none => d.createMember m

/-- Creates a pool of a load balancer that is being created, with its children. -/
def cascadePool (lb : LoadBalancer) (p : Pool) : Act σ Unit := do
  d.createPool p
  p.members.items.forM (d.cascadeMember lb)

/-- Creates a load balancer and all of its children. -/
def createLoadBalancer (lb : LoadBalancer) : Act σ Unit := do
  Act.emit (.loadBalancer .lbCreate lb)
  lb.listeners.items.forM createListener
  lb.pools.items.forM (d.cascadePool lb)

def updateLoadBalancer (new : LoadBalancer) : Act σ Unit := Act.emit (.updateLoadBalancer new)

def deleteLoadBalancer (lb : LoadBalancer) (cascade : Bool) : Act σ Unit :=
  Act.emit (.deleteLoadBalancer lb cascade)

/-- There is nothing to fail over to. -/
def failover (_id : String) : Act σ Unit := throw (.unsupported .failover)

end BalancerSync.Driver
