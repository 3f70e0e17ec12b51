import BalancerSync.Entity.Basic
import BalancerSync.Error
import BalancerSync.Record.Row

/-!
# Collaborators

The driver asks three others: the backend for what is recorded, the network layer for subnets,
ports and floating addresses, and the catalog of the load-balancing API for what should be. They
share a world, of which the driver sees nothing but their answers: a call gives an answer or an
error, and may change the world.
-/

namespace BalancerSync

/-- A call in a world `σ` that answers with an `α` or fails with an `ε`. -/
abbrev Call (σ ε α : Type) : Type := ExceptT ε (StateM σ) α

/-! ## The backend -/

structure Backend (σ : Type) where
  /-- All rows of a load balancer, of which there is at least one. -/
  findLoadBalancers : String → Call σ BackendError (List Row)
  /-- A row that has a pool under this key. -/
  findByPoolKey : String → Call σ BackendError (Option Row)
  hasHealthMonitor : String → Call σ BackendError Bool
  logicalPort : String → Call σ BackendError (Option LogicalPort)
  supportsHealthChecks : Call σ BackendError Bool

/-! ## The network layer -/

structure Subnet where
  id : String
  networkId : String
  cidr : String
  ipVersion : Option UInt8
  deriving DecidableEq, Repr, Inhabited

/-- What a port is asked for. -/
structure PortRequest where
  name : String
  projectId : Option String
  networkId : String
  subnetId : Option String
  ipAddress : Option String
  deriving DecidableEq, Repr, Inhabited

/-- A port as it was provided. -/
structure AllocatedPort where
  portId : String
  networkId : String
  subnetId : Option String
  ipAddress : Option String
  deriving DecidableEq, Repr, Inhabited

structure Network (σ : Type) where
  allocatePort : PortRequest → Call σ ApiError AllocatedPort
  releasePort : String → Call σ ApiError Unit
  /-- The floating addresses bound to a port. -/
  floatingIps : String → Call σ ApiError (List String)
  subnet : String → Call σ ApiError Subnet
  networkSubnets : String → Call σ ApiError (List Subnet)

/-! ## The catalog -/

/-- Names and values that a listing is restricted to. -/
abbrev Filters := List (String × String)

structure Catalog (σ : Type) where
  loadBalancerIds : Filters → Call σ DriverError (List String)
  loadBalancer : String → Call σ DriverError LoadBalancer

end BalancerSync
