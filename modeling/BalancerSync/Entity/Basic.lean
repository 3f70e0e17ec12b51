import BalancerSync.Field

/-!
# Load balancers and their children

The objects of the load-balancing API, as they are at the time of one call. A load balancer has
listeners and pools, a pool has members and at most one health monitor.
-/

namespace BalancerSync

/-- Another virtual address of a load balancer. -/
structure AdditionalVip where
  ipAddress : Option String
  subnetId : Option String
  networkId : Option String
  portId : Option String
  deriving DecidableEq, Repr, Inhabited

structure SessionPersistence where
  kind : String
  cookieName : Option String
  timeout : Option UInt64
  granularity : Option String
  deriving DecidableEq, Repr, Inhabited

structure Listener where
  id : String
  loadBalancerId : Field String
  protocol : Field String
  port : Field UInt16
  defaultPoolId : Field String
  adminStateUp : Field Bool
  allowedCidrs : Field (List String)
  deriving DecidableEq, Repr, Inhabited

structure Member where
  id : String
  poolId : String
  address : Field String
  port : Field UInt16
  subnetId : Field String
  adminStateUp : Field Bool
  monitorAddress : Field String
  monitorPort : Field UInt16
  weight : Field UInt32
  deriving DecidableEq, Repr, Inhabited

structure HealthMonitor where
  id : String
  poolId : String
  kind : Field String
  delay : Field UInt32
  timeout : Field UInt32
  maxRetries : Field UInt32
  maxRetriesDown : Field UInt32
  adminStateUp : Field Bool
  deriving DecidableEq, Repr, Inhabited

structure Pool where
  id : String
  loadBalancerId : Field String
  listenerId : Field String
  protocol : Field String
  algorithm : Field String
  sessionPersistence : Field SessionPersistence
  adminStateUp : Field Bool
  healthMonitor : Field HealthMonitor
  members : Field (List Member)
  deriving DecidableEq, Repr, Inhabited

structure LoadBalancer where
  id : String
  vipAddress : Field String
  vipNetworkId : Field String
  vipSubnetId : Field String
  vipPortId : Field String
  projectId : Field String
  additionalVips : Field (List AdditionalVip)
  adminStateUp : Field Bool
  listeners : Field (List Listener)
  pools : Field (List Pool)
  deriving DecidableEq, Repr, Inhabited

end BalancerSync
