import BalancerSync.Address.Cidr
import BalancerSync.Driver.Basic
import BalancerSync.Record.Lookup

/-!
# The subnet of a member

A member without a subnet of its own is in the subnet of its load balancer's virtual address,
provided that its own address lies there.
-/

namespace BalancerSync.Driver

variable {σ : Type} (d : Driver σ)

/-- The subnet of a row's virtual address and its range. A subnet that the network layer no longer
knows is none. -/
def subnetOfRow (row : Row) : Act σ (Option (String × String)) := do
  match row.vipSubnetId? with
  | none => return none
  | some id =>
    match ← Act.observe (Act.askNetwork (d.network.subnet id)) with
    | .ok subnet => return some (subnet.id, subnet.cidr)
    | .error (.api e) => if e.isNotFound then return none else throw (.api e)
    | .error e => throw e

/-- The subnet of the load balancer that has a pool. -/
def subnetOfPool (poolId : String) : Act σ (Option (String × String)) := do
  match ← Act.askBackend (findByPoolId d.backend poolId) with
  | some (_, row) => d.subnetOfRow row
  | none => return none

/-- The subnet if it contains the address. -/
def requireSubnet (action : MemberAction) (address : String) :
    Option (String × String) → Except DriverError String
  | some (id, cidr) =>
    if addressInCidr address cidr then .ok id else .error (.unsupported (.subnetRequired action))
  | none => .error (.unsupported (.subnetRequired action))

/-- The member's own subnet, else the one of its pool. -/
def resolveSubnet (m : Member) (action : MemberAction) : Act σ String := do
  match m.subnetId.nonEmpty with
  | some subnet => return subnet
  | none =>
    let found ← d.subnetOfPool m.poolId
    Act.check (requireSubnet action (m.address.nonEmpty.getD "") found)

/-- The subnet of a member whose load balancer is being created, so that the backend has no record
of its pool yet: its own, else the one of the virtual address, else the first subnet of the virtual
address's network that contains the member's address. -/
def cascadeSubnet (lb : LoadBalancer) (m : Member) : Act σ (Option String) := do
  match m.subnetId.nonEmpty, lb.vipSubnetId.nonEmpty with
  | some subnet, _ => return some subnet
  | none, some subnet => return some subnet
  | none, none =>
    match lb.vipNetworkId.nonEmpty, m.address.nonEmpty with
    | some network, some address =>
      let subnets ← Act.askNetwork (d.network.networkSubnets network)
      return (subnets.find? fun s ↦ addressInCidr address s.cidr).map (·.id)
    | _, _ => return none

end BalancerSync.Driver
