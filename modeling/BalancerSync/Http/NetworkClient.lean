import BalancerSync.Http.CatalogClient

/-!
# The network API

Looks up floating addresses and subnets, and makes and removes ports.
-/

namespace BalancerSync

open Json

/-! ## Records -/

def Subnet.read? (t : Tree) : Option Subnet := do
  let r ← t.record? ["id", "network_id", "cidr", "ip_version"]
  return {
    id := ← Tree.required Tree.asText? (r "id")
    networkId := ← Tree.required Tree.asText? (r "network_id")
    cidr := ← Tree.required Tree.asText? (r "cidr")
    ipVersion := ← Tree.optional Tree.asUInt8? (r "ip_version") }

namespace Http

variable {σ : Type}

/-- An address that a port can be reached at from outside. -/
structure FloatingIp where
  id : String
  address : String
  portId : Option String
  fixedAddress : Option String
  deriving DecidableEq, Repr

def FloatingIp.read? (t : Tree) : Option FloatingIp := do
  let r ← t.record? ["id", "floating_ip_address", "port_id", "fixed_ip_address"]
  return {
    id := ← Tree.required Tree.asText? (r "id")
    address := ← Tree.required Tree.asText? (r "floating_ip_address")
    portId := ← Tree.optional Tree.asText? (r "port_id")
    fixedAddress := ← Tree.optional Tree.asText? (r "fixed_ip_address") }

/-- An address of a port in one of its subnets. -/
structure FixedIp where
  subnetId : String
  address : String
  deriving DecidableEq, Repr

def FixedIp.read? (t : Tree) : Option FixedIp := do
  let r ← t.record? ["subnet_id", "ip_address"]
  return ⟨← Tree.required Tree.asText? (r "subnet_id"),
    ← Tree.required Tree.asText? (r "ip_address")⟩

/-- A port, of which the first address is the one that it was made with. -/
def readPort? (t : Tree) : Option AllocatedPort := do
  let r ← t.record? ["id", "network_id", "name", "fixed_ips"]
  let id ← Tree.required Tree.asText? (r "id")
  let networkId ← Tree.required Tree.asText? (r "network_id")
  let _ ← Tree.defaulting "" Tree.asText? (r "name")
  let fixed ← Tree.defaulting [] (Tree.asList? FixedIp.read?) (r "fixed_ips")
  return ⟨id, networkId, fixed.head?.map FixedIp.subnetId, fixed.head?.map FixedIp.address⟩

/-! ## Making ports -/

/-- Who the ports belong to. -/
def portOwner : String := "Octavia"

/-- A field that is left out if there is nothing to say. -/
def someField (key : String) (s : Option String) : List (String × Value) :=
  (s.map fun s ↦ (key, .text s)).toList

/-- The body of a request for a port. -/
def portBody (p : PortRequest) : Value :=
  let address := someField "subnet_id" p.subnetId ++ someField "ip_address" p.ipAddress
  let addresses := if address.isEmpty then [] else [("fixed_ips", .array [.object address])]
  .object [("port", .object (
    [("name", .text p.name), ("network_id", .text p.networkId)]
      ++ someField "project_id" p.projectId
      ++ [("admin_state_up", .bool true), ("device_owner", .text portOwner)] ++ addresses))]

/-! ## Calls -/

namespace NetworkClient

variable (c : Client) (transport : Transport σ)

/-- The floating addresses of a port. -/
def floatingIps (portId : String) : Call σ ApiError (List FloatingIp) :=
  c.exchange transport (receive (enveloped? "floatingips" (Tree.asList? FloatingIp.read?))) .get
    "v2.0/floatingips" [("port_id", portId)] none

def subnet (id : String) : Call σ ApiError Subnet :=
  c.exchange transport (receive (enveloped? "subnet" Subnet.read?)) .get
    ("v2.0/subnets/" ++ id) [] none

/-- The subnets of a network. -/
def networkSubnets (networkId : String) : Call σ ApiError (List Subnet) :=
  c.exchange transport (receive (enveloped? "subnets" (Tree.asList? Subnet.read?))) .get
    "v2.0/subnets" [("network_id", networkId)] none

def allocatePort (p : PortRequest) : Call σ ApiError AllocatedPort :=
  c.exchange transport (receive (enveloped? "port" readPort?)) .post "v2.0/ports" []
    (some (portBody p))

def releasePort (id : String) : Call σ ApiError Unit :=
  c.exchange transport receiveNothing .delete ("v2.0/ports/" ++ id) [] none

/-- The API as the driver asks it. -/
def network : Network σ where
  allocatePort := allocatePort c transport
  releasePort := releasePort c transport
  floatingIps id := do return (← floatingIps c transport id).map FloatingIp.address
  subnet := subnet c transport
  networkSubnets := networkSubnets c transport

end NetworkClient

end Http

end BalancerSync
