import BalancerSync.Driver.Basic

/-!
# Ports for virtual addresses

A load balancer needs a port for each of its virtual addresses. Either it gets all of them, or the
ones that it got are given back.
-/

namespace BalancerSync

/-- What is asked for a virtual address. -/
structure VipRequest where
  networkId : String
  subnetId : Option String
  ipAddress : Option String
  deriving DecidableEq, Repr

/-- The port of a virtual address, which has an address. -/
structure VipPort where
  portId : String
  ipAddress : String
  networkId : String
  subnetId : Option String
  deriving DecidableEq, Repr

namespace VipRequest

def portRequest (r : VipRequest) (name : String) (projectId : Option String) : PortRequest :=
  ⟨name, projectId, r.networkId, r.subnetId, r.ipAddress⟩

/-- The name of the port of the primary address. -/
def primaryName (lbId : String) : String := "ovn-lb-vip-" ++ lbId

def additionalName (i : Nat) (lbId : String) : String :=
  "ovn-lb-vip-additional-" ++ toString i ++ "-" ++ lbId

end VipRequest

namespace Driver

variable {σ : Type} (d : Driver σ)

/-- Gives a port back. If that fails nothing can be done about it. -/
def releaseVip (portId : String) : Act σ Unit := do
  let _ ← Act.observe (Act.askNetwork (d.network.releasePort portId))

/-- How a failed allocation is reported: in the words of the API if it has any. -/
def allocationError (e : ApiError) : DriverError :=
  .provisioning (e.apiMessage.getD DriverError.unknownFailure)

/-- Allocates a port. One without an address is given back at once. -/
def allocateVip (r : PortRequest) : Act σ VipPort := do
  let p ← Act.ask allocationError (d.network.allocatePort r)
  match p.ipAddress with
  | some address => return ⟨p.portId, address, p.networkId, p.subnetId⟩
  | none =>
    d.releaseVip p.portId
    throw (.provisioning DriverError.unknownFailure)

/-- Allocates the remaining ports of a load balancer that holds the primary one and those in `done`.
If one of them fails, all that it holds are given back. -/
def allocateAdditional (lbId : String) (projectId : Option String) (primary : VipPort) :
    List VipPort → List VipRequest → Act σ (List VipPort)
  | done, [] => return done
  | done, r :: rs => do
    let request := r.portRequest (VipRequest.additionalName done.length lbId) projectId
    let port ← tryCatch (d.allocateVip request) fun e ↦ do
      (primary :: done).forM fun p ↦ d.releaseVip p.portId
      throw e
    allocateAdditional lbId projectId primary (done ++ [port]) rs

/-- Allocates the port of the primary address and one for each additional address. -/
def createVipPort (lbId : String) (projectId : Option String) (vip : VipRequest)
    (additional : List VipRequest) : Act σ (VipPort × List VipPort) := do
  let primary ← d.allocateVip (vip.portRequest (VipRequest.primaryName lbId) projectId)
  return (primary, ← d.allocateAdditional lbId projectId primary [] additional)

end Driver

end BalancerSync
