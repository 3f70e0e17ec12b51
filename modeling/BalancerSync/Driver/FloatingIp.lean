import BalancerSync.Driver.Basic

/-!
# Floating addresses

A virtual address may have a floating address. The network layer knows it, the logical port has it
recorded, and so should the rows of the load balancer. Only if the first two agree is anything
written to the rows.
-/

namespace BalancerSync

/-- What to do about the floating address of a virtual address. -/
inductive FipDecision
  | inSync
  | apply (fip : String)
  /-- The logical port does not record the address. -/
  | missingOnPort (external : String)
  | mismatch (external recorded : String)
  /-- The network layer does not know the recorded address. -/
  | missingExternally (recorded : String)
  deriving DecidableEq, Repr

namespace FipDecision

/-- Rows that are not there yet need the address as much as rows without it. -/
def decide (external recorded : Option String) (rows : List (Option String)) : FipDecision :=
  match external, recorded with
  | none, none => inSync
  | some e, none => missingOnPort e
  | none, some r => missingExternally r
  | some e, some r =>
    if e ≠ r then mismatch e r
    else if !rows.isEmpty && rows.all (· == some e) then inSync
    else apply e

end FipDecision

namespace Driver

variable {σ : Type} (d : Driver σ)

/-- The rows of a load balancer, none if there are none, unless the backend is unavailable. -/
def rowsForFip (lbId : String) : Act σ (Option (List Row)) := do
  match ← Act.observe (Act.askBackend (d.backend.findLoadBalancers lbId)) with
  | .ok rows => return some rows
  | .error (.backend e) => return if e.isRowNotFound then some [] else none
  | .error _ => return none

/-- The port of the virtual address. The rows remember it when the load balancer does not. -/
def vipPort? (lb : LoadBalancer) (rows : List Row) : Option String :=
  lb.vipPortId.nonEmpty <|> rows.findSome? Row.vipPortId?

/-- Acts on the decision; the answer is whether the two sides agree. -/
def applyFip (lbId portId portName : String) : FipDecision → Act σ Bool
  | .inSync => return true
  | .apply fip => do
    Act.emit (.syncVipFip lbId portId portName fip)
    return true
  | _ => return false

/-- Synchronises the floating address of a load balancer on a known port. -/
def syncFipOnPort (lbId portId : String) (rows : List Row) : Act σ Bool := do
  match ← Act.observe (Act.askNetwork (d.network.floatingIps portId)) with
  | .error _ => return false
  | .ok fips =>
    match ← Act.observe (Act.askBackend (d.backend.logicalPort portId)) with
    | .error _ => return false
    | .ok port? =>
      let recorded := port?.bind LogicalPort.fip?
      let portName := (port?.map (·.name)).getD portId
      applyFip lbId portId portName (.decide fips.head? recorded (rows.map Row.vipFip?))

/-- Synchronises the floating address of a load balancer. The answer is whether the two sides
agree; a step that cannot be taken is no error. -/
def syncVipFip (lb : LoadBalancer) : Act σ Bool := do
  match lb.vipNetworkId.nonEmpty with
  | none => return false
  | some _ =>
    match ← d.rowsForFip lb.id with
    | none => return false
    | some rows =>
      match vipPort? lb rows with
      | none => return false
      | some portId => d.syncFipOnPort lb.id portId rows

end Driver

end BalancerSync
