import BalancerSync.Driver.Subnet

/-!
# Members

Each request for a member is followed by a notice that it joined or left its pool.
-/

namespace BalancerSync.Driver

variable {σ : Type} (d : Driver σ)

/-- Whether the member's address is of another family than the addresses of its load balancer. A
pool without a row is in conflict with nothing. -/
def ipConflict (m : Member) : Act σ Bool := do
  match m.address.nonEmpty with
  | none => return false
  | some address =>
    match ← Act.askBackend (findByPoolId d.backend m.poolId) with
    | some (_, row) => return ipVersionDiffers row.vips address
    | none => return false

def refuseConflict (m : Member) : Act σ Unit := do
  if ← d.ipConflict m then throw .ipVersionMixing

/-- Sends the request for a member with the notice that it joined. -/
def placeMember (op : Operation) (m : Member) : Act σ Unit := do
  let subnet ← d.resolveSubnet m .creation
  Act.submit [.member op m (some subnet), .memberAdded m subnet]

def createMember (m : Member) : Act σ Unit := do
  Act.check (validateMonitorOptions m)
  d.refuseConflict m
  d.placeMember .memberCreate m

/-- Like creation, but with any address. -/
def syncMember (m : Member) : Act σ Unit := do
  Act.check (validateMonitorOptions m)
  d.placeMember .memberSync m

def deleteMember (m : Member) : Act σ Unit := do
  let subnet ← d.resolveSubnet m .deletion
  Act.submit [.deleteMember m.id (textJson m.address) (portJson m.port) m.poolId (some subnet),
    .memberDeleted m subnet]

def updateMember (old new : Member) : Act σ Unit := do
  Act.check (validateMonitorOptions new)
  d.refuseConflict new
  Act.emit (.updateMember old new)

/-- Deletes a member that is only known from its record. -/
def deleteEntry (poolId : String) (e : MemberEntry) : Act σ Unit :=
  Act.submit [.deleteEntry e poolId, .entryDeleted e poolId]

/-! ## Replacing all members of a pool

All members are checked before the first request is sent. A member is recorded if its entry is,
and each entry counts once. -/

/-- Checks the members and finds their subnets. The subnet of the load balancer is asked for when
the first member needs it, and then known. -/
def resolveBatch (row : Row) :
    Option (Option (String × String)) → List Member → Act σ (List (Member × String))
  | _, [] => return []
  | known, m :: ms => do
    if m.hasMonitorOptions then throw (.unsupported .batchMonitor)
    let address := m.address.nonEmpty.getD ""
    if address ≠ "" ∧ ipVersionDiffers row.vips address then throw .ipVersionMixing
    match m.subnetId.nonEmpty with
    | some subnet => return (m, subnet) :: (← resolveBatch row known ms)
    | none =>
      let found ← match known with
        | some found => pure found
        | none => d.subnetOfRow row
      let subnet ← Act.check (requireSubnet .batchUpdate address found)
      return (m, subnet) :: (← resolveBatch row (some found) ms)

/-- The entry under which a member with this subnet is recorded. -/
def entryOf (m : Member) (subnet : String) : MemberEntry :=
  .of m.id (m.address.nonEmpty.getD "") (m.port.asOption.getD 0) (some subnet)

/-- One request for each member: an update if its entry is among the recorded ones, which are then
without it. What is left of the recorded entries is returned too. -/
def matchBatch : List MemberEntry → List (Member × String) → List ChangeRequest × List MemberEntry
  | recorded, [] => ([], recorded)
  | recorded, (m, subnet) :: ms =>
    let e := entryOf m subnet
    let op := if recorded.contains e then .memberUpdate else .memberCreate
    let (rs, left) := matchBatch (recorded.erase e) ms
    (.member op m (some subnet) :: rs, left)

/-- The requests that delete recorded members. -/
def deletions (poolId : String) (es : List MemberEntry) : List ChangeRequest :=
  es.flatMap fun e ↦ [.deleteEntry e poolId, .entryDeleted e poolId]

def updateMembers (poolId : String) (members : List Member) : Act σ Unit := do
  let (key, row) ← Act.askBackend (requirePool d.backend poolId)
  let resolved ← d.resolveBatch row none members
  let (rs, left) := matchBatch (row.entries key) resolved
  Act.submit (rs ++ deletions poolId left)

end BalancerSync.Driver
