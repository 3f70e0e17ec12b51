import BalancerSync.Store.Basic

/-!
# Rehearsals

A rehearsal is a world in which all answers are written down beforehand: a store stands for the
backend, lists stand for the network layer and the catalog, and failures are part of the script.
Every call is noted.
-/

namespace BalancerSync

/-- What a script says about the backend, apart from the store: which questions fail, and how
often a look-up still misses its row. -/
structure BackendScript where
  down : List (String × String)
  balancerMisses : Nat
  poolMisses : Nat
  deriving Repr

/-- What an allocation leads to. What is not said takes its default. -/
inductive PortAnswer
  | fail (e : ApiError)
  | give (portId networkId subnetId ipAddress : Option String)
  deriving Repr

structure NetworkScript where
  subnets : List Subnet
  floatingIps : List (String × List String)
  down : List (String × ApiError)
  /-- The results of the first allocations; later ones succeed. -/
  ports : List PortAnswer
  deriving Repr

structure CatalogScript where
  ids : List String
  listError : Option ApiError
  errors : List (String × ApiError)
  balancers : List (String × LoadBalancer)
  deriving Repr

/-- A call of a collaborator. -/
inductive Note
  | backend (method : String) (argument : Option String)
  | network (method id : String)
  | allocate (r : PortRequest)
  | list (filters : Filters)
  | get (id : String)
  deriving Repr

structure Rehearsal where
  store : Store
  backend : BackendScript
  network : NetworkScript
  catalog : CatalogScript
  /-- The number of allocations so far. -/
  allocations : Nat
  notes : List Note
  deriving Repr

namespace BackendScript

def empty : BackendScript := ⟨[], 0, 0⟩

end BackendScript

namespace NetworkScript

def empty : NetworkScript := ⟨[], [], [], []⟩

end NetworkScript

namespace CatalogScript

def empty : CatalogScript := ⟨[], none, [], []⟩

end CatalogScript

namespace Rehearsal

open Json

variable {ε α : Type}

def start (store : Store) (backend : BackendScript) (network : NetworkScript)
    (catalog : CatalogScript) : Rehearsal :=
  ⟨store, backend, network, catalog, 0, []⟩

def note (n : Note) : Call Rehearsal ε Unit :=
  modify fun w ↦ { w with notes := w.notes ++ [n] }

/-! ## The backend -/

/-- Notes a question to the backend, and fails if the script says so. -/
def askBackend (method : String) (argument : Option String) : Call Rehearsal BackendError Unit := do
  note (.backend method argument)
  match Dictionary.get? (← get).backend.down method with
  | some text => throw (.unavailable text)
  | none => return ()

def findLoadBalancers (id : String) : Call Rehearsal BackendError (List Row) := do
  askBackend "find_load_balancers" id
  let w ← get
  match w.backend.balancerMisses with
  | n + 1 =>
    set { w with backend.balancerMisses := n }
    throw (.balancerNotFound id)
  | 0 => ExceptT.mk (pure (w.store.findLoadBalancers id))

def findByPoolKey (key : String) : Call Rehearsal BackendError (Option Row) := do
  askBackend "find_by_pool_key" key
  let w ← get
  match w.backend.poolMisses with
  | n + 1 =>
    set { w with backend.poolMisses := n }
    return none
  | 0 => return w.store.findByPoolKey key

def backendAnswers : Backend Rehearsal where
  findLoadBalancers := findLoadBalancers
  findByPoolKey := findByPoolKey
  hasHealthMonitor id := do
    askBackend "has_health_monitor" id
    return (← get).store.hasHealthMonitor id
  logicalPort id := do
    askBackend "logical_port" id
    return (← get).store.logicalPort id
  supportsHealthChecks := do
    askBackend "supports_health_checks" none
    return (← get).store.healthCheckSupported

/-! ## The network layer -/

/-- Notes a question to the network layer, and fails if the script says so. -/
def askNetwork (method : String) (n : Note) : Call Rehearsal ApiError NetworkScript := do
  note n
  let script := (← get).network
  match Dictionary.get? script.down method with
  | some e => throw e
  | none => return script

/-- What the script says of an allocation, else a port made from the request. -/
def answerPort (n : Nat) (r : PortRequest) : Option PortAnswer → Except ApiError AllocatedPort
  | some (.fail e) => .error e
  | some (.give portId networkId subnetId ipAddress) =>
    .ok ⟨portId.getD ("port-" ++ toString n), networkId.getD r.networkId, subnetId, ipAddress⟩
  | none =>
    .ok ⟨"port-" ++ toString n, r.networkId, some (r.subnetId.getD "sub-auto"),
      some (r.ipAddress.getD ("10.0.0." ++ toString (100 + n)))⟩

def allocatePort (r : PortRequest) : Call Rehearsal ApiError AllocatedPort := do
  let script ← askNetwork "allocate_port" (.allocate r)
  let w ← get
  set { w with allocations := w.allocations + 1 }
  ExceptT.mk (pure (answerPort w.allocations r script.ports[w.allocations]?))

def subnet (id : String) : Call Rehearsal ApiError Subnet := do
  let script ← askNetwork "subnet" (.network "subnet" id)
  match script.subnets.find? (·.id == id) with
  | some s => return s
  | none => throw (.api 404 ("Subnet " ++ id ++ " could not be found."))

def networkAnswers : Network Rehearsal where
  allocatePort := allocatePort
  releasePort id := do
    let _ ← askNetwork "release_port" (.network "release_port" id)
  floatingIps id := do
    let script ← askNetwork "floating_ips" (.network "floating_ips" id)
    return (Dictionary.get? script.floatingIps id).getD []
  subnet := subnet
  networkSubnets id := do
    let script ← askNetwork "network_subnets" (.network "network_subnets" id)
    return script.subnets.filter (·.networkId == id)

/-! ## The catalog -/

def catalogAnswers : Catalog Rehearsal where
  loadBalancerIds filters := do
    note (.list filters)
    let script := (← get).catalog
    match script.listError with
    | some e => throw (.api e)
    | none => return script.ids
  loadBalancer id := do
    note (.get id)
    let script := (← get).catalog
    match Dictionary.get? script.errors id, Dictionary.get? script.balancers id with
    | some e, _ => throw (.api e)
    | none, some lb => return lb
    | none, none => throw (.api (.api 404 ("load balancer " ++ id ++ " not found")))

/-! ## The disk -/

/-- Why nothing can be read at a path of a disk that holds one empty folder, its root. The first
name of a path decides, since no name is known; a path without names is the folder itself. -/
def whyUnreadable (path : String) : String :=
  let names := (path.splitOn "/").filter fun s ↦ s != "" && s != "." && s != ".."
  if path.contains '\x00' then "file name contained an unexpected NUL byte"
  else if path == "" then "No such file or directory (os error 2)"
  else if path.utf8ByteSize ≥ 4096 then "File name too long (os error 36)"
  else match names with
    | [] => "Is a directory (os error 21)"
    | s :: _ =>
      if s.utf8ByteSize > 255 then "File name too long (os error 36)"
      else "No such file or directory (os error 2)"

def readDisk (path : String) : Except String (List Char) :=
  .error (whyUnreadable path)

end Rehearsal

end BalancerSync
