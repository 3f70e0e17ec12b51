import BalancerSync.Collaborator
import BalancerSync.Request.Build
import BalancerSync.Validation

/-!
# The driver

The driver turns operations on load-balancing objects into change requests. While it does so it
asks its collaborators, and all that it remembers is whether the backend has health checks. The
requests go to an applier, which may have been closed.
-/

namespace BalancerSync

open Json

variable {σ α ε : Type}

/-! ## Configuration -/

structure DriverConfig where
  /-- How often a look-up is tried that races a running transaction. -/
  lookupAttempts : UInt32
  deriving DecidableEq, Repr

namespace DriverConfig

def default : DriverConfig := ⟨3⟩

/-- A look-up is tried at least once. -/
def effectiveAttempts (c : DriverConfig) : UInt32 := max c.lookupAttempts 1

def ofTree? (t : Tree) : Option DriverConfig := do
  let r ← t.record? ["lookup_attempts"]
  return ⟨← Tree.required Tree.asUInt32? (r "lookup_attempts")⟩

def read? (cs : List Char) : Option DriverConfig := (Tree.read? cs).bind ofTree?

end DriverConfig

/-! ## Sessions and actions -/

/-- What an action of the driver can see and change: the world of its collaborators, the backend's
answer on health checks once there was one, and the requests that were sent. -/
structure Session (σ : Type) where
  world : σ
  healthChecks : Option Bool
  emitted : List ChangeRequest
  isOpen : Bool

/-- A fresh driver in this world. -/
def Session.start (world : σ) : Session σ := ⟨world, none, [], true⟩

/-- An action keeps what it did before it fails. -/
abbrev Act (σ α : Type) : Type := ExceptT DriverError (StateM (Session σ)) α

namespace Act

/-- Asks a collaborator. -/
def ask (wrap : ε → DriverError) (call : Call σ ε α) : Act σ α := fun s ↦
  let (answer, world) := call s.world
  (answer.mapError wrap, { s with world })

def askBackend (call : Call σ BackendError α) : Act σ α := ask .backend call

def askNetwork (call : Call σ ApiError α) : Act σ α := ask .api call

def askCatalog (call : Call σ DriverError α) : Act σ α := ask id call

/-- Runs an action, and returns its error if it fails. -/
def observe (act : Act σ α) : Act σ (Except DriverError α) := fun s ↦
  let (answer, s) := act s
  (.ok answer, s)

/-- A check that asks nobody. -/
def check (result : Except DriverError α) : Act σ α := fun s ↦ (result, s)

/-- Sends a request to the applier. -/
def emit (r : ChangeRequest) : Act σ Unit := fun s ↦
  if s.isOpen then (.ok (), { s with emitted := s.emitted ++ [r] })
  else (.error .applierClosed, s)

/-- Sends requests in order. -/
def submit (rs : List ChangeRequest) : Act σ Unit := rs.forM emit

end Act

/-! ## Drivers -/

structure Driver (σ : Type) where
  backend : Backend σ
  network : Network σ
  catalog : Catalog σ
  config : DriverConfig

namespace Driver

variable (d : Driver σ)

/-- Whether the backend has health checks. The first answer is kept; a failure is not. -/
def healthChecksSupported : Act σ Bool := do
  match (← get).healthChecks with
  | some known => return known
  | none =>
    let answer ← Act.askBackend d.backend.supportsHealthChecks
    modify fun s ↦ { s with healthChecks := some answer }
    return answer

end Driver

end BalancerSync
