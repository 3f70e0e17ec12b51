import BalancerSync.Entity.Graph
import BalancerSync.Http.Client

/-!
# The load-balancing API

Lists load balancers and fetches each with all of its children.
-/

namespace BalancerSync.Http

open Json

variable {σ : Type}

/-- A line of the listing. -/
structure Summary where
  id : String
  name : Option String
  projectId : Option String
  provider : Option String
  deriving DecidableEq, Repr

def Summary.read? (t : Tree) : Option Summary := do
  let r ← t.record? ["id", "name", "project_id", "provider"]
  return {
    id := ← Tree.required Tree.asText? (r "id")
    name := ← Tree.optional Tree.asText? (r "name")
    projectId := ← Tree.optional Tree.asText? (r "project_id")
    provider := ← Tree.optional Tree.asText? (r "provider") }

/-- What is in the only field of a record. -/
def enveloped? {α : Type} (name : String) (f : Tree → Option α) (t : Tree) : Option α := do
  let r ← t.record? [name]
  Tree.required f (r name)

namespace CatalogClient

variable (c : Client) (transport : Transport σ)

def folder : String := "v2/lbaas/loadbalancers"

/-- The listing, restricted by filters. -/
def list (filters : Filters) : Call σ ApiError (List Summary) :=
  c.exchange transport (receive (enveloped? "loadbalancers" (Tree.asList? Summary.read?))) .get
    folder filters none

def graph (id : String) : Call σ ApiError LoadBalancer :=
  c.exchange transport (receive (enveloped? "loadbalancer" LoadBalancer.read?)) .get
    (folder ++ "/" ++ id ++ "/graph") [] none

/-- A failure of the API as the driver sees it. -/
def driverCall {α : Type} (call : Call σ ApiError α) : Call σ DriverError α := fun s ↦
  let (answer, s) := call s
  (answer.mapError .api, s)

/-- The API as the driver asks it. -/
def catalog : Catalog σ where
  loadBalancerIds filters :=
    driverCall do return (← list c transport filters).map Summary.id
  loadBalancer id := driverCall (graph c transport id)

end CatalogClient

end BalancerSync.Http
