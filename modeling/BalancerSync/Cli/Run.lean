import BalancerSync.Cli.Failure
import BalancerSync.Driver.Sync
import BalancerSync.Http.NetworkClient
import BalancerSync.Store.Basic

/-!
# A run

A run makes the clients of both APIs, fills a store with the record of the backend, and synchronises
every load balancer that passes the filters. The requests that it sends are its output, one on each
line, also if it fails half-way.
-/

namespace BalancerSync.Cli

open Http

/-- The clients of the two APIs. -/
structure Clients where
  catalog : Client
  network : Client
  deriving DecidableEq, Repr

/-- The client of a service, with its token from the configuration or the environment. -/
def makeClient (c : Config) (environment : List (String × String))
    (bundle : String → Except String (List Char)) (service : Service) : Except Failure Client := do
  let endpoint := c.endpoint service
  let url ← (endpoint.readUrl service).mapError Failure.ofConfig
  let token ← (endpoint.findToken environment service).mapError Failure.ofConfig
  (Client.create c.trust bundle url token).mapError Failure.ofApi

def Clients.make (c : Config) (environment : List (String × String))
    (bundle : String → Except String (List Char)) : Except Failure Clients := do
  return ⟨← makeClient c environment bundle .catalog, ← makeClient c environment bundle .network⟩

/-- The store with the record in the bytes of a file. Without a file it is empty. -/
def makeStore (file : Option (String × ByteArray)) : Except Failure Store :=
  match file with
  | none => .ok .empty
  | some (path, bytes) =>
    match Snapshot.ofBytes? bytes with
    | some s => .ok (.ofSnapshot s)
    | none => .error (.snapshot (path ++ ": not a snapshot"))

/-- How a run ended, and the requests that it sent. -/
structure RunOutcome where
  result : Except DriverError SyncReport
  requests : List ChangeRequest

/-- The driver over the clients and a store, which servers that can be reached have no part in. -/
def driver (clients : Clients) (transport : Transport Store) (c : DriverConfig) : Driver Store :=
  ⟨Store.backend, NetworkClient.network clients.network transport,
    CatalogClient.catalog clients.catalog transport, c⟩

def run (clients : Clients) (transport : Transport Store) (c : DriverConfig) (store : Store)
    (filters : Filters) : RunOutcome :=
  let (result, s) := (driver clients transport c).sync filters (.start store)
  ⟨result, s.emitted⟩

/-- The lines of a run. -/
def RunOutcome.output (o : RunOutcome) : String := ChangeRequest.renderLines o.requests

end BalancerSync.Cli
