import BalancerSync.Entity.Kind

/-!
# Errors

What can go wrong, by its cause: a call of one of the two APIs fails, the backend gives no answer,
or the driver refuses or cannot finish an operation. The wording of each cause is in its `message`.
-/

namespace BalancerSync

/-! ## API errors -/

inductive ApiError
  /-- The API rejected the token. -/
  | invalidToken
  /-- There was no whole response. -/
  | transport (detail : String)
  | invalidUrl (detail : String)
  | tls (detail : String)
  /-- A response other than a success, with the message in its body. -/
  | api (status : Nat) (text : String)
  /-- The body of a success is not what it should be. -/
  | deserialization (detail body : String)
  deriving DecidableEq, Repr

namespace ApiError

def message : ApiError → String
  | invalidToken => "Invalid or expired auth token"
  | transport detail => "HTTP transport error: " ++ detail
  | invalidUrl detail => "Invalid URL: " ++ detail
  | tls detail => "TLS error: " ++ detail
  | api status text => "API error (HTTP " ++ toString status ++ "): " ++ text
  | deserialization detail _ => "Deserialization error: " ++ detail

def isNotFound : ApiError → Bool
  | api 404 _ => true
  | _ => false

/-- The message that the API sent, if it sent one. -/
def apiMessage : ApiError → Option String
  | api _ text => if text = "" then none else some text
  | _ => none

/-- The status of the response behind the error. -/
def status : ApiError → Option Nat
  | api status _ => some status
  | invalidToken => some 401
  | _ => none

end ApiError

/-! ## Backend errors -/

inductive BackendError
  /-- The row is not visible; it may appear when a running transaction is done. -/
  | rowNotFound (table id : String)
  | unavailable (detail : String)
  deriving DecidableEq, Repr

namespace BackendError

def message : BackendError → String
  | rowNotFound table id => table ++ " row '" ++ id ++ "' not found"
  | unavailable detail => "backend unavailable: " ++ detail

def isRowNotFound : BackendError → Bool
  | rowNotFound .. => true
  | unavailable _ => false

def balancerNotFound (id : String) : BackendError := rowNotFound "Load_Balancer" id

end BackendError

/-! ## Refused options -/

/-- What a member's subnet was needed for. -/
inductive MemberAction
  | creation
  | deletion
  | batchUpdate
  deriving DecidableEq, Repr

namespace MemberAction

def all : List MemberAction := [creation, deletion, batchUpdate]

def name : MemberAction → String
  | creation => "creation"
  | deletion => "deletion"
  | batchUpdate => "batch update"

end MemberAction

/-- Why the backend cannot do what is asked. Option values are `none` if there are none. -/
inductive Refusal
  | failover
  | protocol (value : Option String)
  | algorithm (value : Option String)
  | persistence (kind : String)
  | allowedCidrs
  | memberMonitor
  | batchMonitor
  | healthChecks
  | probeMissing
  | probe (value : Option String)
  | subnetRequired (action : MemberAction)
  /-- Any other reason. -/
  | other (text : String)
  deriving DecidableEq, Repr

namespace Refusal

/-- How a refused option value is shown. -/
def shown (value : Option String) : String := value.getD "None"

def message : Refusal → String
  | failover => "OVN provider does not support loadbalancer failover"
  | protocol v => "OVN provider does not support " ++ shown v ++ " protocol"
  | algorithm v => "OVN provider does not support " ++ shown v ++ " algorithm"
  | persistence kind => "OVN provider does not support " ++ kind
      ++ " session persistence. Only SOURCE_IP type is supported."
  | allowedCidrs => "OVN provider does not support allowed_cidrs option"
  | memberMonitor =>
    "OVN Load Balancer does not support different member monitor address or port."
  | batchMonitor => "OVN provider does not support monitor options"
  | healthChecks => "OVN Load Balancer supports Health Check provider from version 2.12. "
      ++ "Upgrade OVN in order to use it."
  | probeMissing => "OVN provider health monitor type not specified."
  | probe v => "OVN provider does not support " ++ shown v
      ++ " health monitor type. Supported types: " ++ ", ".intercalate (Probe.all.map Probe.name)
  | subnetRequired action => "Subnet is required, or Loadbalancer associated with Pool must have "
      ++ "a subnet, for Member " ++ action.name
      ++ " with OVN Provider Driver if it is not the same as LB VIP subnet"
  | other text => text

end Refusal

/-! ## Driver errors -/

inductive DriverError
  /-- The backend cannot express an option. -/
  | unsupported (why : Refusal)
  /-- A member's address is of another family than the addresses of its load balancer. -/
  | ipVersionMixing
  /-- A port could not be provided. -/
  | provisioning (text : String)
  | backend (e : BackendError)
  | api (e : ApiError)
  /-- Nobody takes change requests any more. -/
  | applierClosed
  | snapshot (text : String)
  deriving DecidableEq, Repr

namespace DriverError

def message : DriverError → String
  | unsupported why => why.message
  | ipVersionMixing => "OVN provider does not support mixing IPv4/IPv6 configuration within the "
      ++ "same Load Balancer."
  | provisioning text => text
  | backend e => "Backend error: " ++ e.message
  | api e => "API error: " ++ e.message
  | applierClosed => "Change request applier is closed"
  | snapshot text => "Invalid backend snapshot: " ++ text

/-- Whether the request itself is at fault. -/
def isUserFault : DriverError → Bool
  | unsupported _ | ipVersionMixing => true
  | _ => false

/-- What is said of a provisioning failure that says nothing itself. -/
def unknownFailure : String := "An unknown driver error occurred."

end DriverError

end BalancerSync
