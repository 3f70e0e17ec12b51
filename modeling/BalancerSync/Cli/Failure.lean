import BalancerSync.Config.Basic
import BalancerSync.Text.Uppercase

/-!
# How a run fails

A failure says what went wrong, and may have a code to look it up by and advice. Each kind has its
exit code, so that scripts can tell them apart.
-/

namespace BalancerSync.Cli

inductive Failure
  | config (e : ConfigError)
  /-- There is no token for a service. -/
  | noCredentials (service : String)
  | snapshot (detail : String)
  | tls (detail : String)
  | authFailed (detail : String)
  | api (detail : String)
  | sync (detail : String)
  | io (detail : String)
  deriving DecidableEq, Repr

namespace Failure

/-! ## Causes -/

def ofConfig : ConfigError → Failure
  | .noCredentials service => noCredentials service
  | e => config e

def ofApi : ApiError → Failure
  | .tls detail => tls detail
  | .invalidToken => authFailed ApiError.invalidToken.message
  | e => api e.message

/-- A response that the token is no good is one about the token, even if it has another form. -/
def ofDriver : DriverError → Failure
  | .snapshot detail => snapshot detail
  | .api e => if e.status = some 401 then authFailed e.message else api e.message
  | e => sync e.message

/-! ## Texts -/

def message : Failure → String
  | config e => e.message
  | noCredentials service => "No token configured for " ++ service
  | snapshot detail => "Invalid backend snapshot: " ++ detail
  | tls detail => "TLS setup failed: " ++ detail
  | authFailed detail => "Authentication failed: " ++ detail
  | api detail => "API error: " ++ detail
  | sync detail => "Sync aborted: " ++ detail
  | io detail => detail

def code : Failure → Option String
  | config _ => some "ovnlb::config"
  | noCredentials _ => some "ovnlb::no_credentials"
  | snapshot _ => some "ovnlb::snapshot"
  | tls _ => some "ovnlb::tls_error"
  | authFailed _ => some "ovnlb::auth_failed"
  | api _ => some "ovnlb::api_error"
  | sync _ => some "ovnlb::sync"
  | io _ => none

/-- The environment variable that sets the token of a service. -/
def tokenVariable (service : String) : String :=
  Environment.mark ++ Text.upper service ++ "__TOKEN"

def help : Failure → Option String
  | config _ => some "Error parsing the configuration values. Please verify."
  | noCredentials service => some ("Set [" ++ service
      ++ "].token_env to an environment variable holding the token,\n"
      ++ "store it in the system keyring as ovnlb/" ++ service ++ "/token,\n"
      ++ "or set " ++ tokenVariable service ++ ".")
  | snapshot _ => some "Check [backend].snapshot points at a JSON dump of the backend tables."
  | tls _ =>
    some "Configure [sync].ca_cert, or set [sync].insecure for self-signed lab endpoints."
  | authFailed _ => some "Verify the upstream and network tokens are valid and not expired."
  | api _ | sync _ | io _ => none

def exitCode : Failure → UInt32
  | config _ | snapshot _ => 2
  | noCredentials _ | authFailed _ => 3
  | tls _ => 7
  | api _ | sync _ | io _ => 1

end Failure

/-- The exit code for options that are wrong. -/
def usageExitCode : UInt32 := 2

end BalancerSync.Cli
