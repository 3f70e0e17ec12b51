import BalancerSync.Config.Environment
import BalancerSync.Driver.Basic
import BalancerSync.Toml.Document
import BalancerSync.Url.Basic

/-!
# Configuration

Defaults, a file and the environment are laid over each other in this order, and what results is
read as the configuration. It says where the two APIs are, how to be let in, where the record of the
backend is, and how to synchronize.
-/

namespace BalancerSync

/-! ## Errors -/

inductive ConfigError
  | invalid (field reason : String)
  /-- It is not said where a service is. -/
  | noEndpoint (service : String)
  /-- There is no token for a service. -/
  | noCredentials (service : String)
  /-- The file that was asked for is not there. -/
  | missing (path : String)
  /-- The settings cannot be read or are not of the right kinds. -/
  | unreadable (detail : String)
  deriving DecidableEq, Repr

def ConfigError.message : ConfigError → String
  | invalid field reason => "invalid " ++ field ++ ": " ++ reason
  | noEndpoint service => "no " ++ service ++ " URL configured"
  | noCredentials service => "no token configured for " ++ service
  | missing path => "config file not found: " ++ path
  | unreadable detail => "config loading failed: " ++ detail

/-! ## Types -/

/-- The two APIs. -/
inductive Service
  | catalog
  | network
  deriving DecidableEq, Repr

def Service.name : Service → String
  | catalog => "upstream"
  | network => "network"

/-- Where a service is, and how to be let in. -/
structure Endpoint where
  url : Option String
  token : Option String
  /-- The environment variable that holds the token. -/
  tokenVariable : Option String
  deriving DecidableEq, Repr

/-- Which peers are believed to be who they say they are. -/
inductive Trust
  /-- Those with a certificate from an authority that the system knows. -/
  | system
  /-- Those with a certificate from the authority in this file. -/
  | bundle (path : String)
  | everyone
  deriving DecidableEq, Repr

structure SyncSettings where
  lookupAttempts : UInt32
  /-- How many seconds an exchange may take. -/
  timeout : UInt64
  insecure : Bool
  caBundle : Option String
  deriving DecidableEq, Repr

structure Config where
  catalog : Endpoint
  network : Endpoint
  /-- The file with the record of the backend. -/
  snapshot : Option String
  sync : SyncSettings
  deriving DecidableEq, Repr

/-! ## From settings -/

namespace Config

/-- Finds the settings of a section, which is a table or an array of all of them in order. -/
def section? (names : List String) : Setting → Option (String → Option Setting)
  | .table fields => some (Dictionary.get? fields)
  | .array items =>
    if names.length ≤ items.length then some fun name ↦ items[names.idxOf name]? else none
  | _ => none

/-- A text that may be left out. -/
def text? : Option Setting → Option (Option String)
  | none => some none
  | some s => s.asText?.map some

/-- A setting with a default. -/
def orDefault {α : Type} (a : α) (f : Setting → Option α) : Option Setting → Option α
  | none => some a
  | some s => f s

end Config

/-- The section of a service. -/
def Endpoint.ofSetting? (s : Setting) : Option Endpoint := do
  let get ← Config.section? ["url", "token", "token_env"] s
  return ⟨← Config.text? (get "url"), ← Config.text? (get "token"),
    ← Config.text? (get "token_env")⟩

namespace SyncSettings

def default : SyncSettings := ⟨DriverConfig.default.lookupAttempts, 30, false, none⟩

def ofSetting? (s : Setting) : Option SyncSettings := do
  let get ← Config.section? ["lookup_attempts", "timeout", "insecure", "ca_cert"] s
  let attempts ← Config.orDefault default.lookupAttempts.toNat (Setting.asNat? UInt32.size)
    (get "lookup_attempts")
  let timeout ← Config.orDefault default.timeout.toNat (Setting.asNat? UInt64.size) (get "timeout")
  return ⟨UInt32.ofNat attempts, UInt64.ofNat timeout,
    ← Config.orDefault default.insecure Setting.asBool? (get "insecure"),
    ← Config.text? (get "ca_cert")⟩

end SyncSettings

namespace Config

def ofSetting? (s : Setting) : Option Config := do
  let get ← section? ["upstream", "network", "backend", "sync"] s
  let endpoint := fun key ↦ orDefault ⟨none, none, none⟩ Endpoint.ofSetting? (get key)
  let snapshot := fun s ↦ do text? ((← section? ["snapshot"] s) "snapshot")
  return ⟨← endpoint "upstream", ← endpoint "network", ← orDefault none snapshot (get "backend"),
    ← orDefault .default SyncSettings.ofSetting? (get "sync")⟩

/-- The configuration in the text of a file, if there is one, and some environment variables. -/
def load (file : Option String) (environment : List (String × String)) :
    Except ConfigError Config := do
  let settings ← match file.elim (some (.table [])) Toml.read? with
    | some s => pure s
    | none => throw (.unreadable "invalid file")
  match ofSetting? (settings.overlay (Environment.settings environment)) with
  | none => throw (.unreadable "invalid settings")
  | some c =>
    if c.sync.lookupAttempts = 0 then throw (.invalid "sync.lookup_attempts" "must be at least 1")
    else return c

def endpoint (c : Config) : Service → Endpoint
  | .catalog => c.catalog
  | .network => c.network

def driver (c : Config) : DriverConfig := ⟨c.sync.lookupAttempts⟩

/-- Whom to trust. Trusting everyone goes over a bundle. -/
def trust (c : Config) : Trust :=
  if c.sync.insecure then .everyone
  else
    match c.sync.caBundle with
    | some path => .bundle path
    | none => .system

/-- The environment variables that stand for a setting of this configuration. -/
def variableNames : List String :=
  let names := fun (part : String) (keys : List String) ↦
    keys.map fun key ↦ Environment.mark ++ part ++ "__" ++ key
  names "UPSTREAM" ["URL", "TOKEN", "TOKEN_ENV"] ++ names "NETWORK" ["URL", "TOKEN", "TOKEN_ENV"]
    ++ names "BACKEND" ["SNAPSHOT"]
    ++ names "SYNC" ["LOOKUP_ATTEMPTS", "TIMEOUT", "INSECURE", "CA_CERT"]

/-- Where the file is below the folder for configuration files, if it is not named. -/
def defaultPath : String := "ovnlb/config.toml"

end Config

/-! ## Endpoints -/

namespace Endpoint

def readUrl (e : Endpoint) (service : Service) : Except ConfigError Url :=
  match e.url with
  | none => .error (.noEndpoint service.name)
  | some raw =>
    match Url.read raw with
    | .ok url => .ok url
    | .error _ => .error (.invalid (service.name ++ ".url") ("invalid URL: " ++ raw))

/-- The token in the variable that is named for it, else the one that is given. -/
def findToken (e : Endpoint) (environment : List (String × String)) (service : Service) :
    Except ConfigError String :=
  match (e.tokenVariable.bind (Dictionary.get? environment)).or e.token with
  | some token => .ok token
  | none => .error (.noCredentials service.name)

end Endpoint

end BalancerSync
