import BalancerSync.Cli.Applier
import BalancerSync.Cli.Arguments
import BalancerSync.Cli.Run

/-!
# The program

Reads the command line, the configuration and the record of the backend, runs, and writes the
requests. It has no network: every exchange with an API fails.
-/

namespace BalancerSync.Main

open Cli

def programName : String := "ovnlb-db-sync"

def usage : String :=
  "Usage: " ++ programName ++ " [--debug] [-c PATH] [--completions SHELL] [KEY=VALUE]...\n\n"
    ++ "Sync OVN load balancer state with the load-balancing API.\n"
    ++ "Filters are forwarded verbatim to the list call."

def version : String := programName ++ " 0.1.0"

/-- A transport without servers. -/
def offline {σ : Type} : Http.Transport σ := fun _ s ↦ (.error "no connection", s)

/-- The bytes of a file, or why they cannot be read. -/
def readFile (path : String) : IO (Except String ByteArray) := do
  try
    return .ok (← IO.FS.readBinFile path)
  catch e => return .error (toString e)

def readText (path : String) : IO (Except String (List Char)) := do
  return (← readFile path).map fun bytes ↦ Text.readUtf8 bytes.toList

/-- Those of some environment variables that are set. -/
def readVariables (names : List String) : IO (List (String × String)) :=
  names.filterMapM fun name ↦ do return (← IO.getEnv name).map (name, ·)

/-- Where the configuration file is if it is not named. -/
def defaultConfigPath : IO String := do
  match ← IO.getEnv "XDG_CONFIG_HOME" with
  | some folder => return folder ++ "/" ++ Config.defaultPath
  | none => return (← IO.getEnv "HOME").getD "." ++ "/.config/" ++ Config.defaultPath

def loadConfig (named : Option String) (environment : List (String × String)) :
    IO (Except ConfigError Config) := do
  let path ← match named with
    | some path => pure path
    | none => defaultConfigPath
  match ← readFile path, named with
  | .error _, some _ => return .error (.missing path)
  | .error _, none => return Config.load none environment
  | .ok bytes, _ =>
    match String.fromUTF8? bytes with
    | some text => return Config.load (some text) environment
    | none => return .error (.unreadable "invalid file")

/-- The store with the record in a file, if one is named. -/
def loadStore : Option String → IO (Except Failure Store)
  | none => return makeStore none
  | some path => do
    match ← readFile path with
    | .ok bytes => return makeStore (some (path, bytes))
    | .error reason => return .error (.snapshot (path ++ ": " ++ reason))

/-- The clients that the configuration describes. -/
def loadClients (c : Config) : IO (Except Failure Clients) := do
  let environment ← readVariables ([c.catalog, c.network].filterMap Endpoint.tokenVariable)
  let bundle ← match c.trust with
    | .bundle path => readText path
    | _ => pure (.ok [])
  return Clients.make c environment fun _ ↦ bundle

/-- Runs as the configuration says, writes the requests, and says how it ended. -/
def runWith (c : Config) (filters : Filters) : IO (Except Failure Unit) := do
  match ← loadClients c with
  | .error e => return .error e
  | .ok clients =>
    match ← loadStore c.snapshot with
    | .error e => return .error e
    | .ok store =>
      let outcome := run clients offline c.driver store filters
      let stdout ← IO.getStdout
      let _ ← writeLines (fun bytes ↦ stdout.write ⟨bytes.toArray⟩) stdout.flush outcome.requests
      return (outcome.result.mapError Failure.ofDriver).map fun _ ↦ ()

/-- Says how a run failed. -/
def report (e : Failure) : IO Unit := do
  IO.eprintln ((e.code.map (· ++ ": ")).getD "" ++ e.message)
  if let some help := e.help then IO.eprintln help

def start (a : Arguments) : IO UInt32 := do
  if a.completions.isSome then
    IO.eprintln "no completions are available"
    return 1
  let named ← match a.config with
    | some path => pure (some path)
    | none => IO.getEnv "OVNLB_CONFIG_FILE"
  match ← loadConfig named (← readVariables Config.variableNames) with
  | .error e =>
    report (.ofConfig e)
    return (Failure.ofConfig e).exitCode
  | .ok c =>
    match ← runWith c (parseFilters a.words) with
    | .error e =>
      report e
      return e.exitCode
    | .ok () => return 0

end BalancerSync.Main

def main (args : List String) : IO UInt32 := do
  match BalancerSync.Cli.Arguments.read args with
  | .ok a => BalancerSync.Main.start a
  | .error .help =>
    IO.println BalancerSync.Main.usage
    return 0
  | .error .version =>
    IO.println BalancerSync.Main.version
    return 0
  | .error _ =>
    IO.eprintln BalancerSync.Main.usage
    return BalancerSync.Cli.usageExitCode
