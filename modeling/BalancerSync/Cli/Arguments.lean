import BalancerSync.Dictionary
import BalancerSync.Text.Split

/-!
# The command line

Options come first. The first word that is not one starts the filters, and whatever follows is a
filter too, however it looks. A filter is a key and a value with an equals sign between them.
-/

namespace BalancerSync.Cli

open Text

inductive Shell
  | bash | elvish | fish | powershell | zsh
  deriving DecidableEq, Repr

namespace Shell

def all : List Shell := [bash, elvish, fish, powershell, zsh]

def name : Shell → String
  | bash => "bash"
  | elvish => "elvish"
  | fish => "fish"
  | powershell => "powershell"
  | zsh => "zsh"

end Shell

/-- What the command line says. -/
structure Arguments where
  debug : Bool
  config : Option String
  completions : Option Shell
  words : List String
  deriving DecidableEq, Repr

/-- Why there is nothing to run: help or the version is asked for, or the options are wrong. -/
inductive Stop
  | help
  | version
  /-- An option occurs twice. -/
  | repeated
  /-- A value is missing or wrong. -/
  | badValue
  /-- A flag has a value. -/
  | surplusValue
  deriving DecidableEq, Repr

/-! ## Words -/

/-- An option that takes a value. -/
inductive Slot
  | config
  | completions
  deriving DecidableEq, Repr

inductive Flag
  | debug
  | help
  | version
  deriving DecidableEq, Repr

/-- What a word on the command line is, as long as there was no filter. -/
inductive Word
  /-- The rest are filters. -/
  | escape
  | flag (f : Flag) (attached : Option String)
  | slot (s : Slot) (attached : Option String)
  | other
  deriving DecidableEq, Repr

/-- A long option, whose value may follow an equals sign. -/
def longWord (cs : List Char) : Word :=
  let (name, attached) :=
    match cut '=' cs with
    | some (name, value) => (name, some (String.ofList value))
    | none => (cs, none)
  match String.ofList name with
  | "debug" => .flag .debug attached
  | "help" => .flag .help attached
  | "version" => .flag .version attached
  | "config" => .slot .config attached
  | "completions" => .slot .completions attached
  | _ => .other

/-- Short options in one word. If any letter is not one, neither is the word. -/
def shortWord (cs : List Char) : Word :=
  if !cs.all ['c', 'h', 'V'].contains then .other
  else
    match cs with
    | 'c' :: [] => .slot .config none
    | 'c' :: value => .slot .config (some (String.ofList value))
    | 'h' :: _ => .flag .help none
    | 'V' :: _ => .flag .version none
    | _ => .other

def classify (word : String) : Word :=
  match word.toList with
  | ['-', '-'] => .escape
  | '-' :: '-' :: cs => longWord cs
  | '-' :: cs => shortWord cs
  | _ => .other

/-! ## Reading -/

/-- What has been read, and an option whose value is not stored yet. -/
structure Progress where
  arguments : Arguments
  pending : Option (Slot × Option String)

namespace Progress

def start : Progress := ⟨⟨false, none, none, []⟩, none⟩

def store (a : Arguments) : Slot → Option String → Except Stop Arguments
  | _, none => .error .badValue
  | .config, some path =>
    if a.config.isSome then .error .repeated
    else if path = "" then .error .badValue
    else .ok { a with config := some path }
  | .completions, some name =>
    if a.completions.isSome then .error .repeated
    else
      match Shell.all.find? (·.name == name) with
      | some shell => .ok { a with completions := some shell }
      | none => .error .badValue

/-- Stores the value of the last option, which must be there by now. -/
def settle (p : Progress) : Except Stop Arguments :=
  match p.pending with
  | none => .ok p.arguments
  | some (slot, value) => store p.arguments slot value

def setFlag (a : Arguments) : Flag → Except Stop Arguments
  | .help => .error .help
  | .version => .error .version
  | .debug => if a.debug then .error .repeated else .ok { a with debug := true }

end Progress

/-- Reads words up to the first filter. -/
def readWords (p : Progress) : List String → Except Stop Arguments
  | [] => p.settle
  | w :: ws =>
    match classify w with
    | .escape => p.settle.map fun a ↦ { a with words := ws }
    | .flag _ (some _) => .error .surplusValue
    | .flag f none => do
      let a ← p.settle
      let a ← Progress.setFlag a f
      readWords ⟨a, none⟩ ws
    | .slot s (some value) => do
      let a ← p.settle
      let a ← Progress.store a s (some value)
      readWords ⟨a, none⟩ ws
    | .slot s none => do
      let a ← p.settle
      readWords ⟨a, some (s, none)⟩ ws
    | .other =>
      match p.pending with
      | some (s, none) => readWords { p with pending := some (s, some w) } ws
      | _ => p.settle.map fun a ↦ { a with words := w :: ws }

def Arguments.read (words : List String) : Except Stop Arguments := readWords .start words

/-! ## Filters -/

def debugWord : String := "--debug"

/-- Debugging may be asked for anywhere. -/
def Arguments.debugRequested (a : Arguments) : Bool := a.debug || a.words.contains debugWord

/-- The key and value of a filter. -/
def filter? (word : String) : Option (String × String) :=
  (cut '=' word.toList).map fun (k, v) ↦ (String.ofList k, String.ofList v)

/-- The filters among some words. The last value of a key counts, at the place of the first. -/
def parseFilters (words : List String) : List (String × String) :=
  Dictionary.ofList (words.filterMap filter?)

end BalancerSync.Cli
