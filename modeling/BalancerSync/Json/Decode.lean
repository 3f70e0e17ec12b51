import BalancerSync.Json.Value

/-!
# Typed reading of JSON trees

A record may be written as an object or as the array of its fields in their order. A reader of a
field is given the tree at that place, or nothing if the field is left out.
-/

namespace BalancerSync.Json.Tree

variable {α : Type}

def asText? : Tree → Option String
  | .text t => t
  | _ => none

def asBool? : Tree → Option Bool
  | .bool b => some b
  | _ => none

/-- A number below the bound, written as an integer. -/
def asNat? (bound : Nat) : Tree → Option Nat
  | .number n => n.integer?.bind fun i ↦ if 0 ≤ i ∧ i.toNat < bound then some i.toNat else none
  | _ => none

def asUInt8? (t : Tree) : Option UInt8 := (asNat? UInt8.size t).map UInt8.ofNat

def asUInt16? (t : Tree) : Option UInt16 := (asNat? UInt16.size t).map UInt16.ofNat

def asUInt32? (t : Tree) : Option UInt32 := (asNat? UInt32.size t).map UInt32.ofNat

def asUInt64? (t : Tree) : Option UInt64 := (asNat? UInt64.size t).map UInt64.ofNat

def asList? (f : Tree → Option α) : Tree → Option (List α)
  | .array items => items.mapM f
  | _ => none

/-- Text by text keys. The last of several values of a key counts, at the place of the first. -/
def asTextMap? : Tree → Option (List (String × String))
  | .object fields =>
    fields.foldlM (fun acc (k, t) ↦ do return Dictionary.insert acc (← k) (← t.asText?)) []
  | _ => none

/-- The name of a constant, alone or as the only key of an object with the value null. -/
def asName? : Tree → Option String
  | .text t => t
  | .object [(k, .null)] => k
  | _ => none

/-! ## Records -/

/-- Finds the fields of a record with these field names. Keys that are not among the names are
passed over; those that are must not occur twice. An array must not have surplus items. -/
def record? (names : List String) : Tree → Option (String → Option Tree)
  | .object fields =>
    if fields.all (·.1.isSome) ∧ names.all fun n ↦ fields.countP (·.1 == some n) ≤ 1 then
      some fun n ↦ (fields.find? (·.1 == some n)).map (·.2)
    else none
  | .array items =>
    if items.length ≤ names.length then some fun n ↦ items[names.idxOf n]? else none
  | _ => none

/-- A field that must be there. -/
def required (f : Tree → Option α) : Option Tree → Option α
  | some t => f t
  | none => none

/-- A field that may be left out or null. -/
def optional (f : Tree → Option α) : Option Tree → Option (Option α)
  | none => some none
  | some .null => some none
  | some t => (f t).map some

/-- A field that may be left out but not null. -/
def defaulting (a : α) (f : Tree → Option α) : Option Tree → Option α
  | none => some a
  | some t => f t

end BalancerSync.Json.Tree
