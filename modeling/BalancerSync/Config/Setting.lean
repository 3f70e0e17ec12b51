import BalancerSync.Dictionary

/-!
# Settings

What a configuration says before it is known what it is for. Sources of settings are laid over each
other: a later one wins, but tables are merged key by key.
-/

namespace BalancerSync

inductive Setting
  | text (s : String)
  | bool (b : Bool)
  | integer (n : Int)
  /-- Any other number. Nothing is set by one, so its value does not matter. -/
  | float
  | array (items : List Setting)
  | table (fields : List (String × Setting))
  deriving BEq, Repr, Inhabited

namespace Setting

def asText? : Setting → Option String
  | text s => some s
  | _ => none

def asBool? : Setting → Option Bool
  | bool b => some b
  | _ => none

/-- A whole number below the bound. -/
def asNat? (bound : Nat) : Setting → Option Nat
  | integer n => if 0 ≤ n ∧ n.toNat < bound then some n.toNat else none
  | _ => none

/-! ## Merging -/

mutual

/-- The second setting laid over the first one. -/
def overlay (older : Setting) : Setting → Setting
  | table fields =>
    match older with
    | table olderFields => table (mergeFields olderFields fields)
    | _ => table fields
  | newer => newer

/-- Lays fields over those of another table, one after the other. -/
def mergeFields (older : List (String × Setting)) :
    List (String × Setting) → List (String × Setting)
  | [] => older
  | (key, newer) :: rest =>
    let merged :=
      match Dictionary.get? older key with
      | some s => overlay s newer
      | none => newer
    mergeFields (Dictionary.insert older key merged) rest

end

/-- A setting inside tables, the outermost first. -/
def nest (path : List String) (s : Setting) : Setting :=
  path.foldr (fun key s ↦ table [(key, s)]) s

end Setting

end BalancerSync
