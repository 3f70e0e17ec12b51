import BalancerSync.Dictionary
import BalancerSync.Json.Tree

/-!
# JSON values

A value that the program keeps. Fields have an order and each key occurs once.
-/

namespace BalancerSync.Json

/-- A number is an integer if it was written as one, else a double, given by its bits. -/
inductive Number
  | integer (n : Int)
  | float (bits : UInt64)
  deriving DecidableEq, Repr

inductive Value
  | null
  | bool (b : Bool)
  | number (n : Number)
  | text (s : String)
  | array (items : List Value)
  | object (fields : List (String × Value))
  deriving BEq, Repr, Inhabited

def Literal.number? (l : Literal) : Option Number :=
  match l.integer? with
  | some n => some (.integer n)
  | none => l.float?.map fun x ↦ .float x.toBits

namespace Value

def ofNat (n : Nat) : Value := .number (.integer n)

def ofOption {α : Type} (f : α → Value) : Option α → Value
  | none => .null
  | some a => f a

def asText? : Value → Option String
  | .text s => some s
  | _ => none

end Value

namespace Tree

mutual

/-- The value of a tree in which containers are nested fewer than `depth` deep, every string is
one, and no number overflows. -/
def toValue? (depth : Nat) : Tree → Option Value
  | .null => some .null
  | .bool b => some (.bool b)
  | .number n => n.number?.map .number
  | .text t => t.map .text
  | .array items => if depth ≤ 1 then none else (toValues? (depth - 1) items).map .array
  | .object fields =>
    if depth ≤ 1 then none
    else (toFields? (depth - 1) fields).map fun fs ↦ .object (Dictionary.ofList fs)

def toValues? (depth : Nat) : List Tree → Option (List Value)
  | [] => some []
  | t :: ts => do
    let v ← toValue? depth t
    let vs ← toValues? depth ts
    return v :: vs

def toFields? (depth : Nat) : List (Option String × Tree) → Option (List (String × Value))
  | [] => some []
  | (k, t) :: fs => do
    let k ← k
    let v ← toValue? depth t
    let vs ← toFields? depth fs
    return (k, v) :: vs

end

end Tree

/-- How deep the containers of a kept value may be nested. -/
def depthLimit : Nat := 128

/-- Reads a text as a value. -/
def Value.read? (cs : List Char) : Option Value :=
  (Tree.read? cs).bind (Tree.toValue? depthLimit)

end BalancerSync.Json
