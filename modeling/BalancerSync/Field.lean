import BalancerSync.Json.Decode

/-!
# Three-state attributes

A caller may leave an attribute out, clear it, or give it a value. Creation substitutes defaults
for what is left out, updates leave it alone.
-/

namespace BalancerSync

open Json

inductive Field (α : Type)
  | unset
  | null
  | value (a : α)
  deriving DecidableEq, Repr

namespace Field

variable {α β : Type}

instance : Inhabited (Field α) := ⟨unset⟩

/-- Whether the caller said anything, be it null. -/
def isSet : Field α → Bool
  | unset => false
  | null | value _ => true

def asOption : Field α → Option α
  | value a => some a
  | unset | null => none

def map (f : α → β) : Field α → Field β
  | unset => unset
  | null => null
  | value a => value (f a)

/-- The value, or the default if it was left out. Null stays null. -/
def orDefault (default : α) : Field α → Option α
  | unset => some default
  | null => none
  | value a => some a

/-- The value if it is a text with characters in it. -/
def nonEmpty (f : Field String) : Option String :=
  f.asOption.filter (· != "")

/-- The children; none if the attribute has no value. -/
def items (f : Field (List α)) : List α :=
  f.asOption.getD []

/-- Null unless there is a value. -/
def toJson (f : α → Value) (x : Field α) : Value :=
  Value.ofOption f x.asOption

/-- Reads an attribute of a record: left out, null or a value. -/
def read (f : Tree → Option α) : Option Tree → Option (Field α)
  | none => some unset
  | some .null => some null
  | some t => (f t).map value

@[simp] theorem asOption_unset : (unset : Field α).asOption = none := rfl

@[simp] theorem asOption_null : (null : Field α).asOption = none := rfl

@[simp] theorem asOption_value (a : α) : (value a).asOption = some a := rfl

@[simp] theorem isSet_unset : (unset : Field α).isSet = false := rfl

@[simp] theorem isSet_null : (null : Field α).isSet = true := rfl

@[simp] theorem isSet_value (a : α) : (value a).isSet = true := rfl

@[simp] theorem items_unset : (unset : Field (List α)).items = [] := rfl

@[simp] theorem items_null : (null : Field (List α)).items = [] := rfl

@[simp] theorem items_value (l : List α) : (value l).items = l := rfl

end Field

end BalancerSync
