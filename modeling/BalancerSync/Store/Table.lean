/-!
# Tables

A table has one row for each key and keeps its rows in the order of their keys.
-/

namespace BalancerSync

structure Table (α : Type) where
  rows : List (String × α)
  deriving Repr

namespace Table

variable {α : Type}

instance : Inhabited (Table α) := ⟨⟨[]⟩⟩

def empty : Table α := ⟨[]⟩

/-- Puts a row in its place, instead of the one with its key. -/
def insertRow (key : String) (a : α) : List (String × α) → List (String × α)
  | [] => [(key, a)]
  | (k, b) :: r =>
    if key < k then (key, a) :: (k, b) :: r
    else if key = k then (key, a) :: r
    else (k, b) :: insertRow key a r

def insert (t : Table α) (key : String) (a : α) : Table α := ⟨insertRow key a t.rows⟩

def get? (t : Table α) (key : String) : Option α := (t.rows.find? (·.1 == key)).map (·.2)

def has (t : Table α) (key : String) : Bool := t.rows.any (·.1 == key)

def values (t : Table α) : List α := t.rows.map (·.2)

def size (t : Table α) : Nat := t.rows.length

/-- Inserts all rows, a later one instead of an earlier one with its key. -/
def insertAll (t : Table α) (rows : List (String × α)) : Table α :=
  rows.foldl (fun t r ↦ t.insert r.1 r.2) t

/-- Keeps the rows with these keys. -/
def restrict (t : Table α) (keys : List String) : Table α := ⟨t.rows.filter (keys.contains ·.1)⟩

/-- Takes over all rows and drops the keys that are not among theirs. -/
def replace (t : Table α) (rows : List (String × α)) : Table α :=
  (t.insertAll rows).restrict (rows.map (·.1))

end Table

end BalancerSync
