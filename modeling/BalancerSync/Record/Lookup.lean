import BalancerSync.Collaborator

/-!
# Finding the row of a pool

A pool is recorded under one of two keys, the one for enabled pools first. Rows written by a
transaction that is not done yet appear a little later, so a look-up that finds none may be
repeated a bounded number of times.
-/

namespace BalancerSync

variable {σ α : Type}

/-! ## Retrying -/

/-- Repeats a call while it finds no row, at most `n` more times. -/
def retry (op : Call σ BackendError α) : Nat → Call σ BackendError α
  | 0 => op
  | n + 1 => tryCatch op fun e ↦ if e.isRowNotFound then retry op n else throw e

/-- Tries a call up to `attempts` times, once at least. -/
def retryOnNotFound (attempts : UInt32) (op : Call σ BackendError α) : Call σ BackendError α :=
  retry op (max attempts.toNat 1 - 1)

/-! ## The two keys -/

/-- The key of a pool, and a row that has it. -/
def findByPoolId (b : Backend σ) (poolId : String) :
    Call σ BackendError (Option (String × Row)) := do
  match ← b.findByPoolKey (poolKey poolId) with
  | some row => return some (poolKey poolId, row)
  | none => return (← b.findByPoolKey (disabledPoolKey poolId)).map (disabledPoolKey poolId, ·)

/-- A pool whose row is not there is an error. -/
def requirePool (b : Backend σ) (poolId : String) : Call σ BackendError (String × Row) := do
  match ← findByPoolId b poolId with
  | some found => return found
  | none => throw (.balancerNotFound (poolKey poolId))

def findByPoolIdWithRetry (b : Backend σ) (attempts : UInt32) (poolId : String) :
    Call σ BackendError (String × Row) :=
  retryOnNotFound attempts (requirePool b poolId)

/-- The first of some rows that has a pool, under whichever key. -/
def findInRows (rows : List Row) (poolId : String) : Option (String × Row) :=
  rows.findSome? fun row ↦ (row.poolKey? poolId).map (·, row)

end BalancerSync
