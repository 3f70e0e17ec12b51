import BalancerSync.Request.Basic
import BalancerSync.Text.Utf8

/-!
# The applier

Change requests leave the program as lines, one for each, in the order in which they were sent.
-/

namespace BalancerSync.Cli

/-- The byte that ends a line. -/
def lineFeed : UInt8 := 0x0A

/-- The bytes of a request on a line of its own, with the end of the line. -/
def requestLine (r : ChangeRequest) : List UInt8 :=
  Text.utf8 r.toJson.render ++ [lineFeed]

/-- Writes requests until there are no more, and returns how many were written. -/
def writeLines {m : Type → Type} [Monad m] (write : List UInt8 → m Unit) (flush : m Unit)
    (rs : List ChangeRequest) : m Nat := do
  let written ← rs.foldlM (fun n r ↦ do
    write (requestLine r)
    return n + 1) 0
  flush
  return written

end BalancerSync.Cli
