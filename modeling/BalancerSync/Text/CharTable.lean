import BalancerSync.Text.Numeral
import BalancerSync.Text.Split

/-!
# Tables of characters

What is so for many characters without any rule is in a table: a text with rows of hexadecimal
numbers and semicolons between the rows.
-/

namespace BalancerSync.Text.CharTable

/-- The numbers in a row, with blanks and line ends between them. -/
def readRow (cs : List Char) : List Nat :=
  (splitOn ' ' (cs.map fun c ↦ if c = '\n' then ' ' else c)).filterMap (readDigits? 16)

def rows (text : String) : List (List Nat) := (splitOn ';' text.toList).map readRow

/-- Whether a number is the one in a row, or from the first to the second of two. -/
def inRow (n : Nat) : List Nat → Bool
  | [a] => n == a
  | a :: b :: _ => a ≤ n && n ≤ b
  | [] => false

/-- Whether one of the rows covers a character. -/
def covers (table : List (List Nat)) (c : Char) : Bool := table.any (inRow c.toNat)

/-- The characters that are in a row after this one. -/
def entry? (table : List (List Nat)) (c : Char) : Option (List Char) :=
  (table.find? (·.head? == some c.toNat)).map fun row ↦ row.tail.map Char.ofNat

@[simp] theorem covers_nil (c : Char) : covers [] c = false := rfl

/-- A character is covered by one of the rows. -/
@[simp] theorem covers_cons (row : List Nat) (table : List (List Nat)) (c : Char) :
    covers (row :: table) c = (inRow c.toNat row || covers table c) := rfl

end BalancerSync.Text.CharTable
