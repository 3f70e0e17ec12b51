/-!
# Base 64

Bytes are written with sixty-four digits, of which four stand for three bytes. Blanks and line ends
between the digits do not count.
-/

namespace BalancerSync.Text.Base64

def digit? (c : Char) : Option Nat :=
  if 'A' ≤ c ∧ c ≤ 'Z' then some (c.toNat - 'A'.toNat)
  else if 'a' ≤ c ∧ c ≤ 'z' then some (c.toNat - 'a'.toNat + 26)
  else if '0' ≤ c ∧ c ≤ '9' then some (c.toNat - '0'.toNat + 52)
  else if c = '+' then some 62
  else if c = '/' then some 63
  else none

def isGap (c : Char) : Bool := c == ' ' || (9 ≤ c.toNat && c.toNat ≤ 13)

/-- The bytes of some digits. Two or three digits at the end are one byte or two, and equals signs
may fill them up to four. Bits that belong to no byte do not matter. -/
def ofDigits? : List Char → Option (List Nat)
  | [] => some []
  | [a, b] | [a, b, '=', '='] => do
    let (a, b) := (← digit? a, ← digit? b)
    return [a * 4 + b / 16]
  | [a, b, c] | [a, b, c, '='] => do
    let (a, b, c) := (← digit? a, ← digit? b, ← digit? c)
    return [a * 4 + b / 16, b % 16 * 16 + c / 4]
  | a :: b :: c :: d :: r => do
    let (a, b, c, d) := (← digit? a, ← digit? b, ← digit? c, ← digit? d)
    return [a * 4 + b / 16, b % 16 * 16 + c / 4, c % 4 * 64 + d] ++ (← ofDigits? r)
  | _ => none

def decode? (cs : List Char) : Option (List Nat) := ofDigits? (cs.filter (!isGap ·))

end BalancerSync.Text.Base64
