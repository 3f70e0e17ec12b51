import BalancerSync.Text.Numeral

/-!
# Number literals

A literal keeps its digits until it is known what the number is for. As an integer it has neither
fraction nor exponent and fits into 64 bits, with or without sign. As a floating-point number its
significant digits are those that fit into 64 bits, scaled by one power of ten; a literal that is
too large for that has no value.
-/

namespace BalancerSync.Json

open Text

/-- The digits of a number as written. There is a fraction part iff `fraction` is not empty. -/
structure Literal where
  negative : Bool
  whole : List Nat
  fraction : List Nat
  exponent : Option Int
  deriving DecidableEq, Repr

namespace Literal

/-- The literal's value if it is written as an integer and in range. Negative zero is not. -/
def integer? (l : Literal) : Option Int :=
  if l.fraction.isEmpty ∧ l.exponent.isNone then
    let n := ofDigits 10 l.whole
    if l.negative then
      if n = 0 ∨ Nat.pow 2 63 < n then none else some (-(n : Int))
    else if n < UInt64.size then some n else none
  else none

/-- Appends digits to a 64-bit number as long as it does not overflow, and returns what is left
of them. -/
def absorb : UInt64 → List Nat → UInt64 × List Nat
  | n, [] => (n, [])
  | n, d :: ds =>
    if n.toNat * 10 + d < UInt64.size then absorb (UInt64.ofNat (n.toNat * 10 + d)) ds
    else (n, d :: ds)

/-- The double nearest to a power of ten of at most 308. -/
def tenTo (e : Nat) : Float := OfScientific.ofScientific 1 false e

/-- Scales by a power of ten in steps that a double can hold. The steps are only needed downward,
where fuel for a hundred of them reaches zero from any number. -/
def scale : Nat → Float → Int → Option Float
  | 0, _, _ => some 0
  | fuel + 1, x, e =>
    if e.natAbs ≤ 308 then
      if 0 ≤ e then
        let y := x * tenTo e.natAbs
        if y.isInf then none else some y
      else some (x / tenTo e.natAbs)
    else if x == 0 then some x
    else if 0 ≤ e then none
    else scale fuel (x / tenTo 308) (e + 308)

/-- The literal as a double, unless it overflows. -/
def float? (l : Literal) : Option Float :=
  let (n, skipped) := absorb 0 l.whole
  let (n, ignored) := absorb n l.fraction
  let e : Int := skipped.length - (l.fraction.length - ignored.length : Nat) + l.exponent.getD 0
  (scale 100 n.toFloat e).map fun x ↦ if l.negative then -x else x

end Literal

end BalancerSync.Json
