/-!
# Shortest decimals

A finite double is the only one in an interval of reals. Of the decimals in that interval with the
fewest digits, the nearest one stands for it. All of this is done in natural numbers.
-/

namespace BalancerSync.Decimal

/-- A positive double as a fraction, with the interval of reals that round to it over the same
denominator. The ends belong to the interval iff `closed`. -/
structure Interval where
  low : Nat
  value : Nat
  high : Nat
  denominator : Nat
  closed : Bool
  deriving Repr

/-- The interval of the double with these bits, whose sign is ignored. -/
def Interval.ofBits (bits : UInt64) : Interval :=
  let exponent : Nat := (bits.toNat / Nat.pow 2 52) % Nat.pow 2 11
  let fraction : Nat := bits.toNat % Nat.pow 2 52
  let m := if exponent = 0 then fraction else fraction + Nat.pow 2 52
  let q : Int := if exponent = 0 then -1076 else exponent - 1077
  let low := if fraction = 0 ∧ 1 < exponent then 4 * m - 1 else 4 * m - 2
  let up := Nat.pow 2 q.toNat
  ⟨low * up, 4 * m * up, (4 * m + 2) * up, Nat.pow 2 (-q).toNat, m % 2 = 0⟩

/-- Whether a multiple of a power of ten lies in the interval. -/
def Interval.holds (i : Interval) (n : Nat) (k : Int) : Bool :=
  let x := n * Nat.pow 10 k.toNat * i.denominator
  let low := i.low * Nat.pow 10 (-k).toNat
  let high := i.high * Nat.pow 10 (-k).toNat
  if i.closed then low ≤ x && x ≤ high else low < x && x < high

/-- The neighbour of the value among the multiples of a power of ten that lies in the interval;
of two, the nearer one, and the even one on a tie. -/
def Interval.nearest? (i : Interval) (k : Int) : Option Nat :=
  let num := i.value * Nat.pow 10 (-k).toNat
  let den := i.denominator * Nat.pow 10 k.toNat
  let n := num / den
  match i.holds n k, i.holds (n + 1) k with
  | true, false => some n
  | false, true => some (n + 1)
  | false, false => none
  | true, true =>
    let twice := 2 * (num % den)
    if twice < den ∨ (twice = den ∧ n % 2 = 0) then some n else some (n + 1)

/-- The number of decimal digits in front of the point, negative if zeros follow the point. -/
def Interval.magnitude (i : Interval) : Int :=
  ((Nat.toDigits 10 (i.value * Nat.pow 10 400 / i.denominator)).length : Int) - 400

/-- The digits and the power of ten of the shortest decimal in the interval of a double that is
not zero. Seventeen digits always suffice. -/
def shortest (bits : UInt64) : Nat × Int :=
  let i := Interval.ofBits bits
  let e := i.magnitude
  let found := (List.range 17).findSome? fun n ↦
    let k := e - (n + 1 : Nat)
    (i.nearest? k).map fun d ↦ (d, k)
  found.getD (0, 0)

end BalancerSync.Decimal
