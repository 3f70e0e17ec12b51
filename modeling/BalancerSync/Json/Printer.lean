import BalancerSync.Decimal.Shortest
import BalancerSync.Json.Value

/-!
# Writing JSON

Values are written without blanks, fields in their order.
-/

namespace BalancerSync.Json

open Text

/-! ## Numbers -/

/-- Digits with zeros at the end moved into the power of ten. -/
def stripZeros : Nat → Nat × Int → Nat × Int
  | 0, x => x
  | fuel + 1, (n, k) => if n ≠ 0 ∧ n % 10 = 0 then stripZeros fuel (n / 10, k + 1) else (n, k)

/-- A decimal with up to sixteen digits in front of the point, or up to four zeros after it, is
written in place, with at least one digit on each side of the point; any other with an exponent. -/
def showDecimal (n : Nat) (k : Int) : List Char :=
  let ds := showNat n
  let point : Int := ds.length + k
  if 0 ≤ k ∧ point ≤ 16 then ds ++ List.replicate k.toNat '0' ++ ['.', '0']
  else if 0 < point ∧ point ≤ 16 then ds.take point.toNat ++ '.' :: ds.drop point.toNat
  else if -5 < point ∧ point ≤ 0 then '0' :: '.' :: List.replicate (-point).toNat '0' ++ ds
  else
    let e := point - 1
    let mantissa := match ds with
      | [d] => [d]
      | d :: r => d :: '.' :: r
      | [] => []
    mantissa ++ 'e' :: (if e < 0 then '-' :: showNat e.natAbs else showNat e.natAbs)

/-- The shortest text that reads back as the same double. -/
def showFloat (bits : UInt64) : List Char :=
  let magnitude := if bits.toNat % Nat.pow 2 63 = 0 then "0.0".toList
    else
      let (n, k) := stripZeros 20 (Decimal.shortest bits)
      showDecimal n k
  if Nat.pow 2 63 ≤ bits.toNat then '-' :: magnitude else magnitude

def Number.render : Number → List Char
  | .integer n => if n < 0 then '-' :: showNat n.natAbs else showNat n.natAbs
  | .float bits => showFloat bits

/-! ## Strings -/

def hexDigit (n : Nat) : Char := "0123456789abcdef".toList.getD n '0'

/-- Quotes, backslashes and control characters are escaped, all else stands for itself. -/
def escape (c : Char) : List Char :=
  match c with
  | '"' => ['\\', '"']
  | '\\' => ['\\', '\\']
  | '\n' => ['\\', 'n']
  | '\r' => ['\\', 'r']
  | '\t' => ['\\', 't']
  | c =>
    if c.toNat = 8 then ['\\', 'b']
    else if c.toNat = 0xc then ['\\', 'f']
    else if c.toNat < 0x20 then
      ['\\', 'u', '0', '0', hexDigit (c.toNat / 16), hexDigit (c.toNat % 16)]
    else [c]

def quote (s : String) : List Char :=
  '"' :: s.toList.flatMap escape ++ ['"']

/-! ## Values -/

namespace Value

mutual

def render : Value → List Char
  | .null => ['n', 'u', 'l', 'l']
  | .bool true => ['t', 'r', 'u', 'e']
  | .bool false => ['f', 'a', 'l', 's', 'e']
  | .number n => n.render
  | .text s => quote s
  | .array [] => ['[', ']']
  | .array (v :: vs) => '[' :: render v ++ renderItems vs
  | .object [] => ['\x7b', '\x7d']
  | .object ((k, v) :: fs) => '\x7b' :: quote k ++ ':' :: render v ++ renderFields fs

/-- The items after the first one, up to the closing bracket. -/
def renderItems : List Value → List Char
  | [] => [']']
  | v :: vs => ',' :: render v ++ renderItems vs

/-- The fields after the first one, up to the closing brace. -/
def renderFields : List (String × Value) → List Char
  | [] => ['\x7d']
  | (k, v) :: fs => ',' :: quote k ++ ':' :: render v ++ renderFields fs

end

/-- The compact text of a value. -/
def compact (v : Value) : String := String.ofList v.render

end Value

end BalancerSync.Json
