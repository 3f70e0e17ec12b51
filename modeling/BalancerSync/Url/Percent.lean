import BalancerSync.Text.Numeral
import BalancerSync.Text.Utf8

/-!
# Percent encoding

Characters that cannot stand in some part of a URL are written as the bytes of their UTF-8 form,
each as a percent sign and two digits. Each part has its own set of such characters. A percent sign
is in none of the sets, so what is encoded already stays as it is.
-/

namespace BalancerSync.Url

open Text

/-! ## Sets -/

/-- Control characters and all that is not ASCII. -/
def isControl (c : Char) : Bool := c.toNat < 0x20 || 0x7E < c.toNat

def inFragment (c : Char) : Bool :=
  isControl c || [' ', '"', '<', '>', '\x60'].contains c

def inQuery (c : Char) : Bool :=
  isControl c || [' ', '"', '#', '<', '>'].contains c

/-- The set of queries of the well-known schemes. -/
def inSpecialQuery (c : Char) : Bool := inQuery c || c == '\''

def inPath (c : Char) : Bool :=
  inQuery c || ['?', '\x60', '\x7b', '\x7d'].contains c

def inUserinfo (c : Char) : Bool :=
  inPath c || ['/', ':', ';', '=', '@', '[', '\\', ']', '^', '|'].contains c

/-! ## Encoding -/

def upperHexDigit (n : Nat) : Char := "0123456789ABCDEF".toList.getD n '0'

def encodeByte (b : UInt8) : List Char :=
  ['%', upperHexDigit (b.toNat / 16), upperHexDigit (b.toNat % 16)]

/-- Encodes the characters of a set. -/
def percentEncode (set : Char → Bool) (cs : List Char) : List Char :=
  cs.flatMap fun c ↦ if set c then (utf8 [c]).flatMap encodeByte else [c]

/-! ## Decoding -/

/-- The bytes of a text in which a percent sign with two digits is one byte. -/
def percentDecode : List Char → List UInt8
  | [] => []
  | '%' :: a :: b :: r =>
    match readDigits? 16 [a, b] with
    | some n => UInt8.ofNat n :: percentDecode r
    | none => 37 :: percentDecode (a :: b :: r)
  | c :: r => utf8 [c] ++ percentDecode r

/-! ## Forms -/

/-- Letters, digits and four signs stand for themselves in a form, a blank is a plus sign. -/
def formEncode (cs : List Char) : List Char :=
  (utf8 cs).flatMap fun b ↦
    let c := Char.ofNat b.toNat
    if b == 0x20 then ['+']
    else if b < 0x80 && (c.isAlphanum || ['*', '-', '.', '_'].contains c) then [c]
    else encodeByte b

/-- Names and values as one query. -/
def formQuery (pairs : List (String × String)) : List Char :=
  ['&'].intercalate (pairs.map fun (name, value) ↦
    formEncode name.toList ++ '=' :: formEncode value.toList)

end BalancerSync.Url
