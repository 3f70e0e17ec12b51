import BalancerSync.Address.Ip

/-!
# Address ranges

A range is a network address with the number of leading bits that its members share with it. A
bare address is the range of itself alone. Addresses of both families are compared as words of 128
bits; a step of the comparison that would leave the word has no result.
-/

namespace BalancerSync

open Text

/-! ## Words

A shift moves by less than the width of a word and a difference is not below zero; otherwise there
is no result. -/

/-- Wide enough for an address of either family. -/
abbrev Word := BitVec 128

namespace Word

def shiftLeft? (x : Word) (k : Nat) : Option Word :=
  if k < 128 then some (x <<< k) else none

def shiftRight? (x : Word) (k : Nat) : Option Word :=
  if k < 128 then some (x >>> k) else none

def sub? (x y : Word) : Option Word :=
  if y ≤ x then some (x - y) else none

end Word

/-- The address in the last bits of a word. -/
def Ip.word : Ip → Word
  | v4 b => b.setWidth 128
  | v6 b => b

/-! ## Ranges -/

/-- A network address, and how many of its leading bits count. -/
structure Cidr where
  network : Ip
  length : Nat
  deriving DecidableEq, Repr

namespace Cidr

/-- The number of bits of an address. -/
def width : Ip → Nat
  | .v4 _ => 32
  | .v6 _ => 128

/-- The word whose last `w` bits are set: a power of two less one, except that the power for the
whole word would not fit. -/
def ones? (w : Nat) : Option Word :=
  if w = 128 then some (BitVec.allOnes 128)
  else (Word.shiftLeft? 1 w).bind fun x ↦ Word.sub? x 1

/-- The word in which the first `p` of the last `w` bits are set. A shift by the whole width leaves
nothing to take away from it. -/
def mask? (w p : Nat) : Option Word :=
  (ones? w).map fun ones ↦ ones &&& ~~~((Word.shiftRight? ones p).getD 0)

/-- The words agree on the first `p` of their last `w` bits, of which there are as many. -/
def agrees (w p : Nat) (x y : Word) : Bool :=
  p ≤ w && (mask? w p).any fun m ↦ x &&& m == y &&& m

/-- Reads an address, followed by a slash and a thirty-two bit numeral if it is more than one
address. The length is not compared with the width here. -/
def read? (cs : List Char) : Option Cidr :=
  let cs := trim cs
  match cut '/' cs with
  | some (network, length) => do
    let p ← readBelow? UInt32.size length
    let ip ← Ip.read? network
    return ⟨ip, p⟩
  | none => (Ip.read? cs).map fun ip ↦ ⟨ip, width ip⟩

/-- Both addresses agree on the leading bits. No address lies in a range of the other family, nor
in one that asks for more bits than there are. -/
def contains (c : Cidr) (ip : Ip) : Bool :=
  ip.family == c.network.family && agrees (width ip) c.length ip.word c.network.word

end Cidr

/-- Whether a text that denotes an address lies in a text that denotes a range. -/
def addressInCidr (address cidr : String) : Bool :=
  match Ip.read? (bareAddress address.toList), Cidr.read? cidr.toList with
  | some ip, some range => range.contains ip
  | _, _ => false

end BalancerSync
