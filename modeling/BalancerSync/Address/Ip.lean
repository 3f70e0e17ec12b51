import BalancerSync.Text.Blank
import BalancerSync.Text.Numeral
import BalancerSync.Text.Split

/-!
# IP addresses

An address is a number of 32 or 128 bits. Its text is four decimal octets, or up to eight
hexadecimal groups of which one run of zeros may be left out; a dotted quad may stand for the last
two groups. `Ip.render` writes the recommended form of each address and `Ip.read?` accepts every
spelling.
-/

namespace BalancerSync

open Text

/-- An address of either family. -/
inductive Ip
  | v4 (bits : BitVec 32)
  | v6 (bits : BitVec 128)
  deriving DecidableEq, Repr

inductive Ip.Family
  | v4
  | v6
  deriving DecidableEq, Repr

namespace Ip

def family : Ip → Family
  | v4 _ => .v4
  | v6 _ => .v6

@[simp] theorem family_v4 (b : BitVec 32) : (v4 b).family = .v4 := rfl

@[simp] theorem family_v6 (b : BitVec 128) : (v6 b).family = .v6 := rfl

/-! ## Octets and groups -/

/-- The four octets of a word, the most significant first. -/
def octets (b : BitVec 32) : List Nat :=
  [24, 16, 8, 0].map fun i ↦ (b >>> i).toNat % 256

/-- The eight sixteen-bit groups of an address, the most significant first. -/
def groups (b : BitVec 128) : List Nat :=
  [112, 96, 80, 64, 48, 32, 16, 0].map fun i ↦ (b >>> i).toNat % 65536

/-! ## Reading -/

/-- An octet has no leading zeros. -/
def readOctet? (cs : List Char) : Option Nat :=
  match cs with
  | '0' :: _ :: _ => none
  | _ =>
    if cs.length ≤ 3 then (readDigits? 10 cs).bind fun n ↦ if n < 256 then some n else none
    else none

/-- Four octets between dots. -/
def readQuad? (cs : List Char) : Option (List Nat) :=
  let fields := splitOn '.' cs
  if fields.length = 4 then fields.mapM readOctet? else none

/-- A group has one to four hexadecimal digits. -/
def readGroup? (cs : List Char) : Option Nat :=
  if cs.length ≤ 4 then readDigits? 16 cs else none

/-- The groups of a row of fields; the last field may be a dotted quad, which makes two. -/
def readFields? : List (List Char) → Option (List Nat)
  | [] => some []
  | [f] =>
    match readQuad? f with
    | some [a, b, c, d] => some [a * 256 + b, c * 256 + d]
    | _ => (readGroup? f).map ([·])
  | f :: fs => do
    let g ← readGroup? f
    let gs ← readFields? fs
    return g :: gs

/-- The groups before the gap; a dotted quad cannot stand there. -/
def readHead? (cs : List Char) : Option (List Nat) :=
  if cs.isEmpty then some [] else (splitOn ':' cs).mapM readGroup?

/-- The groups up to the end of the address. -/
def readTail? (cs : List Char) : Option (List Nat) :=
  if cs.isEmpty then some [] else readFields? (splitOn ':' cs)

/-- The texts before and after the first double colon. -/
def cutGap : List Char → Option (List Char × List Char)
  | ':' :: ':' :: r => some ([], r)
  | c :: r => (cutGap r).map fun (a, b) ↦ (c :: a, b)
  | [] => none

/-- Eight groups, or fewer around a gap that stands for at least one. -/
def readGroups? (cs : List Char) : Option (List Nat) :=
  match cutGap cs with
  | none => (readTail? cs).filter (·.length = 8)
  | some (front, back) => do
    let hs ← readHead? front
    let ts ← readTail? back
    if hs.length + ts.length ≤ 7 then
      some (hs ++ List.replicate (8 - hs.length - ts.length) 0 ++ ts)
    else none

/-- Reads an address of either family in any of its spellings. -/
def read? (cs : List Char) : Option Ip :=
  match readQuad? cs with
  | some os => some (v4 (BitVec.ofNat 32 (ofDigits 256 os)))
  | none => (readGroups? cs).map fun gs ↦ v6 (BitVec.ofNat 128 (ofDigits 65536 gs))

/-! ## Writing -/

def renderQuad (b : BitVec 32) : List Char :=
  join '.' ((octets b).map showNat)

def renderGroups (gs : List Nat) : List Char :=
  join ':' (gs.map showHex)

/-- Where the first of the longest runs of zeros starts, and its length. -/
def longestZeros : List Nat → Nat × Nat
  | [] => (0, 0)
  | g :: gs =>
    let here := ((g :: gs).takeWhile (· == 0)).length
    let (start, length) := longestZeros gs
    if here ≥ length then (0, here) else (start + 1, length)

/-- The first six groups of an address that stands for one of the shorter family. -/
def mappedHead : List Nat := [0, 0, 0, 0, 0, 0xffff]

/-- Groups of which the first longest run of at least two zeros is left out. -/
def renderShort (gs : List Nat) : List Char :=
  let (start, length) := longestZeros gs
  if length ≥ 2 then
    renderGroups (gs.take start) ++ ':' :: ':' :: renderGroups (gs.drop (start + length))
  else renderGroups gs

/-- Addresses that stand for one of the shorter family end in a dotted quad. -/
def render : Ip → List Char
  | v4 b => renderQuad b
  | v6 b =>
    if (groups b).take 6 = mappedHead then "::ffff:".toList ++ renderQuad (b.truncate 32)
    else renderShort (groups b)

end Ip

/-! ## Address literals -/

/-- The text of an address without the blanks and brackets around it. -/
def bareAddress (address : List Char) : List Char :=
  unbracket (trim address)

/-- One spelling per address: blanks and brackets go, and an address is written in its
recommended form. A text that is no address keeps its spelling. -/
def canonicalChars (address : List Char) : List Char :=
  let bare := bareAddress address
  match Ip.read? bare with
  | some ip => ip.render
  | none => bare

/-- `canonicalChars` on strings. -/
def canonicalAddress (address : String) : String :=
  String.ofList (canonicalChars address.toList)

end BalancerSync
