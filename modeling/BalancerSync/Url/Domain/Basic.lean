import BalancerSync.Url.Domain.Folding
import BalancerSync.Url.Domain.Joining
import BalancerSync.Url.Punycode

/-!
# Domain names

A domain name is a row of labels with dots between them. Its normal form is in ASCII: the labels are
folded, and one that holds more than ASCII is written in punycode, with a mark in front that says
so. A label that is written in this way already has to stand for one that is folded.
-/

namespace BalancerSync.Url.Domain

open Text

def isAscii (cs : List Char) : Bool := cs.all (·.toNat < 0x80)

/-! ## Coded labels -/

/-- What is in front of a label in punycode. -/
def codeMark : List Char := ['x', 'n', '-', '-']

/-- The longest label that is written in punycode. -/
def longestPlain : Nat := 1000

/-- The longest punycode that is read. -/
def longestCode : Nat := 2000

/-- The label that a folded label stands for. -/
def plainLabel? (cs : List Char) : Option (List Char) :=
  if codeMark.isPrefixOf cs then do
    let code := cs.drop codeMark.length
    if !isAscii code ∨ longestCode < code.length ∨ cs.getLast? = some '-' then none
    let plain ← Punycode.decode? code
    if fold? plain = some plain ∧ !codeMark.isPrefixOf plain then some plain else none
  else some cs

/-- A label in ASCII. -/
def asciiLabel (cs : List Char) : List Char :=
  if isAscii cs then cs else codeMark ++ Punycode.encode cs

/-! ## Labels -/

/-- Characters that no domain name may contain: those with a meaning in URLs, and those that do not
print. -/
def isForbidden (c : Char) : Bool :=
  c.toNat ≤ 0x20 || c.toNat == 0x7F || "#%/:<>?@[\\]^|".toList.contains c

/-- Whether a label may be in a name. It does not begin with a mark. -/
def isSound (cs : List Char) : Bool :=
  !cs.any isForbidden &&
    (isAscii cs ||
      (cs.length ≤ longestPlain && !cs.head?.any isMark && areJoinersSound [] cs))

/-! ## Names -/

/-- The normal form of a domain name. -/
def toAscii? (cs : List Char) : Option (List Char) := do
  let labels ← (splitOn '.' (← fold? cs)).mapM plainLabel?
  if labels.all isSound && areDirected labels then some (join '.' (labels.map asciiLabel)) else none

end BalancerSync.Url.Domain
