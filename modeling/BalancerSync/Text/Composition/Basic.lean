import BalancerSync.Text.Composition.Table

/-!
# Composition

The same text can be written with composite characters or with what they are made of, and with marks
in one order or another. `compose` writes it in one way: with as few characters as possible, and
with marks in the order of their classes.
-/

namespace BalancerSync.Text.Composition

/-! ## Marks -/

/-- Marks of one class stand in each other's way on a letter; the class zero is for characters that
are not put on others. -/
def markClass (c : Char) : Nat :=
  match markClasses.find? (CharTable.inRow c.toNat) with
  | some [_, _, n] => n
  | _ => 0

/-- Puts a character in front of a text, but after the marks of lower classes there. -/
def insertMark (c : Char) : List Char → List Char
  | [] => [c]
  | d :: r =>
    if 0 < markClass d ∧ markClass d < markClass c then d :: insertMark c r else c :: d :: r

def sortMarks (cs : List Char) : List Char := cs.foldr insertMark []

/-! ## Syllables

A syllable of Hangul is made of a leading consonant, a vowel, and maybe a trailing consonant. The
numbers of all syllables count through these. -/

def firstSyllable : Nat := 0xAC00

def firstLeading : Nat := 0x1100

def firstVowel : Nat := 0x1161

/-- The number before the first trailing consonant, in place of none. -/
def noTrailing : Nat := 0x11A7

def leadingCount : Nat := 19

def vowelCount : Nat := 21

def trailingCount : Nat := 28

def syllableParts? (c : Char) : Option (List Char) :=
  let n := c.toNat - firstSyllable
  if c.toNat < firstSyllable ∨ leadingCount * vowelCount * trailingCount ≤ n then none
  else
    let block := n / trailingCount
    let trailing := n % trailingCount
    some ([firstLeading + block / vowelCount, firstVowel + block % vowelCount].map Char.ofNat
      ++ if trailing = 0 then [] else [Char.ofNat (noTrailing + trailing)])

/-- The syllable of a consonant and a vowel, or of a syllable and a trailing consonant. -/
def syllable? (a b : Char) : Option Char :=
  let leading := a.toNat - firstLeading
  let vowel := b.toNat - firstVowel
  let trailing := b.toNat - noTrailing
  if firstLeading ≤ a.toNat ∧ leading < leadingCount ∧ firstVowel ≤ b.toNat
      ∧ vowel < vowelCount then
    some (Char.ofNat (firstSyllable + (leading * vowelCount + vowel) * trailingCount))
  else if (syllableParts? a).any (·.length == 2) ∧ noTrailing < b.toNat
      ∧ trailing < trailingCount then
    some (Char.ofNat (a.toNat + trailing))
  else none

/-! ## Parts -/

/-- What a character is made of. -/
def parts (c : Char) : List Char :=
  (syllableParts? c <|> CharTable.entry? composites c <|> CharTable.entry? variants c).getD [c]

/-- The composite character that is made of what two are made of. -/
def composite? (a b : Char) : Option Char :=
  let whole := (parts a ++ [b]).map Char.toNat
  syllable? a b
    <|> (composites.find? (·.tail == whole)).bind fun row ↦ row.head?.map Char.ofNat

/-! ## Composing -/

/-- Composes what follows a character with it. A mark is in the way of those of its class and of all
that are no marks. -/
def composeFrom (c : Char) (held : List Char) : List Char → List Char
  | [] => c :: held
  | d :: r =>
    let isFree := held.getLast?.all fun m ↦ markClass m < markClass d
    match if isFree then composite? c d else none with
    | some e => composeFrom e held r
    | none =>
      if markClass d = 0 then c :: held ++ composeFrom d [] r else composeFrom c (held ++ [d]) r

def composeMarks : List Char → List Char
  | [] => []
  | c :: r => if markClass c = 0 then composeFrom c [] r else c :: composeMarks r

def compose (cs : List Char) : List Char := composeMarks (sortMarks (cs.flatMap parts))

@[simp] theorem compose_nil : compose [] = [] := rfl

end BalancerSync.Text.Composition
