import BalancerSync.Text.Split

/-!
# Punycode

A label of a domain name that holds more than ASCII is written as its ASCII characters and a row of
digits that says where the others go. These are inserted in the order of their numbers. Each
insertion is the distance to the one before, counted over positions and characters; its digits have
weights that adapt to the distances seen so far.
-/

namespace BalancerSync.Url.Punycode

open Text

/-! ## Numbers -/

/-- Digits are the letters and then the decimal digits. -/
def digit (d : Nat) : Char :=
  if d < 26 then Char.ofNat ('a'.toNat + d) else Char.ofNat ('0'.toNat + (d - 26))

/-- The value of a digit, in which capital letters are as good as small ones. -/
def digit? (c : Char) : Option Nat :=
  if c.isAlpha then some (c.toLower.toNat - 'a'.toNat)
  else if c.isDigit then some (c.toNat - '0'.toNat + 26)
  else none

/-- The least digit that is not the last one of a number, at the place `k`. -/
def threshold (k bias : Nat) : Nat := max 1 (min 26 (k - bias))

/-- The digit zero ends a number at every place. -/
theorem threshold_pos (k bias : Nat) : 1 ≤ threshold k bias := Nat.le_max_left ..

/-- The digits of a number from the place `k` on. -/
def digits (bias k n : Nat) : List Char :=
  let t := threshold k bias
  if n < t then [digit n]
  else digit (t + (n - t) % (36 - t)) :: digits bias (k + 36) ((n - t) / (36 - t))
termination_by n
decreasing_by
  have := threshold_pos k bias
  calc (n - threshold k bias) / (36 - threshold k bias)
      ≤ n - threshold k bias := Nat.div_le_self ..
    _ < n := by omega

/-- The number in front of some digits from the place `k` on, where a digit has this weight, and
what is after it. -/
def number? (bias k weight : Nat) : List Char → Option (Nat × List Char)
  | [] => none
  | c :: r => do
    let d ← digit? c
    let t := threshold k bias
    if d < t then some (d * weight, r)
    else
      let (n, rest) ← number? bias (k + 36) (weight * (36 - t)) r
      return (d * weight + n, rest)

/-- A number takes up some of the digits. -/
theorem length_lt_of_number? {bias k weight n : Nat} {cs rest : List Char}
    (h : number? bias k weight cs = some (n, rest)) : rest.length < cs.length := by
  induction cs generalizing k weight n with
  | nil => simp [number?] at h
  | cons c r ih =>
    simp only [number?, Option.bind_eq_bind, Option.bind_eq_some_iff] at h
    obtain ⟨d, -, h⟩ := h
    split at h
    · simp only [Option.some.injEq, Prod.mk.injEq] at h
      simp [← h.2]
    · simp only [Option.bind_eq_some_iff] at h
      obtain ⟨⟨m, s⟩, hs, h⟩ := h
      simp only [Option.pure_def, Option.some.injEq, Prod.mk.injEq] at h
      obtain ⟨-, rfl⟩ := h
      have := ih hs
      simp only [List.length_cons]
      omega

/-! ## Weights -/

/-- How often a number is divided until it is small, and what is left. -/
def reduce (n k : Nat) : Nat × Nat :=
  if 455 < n then reduce (n / 35) (k + 36) else (n, k)
termination_by n
decreasing_by omega

/-- The bias after a distance, with so many characters in place. -/
def adapt (distance places : Nat) (first : Bool) : Nat :=
  let d := if first then distance / 700 else distance / 2
  let (d, k) := reduce (d + d / places) 0
  k + 36 * d / (d + 38)

/-! ## Encoding -/

/-- The digits so far, the distance since the last insertion, and how many characters are in
place. -/
structure Progress where
  out : List Char
  distance : Nat
  bias : Nat
  places : Nat

/-- Passes one character of the label while those with the number `m` are inserted. -/
def pass (basic m : Nat) (p : Progress) (c : Char) : Progress :=
  if c.toNat < m then { p with distance := p.distance + 1 }
  else if c.toNat = m then
    { out := p.out ++ digits p.bias 36 p.distance
      distance := 0
      bias := adapt p.distance (p.places + 1) (p.places == basic)
      places := p.places + 1 }
  else p

/-- Inserts the characters with these numbers, of which each is larger than the one before. -/
def insertAll (label : List Char) (basic : Nat) : Nat → List Nat → Progress → Progress
  | _, [], p => p
  | n, m :: ms, p =>
    let p := { p with distance := p.distance + (m - n) * (p.places + 1) }
    let p := label.foldl (pass basic m) p
    insertAll label basic (m + 1) ms { p with distance := p.distance + 1 }

/-- The numbers of the characters beyond ASCII in order, each once. -/
def extended (label : List Char) : List Nat :=
  (((label.map Char.toNat).filter (0x80 ≤ ·)).mergeSort (· ≤ ·)).eraseDups

def encode (label : List Char) : List Char :=
  let basic := label.filter (·.toNat < 0x80)
  let p := insertAll label basic.length 0x80 (extended label) ⟨[], 0, 72, basic.length⟩
  (if basic.isEmpty then [] else basic ++ ['-']) ++ p.out

/-! ## Decoding -/

/-- Inserts characters as some digits say, from the one with this number at this place on. -/
def insertDecoded (out : List Char) (n place bias : Nat) (cs : List Char) : Option (List Char) :=
  if cs.isEmpty then some out
  else
    match h : number? bias 36 1 cs with
    | none => none
    | some (distance, rest) =>
      let places := out.length + 1
      let n := n + (place + distance) / places
      let next := (place + distance) % places
      if n.isValidChar then
        insertDecoded (out.take next ++ Char.ofNat n :: out.drop next) n (next + 1)
          (adapt distance places (place == 0)) rest
      else none
termination_by cs.length
decreasing_by exact length_lt_of_number? h

/-- The label that is written in this way. The last hyphen is after the ASCII characters, if there
are any. -/
def decode? (cs : List Char) : Option (List Char) :=
  let (basic, digits) := (cutLast '-' cs).getD ([], cs)
  if basic.isEmpty then insertDecoded [] 0x80 0 72 cs
  else insertDecoded basic 0x80 0 72 digits

end BalancerSync.Url.Punycode
