import BalancerSync.Config.Setting
import BalancerSync.Text.Numeral
import BalancerSync.Text.Split

/-!
# Literals of configuration files

Strings in their four notations, numbers, truth values and dates. A reader is given the text from
the literal on and returns its value with the text after it. Line ends are single characters here.
-/

namespace BalancerSync.Toml

open Text

/-! ## Strings -/

/-- Control characters other than the tab cannot stand for themselves. -/
def isPlain (c : Char) : Bool :=
  c == '\t' || (0x20 ≤ c.toNat && c.toNat != 0x7f)

def isSpace (c : Char) : Bool := c == ' ' || c == '\t'

def isSpaceOrLineEnd (c : Char) : Bool := isSpace c || c == '\n'

/-- What a backslash and this character stand for. -/
def escaped? : Char → Option Char
  | '"' => some '"'
  | '\\' => some '\\'
  | 'b' => some '\x08'
  | 'f' => some '\x0c'
  | 'n' => some '\n'
  | 'r' => some '\r'
  | 't' => some '\t'
  | _ => none

/-- The character with this number, which is not a surrogate. -/
def scalar? (n : Nat) : Option Char :=
  if n < 0xD800 ∨ (0xE000 ≤ n ∧ n < 0x110000) then some (Char.ofNat n) else none

/-- The character that an escape stands for, and the text after it. -/
def readEscape? : List Char → Option (Char × List Char)
  | 'u' :: r => read 4 r
  | 'U' :: r => read 8 r
  | e :: r => (escaped? e).map (·, r)
  | [] => none
where
  /-- A character by a number with so many digits. -/
  read (digits : Nat) (r : List Char) : Option (Char × List Char) :=
    if r.length < digits then none
    else ((readDigits? 16 (r.take digits)).bind scalar?).map (·, r.drop digits)

/-- An escape takes up some of the text. -/
theorem readEscape?_length {cs rest : List Char} {c : Char} (h : readEscape? cs = some (c, rest)) :
    rest.length < cs.length := by
  have read_length {n : Nat} {r : List Char} (h : readEscape?.read n r = some (c, rest)) :
      rest.length ≤ r.length := by
    unfold readEscape?.read at h
    split at h
    · exact absurd h (by simp)
    · obtain ⟨_, _, h⟩ := Option.map_eq_some_iff.1 h
      simp [← (Prod.mk.inj h).2]
  unfold readEscape? at h
  split at h
  · exact Nat.lt_succ_of_le (read_length h)
  · exact Nat.lt_succ_of_le (read_length h)
  · obtain ⟨_, _, h⟩ := Option.map_eq_some_iff.1 h
    simp [← (Prod.mk.inj h).2]
  · exact absurd h (by simp)

/-- A string after its opening quote. -/
def readBasic? (cs : List Char) : Option (List Char × List Char) :=
  match cs with
  | [] => none
  | '"' :: r => some ([], r)
  | '\\' :: r =>
    match h : readEscape? r with
    | none => none
    | some (c, rest) =>
      have := readEscape?_length h
      (readBasic? rest).map fun (s, rest) ↦ (c :: s, rest)
  | c :: r => if isPlain c then (readBasic? r).map fun (s, rest) ↦ (c :: s, rest) else none
termination_by cs.length
decreasing_by all_goals simp_all <;> omega

/-- A string without escapes, after its opening quote. -/
def readVerbatim? : List Char → Option (List Char × List Char)
  | [] => none
  | '\'' :: r => some ([], r)
  | c :: r => if isPlain c then (readVerbatim? r).map fun (s, rest) ↦ (c :: s, rest) else none

/-- Up to two quotes may stand right in front of three closing ones. -/
def closeLong (quote : Char) (r : List Char) : List Char × List Char :=
  let extra := (r.take 2).takeWhile (· == quote)
  (extra, r.drop extra.length)

/-- A string over several lines, after its opening quotes. A backslash at the end of a line takes
away the line end and all blanks after it. -/
def readLongBasic? (cs : List Char) : Option (List Char × List Char) :=
  match cs with
  | [] => none
  | '"' :: '"' :: '"' :: r => some (closeLong '"' r)
  | '\\' :: r =>
    if (r.dropWhile isSpace).head? = some '\n' then readLongBasic? (r.dropWhile isSpaceOrLineEnd)
    else
      match h : readEscape? r with
      | none => none
      | some (c, rest) =>
        have := readEscape?_length h
        (readLongBasic? rest).map fun (s, rest) ↦ (c :: s, rest)
  | c :: r =>
    if isPlain c || c == '\n' then (readLongBasic? r).map fun (s, rest) ↦ (c :: s, rest)
    else none
termination_by cs.length
decreasing_by
  · have := (List.dropWhile_sublist isSpaceOrLineEnd (l := r)).length_le
    simp; omega
  · simp_all; omega
  · simp

def readLongVerbatim? : List Char → Option (List Char × List Char)
  | [] => none
  | '\'' :: '\'' :: '\'' :: r => some (closeLong '\'' r)
  | c :: r =>
    if isPlain c || c == '\n' then (readLongVerbatim? r).map fun (s, rest) ↦ (c :: s, rest)
    else none

/-- A line end right after three opening quotes does not count. -/
def dropLineEnd : List Char → List Char
  | '\n' :: r => r
  | cs => cs

/-- A string in any notation. -/
def readString? (cs : List Char) : Option (String × List Char) :=
  let found := match cs with
    | '"' :: '"' :: '"' :: r => readLongBasic? (dropLineEnd r)
    | '\'' :: '\'' :: '\'' :: r => readLongVerbatim? (dropLineEnd r)
    | '"' :: r => readBasic? r
    | '\'' :: r => readVerbatim? r
    | _ => none
  found.map fun (s, rest) ↦ (String.ofList s, rest)

/-! ## Numbers -/

/-- Digits may have single underscores between them. -/
def groupedDigits? (base : Nat) (cs : List Char) : Option (List Nat) :=
  let groups := splitOn '_' cs
  if groups.all (!·.isEmpty) then groups.flatten.mapM (digit? base) else none

/-- Decimal digits of a number that does not start with a needless zero. -/
def wholeDigits? (cs : List Char) : Option (List Nat) := do
  let ds ← groupedDigits? 10 cs
  if ds.head? = some 0 ∧ 1 < cs.length then none else some ds

def signed (cs : List Char) : Bool × List Char :=
  match cs with
  | '-' :: r => (true, r)
  | '+' :: r => (false, r)
  | _ => (false, cs)

/-- An integer has 64 bits and a sign; other bases than ten do without the sign. -/
def integer? (cs : List Char) : Option Int :=
  let n : Option Int := match cs with
    | '0' :: 'x' :: r => (groupedDigits? 16 r).map fun ds ↦ ofDigits 16 ds
    | '0' :: 'o' :: r => (groupedDigits? 8 r).map fun ds ↦ ofDigits 8 ds
    | '0' :: 'b' :: r => (groupedDigits? 2 r).map fun ds ↦ ofDigits 2 ds
    | _ =>
      let (negative, r) := signed cs
      (wholeDigits? r).map fun ds ↦ if negative then -ofDigits 10 ds else ofDigits 10 ds
  n.filter fun n ↦ -(Nat.pow 2 63 : Nat) ≤ n && n < (Nat.pow 2 63 : Nat)

/-- The exponent of a number, which may have leading zeros. -/
def exponent? (cs : List Char) : Option Int :=
  let (negative, r) := signed cs
  (groupedDigits? 10 r).map fun ds ↦
    if negative then -(ofDigits 10 ds : Int) else (ofDigits 10 ds : Int)

/-- The digits of a number with a fraction, an exponent or both, and the power of ten of the last
digit. -/
def decimal? (cs : List Char) : Option (List Nat × Int) := do
  let mantissa := cs.takeWhile fun c ↦ c != 'e' && c != 'E'
  let exponent ← match cs.drop mantissa.length with
    | [] => some none
    | _ :: r => (exponent? r).map some
  match cut '.' mantissa, exponent with
  | some (whole, fraction), _ =>
    let fraction ← groupedDigits? 10 fraction
    return ((← wholeDigits? whole) ++ fraction, exponent.getD 0 - fraction.length)
  | none, some e => return (← wholeDigits? mantissa, e)
  | none, none => none

/-- Half a step past the largest finite double. Numbers from there on have no double near them. -/
def floatBound : Nat := Nat.pow 2 1024 - Nat.pow 2 970

/-- Whether a number, given by its digits and the power of ten of the last one, is past the bound.
This is settled by its size unless it has 309 digits. -/
def isTooLarge (digits : List Nat) (exponent : Int) : Bool :=
  let n := ofDigits 10 digits
  let size := (showNat n).length + exponent
  if n = 0 ∨ size < 309 then false
  else if 309 < size then true
  else floatBound * Nat.pow 10 (-exponent).toNat ≤ n * Nat.pow 10 exponent.toNat

/-- A number with a fraction, an exponent or both, or one that is not finite by name. A negative
one may be too large to be finite. -/
def isFloat (cs : List Char) : Bool :=
  let (negative, r) := signed cs
  r = ['i', 'n', 'f'] || r = ['n', 'a', 'n'] ||
    match decimal? r with
    | some (digits, exponent) => negative || !isTooLarge digits exponent
    | none => false

/-! ## Dates -/

/-- A number with exactly so many digits. -/
def fixed? (digits : Nat) (cs : List Char) : Option Nat :=
  if cs.length = digits then readDigits? 10 cs else none

def daysIn (year month : Nat) : Nat :=
  if month = 2 then
    if year % 4 = 0 ∧ (year % 100 ≠ 0 ∨ year % 400 = 0) then 29 else 28
  else if month = 4 ∨ month = 6 ∨ month = 9 ∨ month = 11 then 30
  else 31

def isDate (cs : List Char) : Bool :=
  match (splitOn '-' cs) with
  | [y, m, d] =>
    match fixed? 4 y, fixed? 2 m, fixed? 2 d with
    | some year, some month, some day =>
      1 ≤ month && month ≤ 12 && 1 ≤ day && day ≤ daysIn year month
    | _, _, _ => false
  | _ => false

def isBelow (bound : Nat) (cs : List Char) : Bool :=
  match fixed? 2 cs with
  | some n => n < bound
  | none => false

/-- A time of day, in which a leap second may occur. -/
def isTime (cs : List Char) : Bool :=
  match splitOn ':' cs with
  | [h, m, s] =>
    let seconds := match cut '.' s with
      | some (s, fraction) => isBelow 61 s && (readDigits? 10 fraction).isSome
      | none => isBelow 61 s
    isBelow 24 h && isBelow 60 m && seconds
  | _ => false

/-- A time with its distance to universal time, if that is given. -/
def isZonedTime (cs : List Char) : Bool :=
  let time := cs.takeWhile fun c ↦ c.isDigit || c == ':' || c == '.'
  let zone := match cs.drop time.length with
    | [] | ['Z'] | ['z'] => true
    | [sign, h, i, ':', m, n] =>
      (sign == '+' || sign == '-') && isBelow 24 [h, i] && isBelow 60 [m, n]
    | _ => false
  isTime time && zone

/-- A date, a time, or both with a letter between them. -/
def isMoment (cs : List Char) : Bool :=
  isDate cs || isTime cs || (isDate (cs.take 10) && match cs.drop 10 with
    | c :: time => (c == 'T' || c == 't') && isZonedTime time
    | [] => false)

/-! ## Scalars -/

/-- Characters of numbers, dates and truth values. -/
def isWordChar (c : Char) : Bool :=
  c.isAlphanum || c == '+' || c == '-' || c == '_' || c == '.' || c == ':'

/-- What a word without quotes means. A moment is a table of its own kind in which no setting is
found. -/
def word? (cs : List Char) : Option Setting :=
  if cs = ['t', 'r', 'u', 'e'] then some (.bool true)
  else if cs = ['f', 'a', 'l', 's', 'e'] then some (.bool false)
  else
    match integer? cs with
    | some n => some (.integer n)
    | none =>
      if isFloat cs then some .float
      else if isMoment cs then some (.table [])
      else none

/-- The word in front of a text. A blank may stand between a date and a time. -/
def leadingWord (cs : List Char) : List Char × List Char :=
  let first := cs.takeWhile isWordChar
  match cs.drop first.length with
  | ' ' :: r =>
    let second := r.takeWhile isWordChar
    if isDate first ∧ isZonedTime second then (first ++ 'T' :: second, r.drop second.length)
    else (first, ' ' :: r)
  | r => (first, r)

/-- A value that holds no others. -/
def readScalar? (cs : List Char) : Option (Setting × List Char) :=
  match cs with
  | '"' :: _ | '\'' :: _ => (readString? cs).map fun (s, rest) ↦ (.text s, rest)
  | _ =>
    let (w, rest) := leadingWord cs
    (word? w).map (·, rest)

end BalancerSync.Toml
