import BalancerSync.Text.Blank
import BalancerSync.Toml.Literal

/-!
# Settings from the environment

A variable whose name starts with `OVNLB_` is a setting. Two underscores lead into a table. Its
value is read as what it looks like; what looks like nothing else is text.
-/

namespace BalancerSync.Environment

open Text

/-! ## Names -/

/-- What names of variables that are settings start with, in upper or lower case. -/
def mark : String := "OVNLB_"

/-- Every pair of underscores becomes a dot. -/
def joinUnderscores : List Char → List Char
  | '_' :: '_' :: r => '.' :: joinUnderscores r
  | c :: r => c :: joinUnderscores r
  | [] => []

/-- The place of the setting that a variable stands for. No part of it may be empty. -/
def path? (name : String) : Option (List String) :=
  let (front, rest) := name.toList.splitAt mark.length
  if front.map Char.toUpper = mark.toList then
    let parts := splitOn '.' ((trim (joinUnderscores rest)).map Char.toLower)
    if parts.all (!·.isEmpty) then some (parts.map String.ofList) else none
  else none

/-! ## Values -/

/-- Blanks around values; there are no others. -/
def isSpace (c : Char) : Bool :=
  c == ' ' || c == '\t' || c == '\n' || c == '\r' || c == '\x0c'

def skipSpaces (cs : List Char) : List Char := cs.dropWhile isSpace

/-- Characters that end a value without quotes. -/
def isSeparator (c : Char) : Bool :=
  c == ',' || c == '[' || c == ']' || c == '\x7b' || c == '\x7d'

/-- A number with a point, with digits on at least one side of it. -/
def isFloat (cs : List Char) : Bool :=
  let (_, r) := Toml.signed cs
  let (mantissa, exponent) :=
    match r.dropWhile fun c ↦ c != 'e' && c != 'E' with
    | [] => (r, true)
    | e => (r.take (r.length - e.length), (readDigits? 10 (Toml.signed (e.drop 1)).2).isSome)
  match cut '.' mantissa with
  | some (whole, fraction) => exponent && (readDigits? 10 (whole ++ fraction)).isSome
  | none => false

/-- A whole number fits into 64 bits, with or without sign. -/
def integer? (cs : List Char) : Option Int :=
  match readBelow? UInt64.size cs, cs with
  | some n, _ => some n
  | none, '-' :: r => (readDigits? 10 r).bind fun n ↦ if n ≤ Nat.pow 2 63 then some (-n) else none
  | none, _ => none

/-- What a value without quotes looks like. -/
def bare (cs : List Char) : Setting :=
  if isFloat cs then .float
  else
    match integer? cs with
    | some n => .integer n
    | none => .text (String.ofList cs)

def isKeyChar (c : Char) : Bool := c.isAlphanum || c == '_' || c == '-'

def readKey? (cs : List Char) : Option (String × List Char) :=
  match cs with
  | '"' :: r => (Toml.readBasic? r).map fun (s, rest) ↦ (String.ofList s, rest)
  | _ =>
    let key := cs.takeWhile isKeyChar
    if key.isEmpty then none else some (String.ofList key, cs.drop key.length)

mutual

/-- A value with the blanks around it. Fuel for each character suffices. -/
def readValue? : Nat → List Char → Option (Setting × List Char)
  | 0, _ => none
  | fuel + 1, cs => do
    let (s, rest) ← match skipSpaces cs with
      | 't' :: 'r' :: 'u' :: 'e' :: r => some (.bool true, r)
      | 'f' :: 'a' :: 'l' :: 's' :: 'e' :: r => some (.bool false, r)
      | '\x7b' :: r => (readEntries? fuel [] r).map fun (fs, r) ↦ (.table fs, r)
      | '[' :: r => (readItems? fuel r).map fun (items, r) ↦ (.array items, r)
      | '"' :: r => (Toml.readBasic? r).map fun (s, r) ↦ (.text (String.ofList s), r)
      | '\'' :: c :: '\'' :: r => some (.text (String.singleton c), r)
      | '\'' :: _ => none
      | r =>
        let word := r.takeWhile (!isSeparator ·)
        some (bare (trim word), r.drop word.length)
    return (s, skipSpaces rest)

/-- The items of an array up to its closing bracket. A comma may follow the last one. -/
def readItems? : Nat → List Char → Option (List Setting × List Char)
  | 0, _ => none
  | _, ']' :: r => some ([], r)
  | fuel + 1, cs => do
    let (item, rest) ← readValue? fuel cs
    match rest with
    | ',' :: rest =>
      let (items, rest) ← readItems? fuel rest
      return (item :: items, rest)
    | ']' :: rest => return ([item], rest)
    | _ => none

/-- The entries of a table up to its closing brace. A comma may follow the last one. -/
def readEntries? : Nat → Dictionary Setting → List Char → Option (Dictionary Setting × List Char)
  | 0, _, _ => none
  | _, fields, '\x7d' :: r => some (fields, r)
  | fuel + 1, fields, cs => do
    let (key, rest) ← readKey? (skipSpaces cs)
    match skipSpaces rest with
    | '=' :: rest =>
      let (s, rest) ← readValue? fuel rest
      let fields := Dictionary.insert fields key s
      match rest with
      | ',' :: rest => readEntries? fuel fields rest
      | '\x7d' :: rest => return (fields, rest)
      | _ => none
    | _ => none

end

/-- What a value means. If it is nothing as a whole, it is text. -/
def value (raw : String) : Setting :=
  match readValue? (2 * raw.length + 1) raw.toList with
  | some (s, []) => s
  | _ => .text raw

/-! ## All variables -/

/-- The settings among some variables, of which the later ones win. -/
def settings (environment : List (String × String)) : Setting :=
  environment.foldl
    (fun s (name, raw) ↦
      match path? name with
      | some path => s.overlay (.nest path (value raw))
      | none => s)
    (.table [])

end BalancerSync.Environment
