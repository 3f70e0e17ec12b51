import BalancerSync.Text.Base64
import BalancerSync.Text.Split

/-!
# Certificates

A bundle of certificates is a text with blocks between lines that begin and end them; what is
outside the blocks does not matter. A block holds bytes in base 64, and those of a certificate are a
nest of elements, each with its length in front.
-/

namespace BalancerSync.Http

open Text

/-! ## Blocks -/

structure Block where
  label : List Char
  bytes : List Nat
  deriving DecidableEq, Repr

/-- What a label says of the bytes in a block. Blocks with another label are not looked into. -/
def blockLabels : List (List Char) :=
  ["CERTIFICATE", "CERTIFICATE REQUEST", "X509 CRL", "PUBLIC KEY", "PRIVATE KEY", "RSA PRIVATE KEY",
    "EC PRIVATE KEY", "ECHCONFIG"].map String.toList

/-- The closed blocks, the label of the one that is open, and what has been in blocks since the last
one was closed. -/
structure BlockProgress where
  closed : List Block
  label : Option (List Char)
  content : List Char

def beginMark : List Char := "-----BEGIN ".toList

def endMark (label : List Char) : List Char := "-----END ".toList ++ label ++ "-----".toList

/-- The label on a line that begins a block. Five dashes are after it, and blanks do not matter
between and after these. -/
def beginLabel? (line : List Char) : Option (List Char) :=
  let rest := (line.drop beginMark.length).reverse
  let isTail := fun c ↦ c == '-' || c == ' '
  let tail := rest.takeWhile isTail
  if tail.count '-' = 5 then
    some ((rest.dropWhile isTail).reverse ++ tail.reverse.takeWhile (· == ' '))
  else none

/-- Takes in one line. A block that begins before the last one has been closed goes on with what is
in that one. -/
def BlockProgress.step (p : BlockProgress) (line : List Char) : Option BlockProgress :=
  if beginMark.isPrefixOf line then
    (beginLabel? line).map fun label ↦ { p with label := some label }
  else
    match p.label with
    | none => some p
    | some label =>
      if (endMark label).isPrefixOf line then
        if blockLabels.contains label then
          (Base64.decode? p.content).map fun bytes ↦ ⟨p.closed ++ [⟨label, bytes⟩], none, []⟩
        else some ⟨p.closed, none, []⟩
      else some { p with content := p.content ++ line }

/-- Lines end with a line feed or a carriage return. -/
def bundleLines (cs : List Char) : List (List Char) :=
  splitOn '\n' (cs.map fun c ↦ if c = '\r' then '\n' else c)

/-- The blocks of a text. Every block is closed. -/
def blocks? (cs : List Char) : Option (List Block) := do
  let p ← (bundleLines cs).foldlM BlockProgress.step ⟨[], none, []⟩
  if p.label.isNone then some p.closed else none

/-! ## Elements -/

/-- An element: its tag, and the bytes it holds. -/
structure Element where
  tag : Nat
  content : List Nat
  deriving DecidableEq, Repr

namespace Element

/-! ### Tags -/

def truth : Nat := 0x01

def integer : Nat := 0x02

def bits : Nat := 0x03

def octets : Nat := 0x04

def identifier : Nat := 0x06

def row : Nat := 0x30

/-- The tag of a field that may be left out. -/
def field (n : Nat) : Nat := 0xA0 + n

/-! ### Reading -/

/-- The length in front of an element: one byte, or as few bytes as suffice after their number. Two
bytes hold every length that is allowed. -/
def length? : List Nat → Option (Nat × List Nat)
  | 0x81 :: n :: r => if 0x80 ≤ n then some (n, r) else none
  | 0x82 :: m :: n :: r =>
    let length := m * 256 + n
    if 0x100 ≤ length ∧ length < 0xFFFF then some (length, r) else none
  | n :: r => if n < 0x80 then some (n, r) else none
  | [] => none

/-- Large tags, which have a form of their own, do not occur. -/
def read? : List Nat → Option (Element × List Nat)
  | [] => none
  | tag :: r => do
    let (length, rest) ← length? r
    if tag % 32 = 31 ∨ rest.length < length then none
    else some (⟨tag, rest.take length⟩, rest.drop length)

/-- All elements in some bytes. Fuel for each byte suffices. -/
def readAll? : Nat → List Nat → Option (List Element)
  | _, [] => some []
  | 0, _ => none
  | fuel + 1, bytes => do
    let (e, rest) ← read? bytes
    return e :: (← readAll? fuel rest)

/-- The elements in an element. -/
def children? (e : Element) : Option (List Element) := readAll? e.content.length e.content

/-- What an element with this tag holds. -/
def holding? (tag : Nat) (e : Element) : Option (List Nat) :=
  if e.tag = tag then some e.content else none

/-- The elements in a row. -/
def row? (e : Element) : Option (List Element) := if e.tag = row then e.children? else none

end Element

/-! ## Extensions -/

/-- An extension of a certificate: what it is, whether it has to be understood, and its value. -/
structure Extension where
  id : List Nat
  critical : Bool
  value : List Nat
  deriving DecidableEq, Repr

namespace Extension

/-- An extension need not be understood if it does not say so. -/
def ofElement? (e : Element) : Option Extension := do
  match ← e.row? with
  | [id, value] =>
    return ⟨← id.holding? Element.identifier, false, ← value.holding? Element.octets⟩
  | [id, flag, value] =>
    let critical ← match ← flag.holding? Element.truth with
      | [0x00] => some false
      | [0xFF] => some true
      | _ => none
    return ⟨← id.holding? Element.identifier, critical, ← value.holding? Element.octets⟩
  | _ => none

/-- The extensions in a field, which holds one row of them. -/
def all? (field : Element) : Option (List Extension) := do
  match ← field.children? with
  | [r] => (← r.row?).mapM ofElement?
  | _ => none

/-- The use of the key. -/
def keyUse : Nat := 15

/-- The extensions that are understood, by their numbers among the standard ones: the use of the
key, other names, whether an authority is certified, the names it may certify, where it says what it
took back, and other uses of the key. -/
def understood : List Nat := [keyUse, 17, 19, 30, 31, 37]

/-- The number of an extension that is understood. -/
def number? (x : Extension) : Option Nat :=
  match x.id with
  | [0x55, 0x1D, n] => if understood.contains n then some n else none
  | _ => none

/-- The value of an extension that is understood is a row, but for the use of the key, which is not
looked into. -/
def isSound (x : Extension) : Bool :=
  match x.number? with
  | some n => n == keyUse ||
    match Element.readAll? x.value.length x.value with
    | some [e] => e.tag == Element.row
    | _ => false
  | none => !x.critical

/-- All are sound, and none that is understood is there twice. -/
def areSound (xs : List Extension) : Bool :=
  xs.all isSound && decide (xs.filterMap number?).Nodup

end Extension

/-! ## Certificates -/

/-- What every certificate states: a serial number, an algorithm, an issuer, a time, a subject and
a key. -/
def statementTags : List Nat :=
  [Element.integer, Element.row, Element.row, Element.row, Element.row, Element.row]

/-- A statement of the third version. It names the algorithm of the signature, and extensions may
follow. -/
def isCurrentStatement (algorithm : Element) : List Element → Bool
  | version :: fields =>
    version.tag == Element.field 0 && version.children? == some [⟨Element.integer, [2]⟩]
      && (fields.map Element.tag).take 6 == statementTags
      && fields[1]? == some algorithm
      && match fields.drop 6 with
        | [] => true
        | [x] => x.tag == Element.field 3 && ((Extension.all? x).map Extension.areSound).getD false
        | _ => false
  | [] => false

/-- A statement of the first version, which does not say so. -/
def isFirstStatement (fields : List Element) : Bool := fields.map Element.tag == statementTags

/-- A signature of whole bytes. -/
def isSignature (e : Element) : Bool :=
  e.tag == Element.bits && e.content.head? == some 0

/-- A certificate is a statement with an algorithm and a signature after it. -/
def isCertificate (bytes : List Nat) : Bool :=
  match Element.readAll? bytes.length bytes with
  | some [e] =>
    match e.row? with
    | some [statement, algorithm, signature] =>
      algorithm.tag == Element.row && isSignature signature &&
        match statement.row? with
        | some fields => isCurrentStatement algorithm fields || isFirstStatement fields
        | none => false
    | _ => false
  | _ => false

/-- Whether a text is a bundle: all blocks are sound and those for certificates hold one. There may
be none at all. -/
def isBundle (cs : List Char) : Bool :=
  match blocks? cs with
  | some bs => bs.all fun b ↦ b.label != "CERTIFICATE".toList || isCertificate b.bytes
  | none => false

end BalancerSync.Http
