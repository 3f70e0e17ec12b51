import BalancerSync.Json.Literal

/-!
# JSON texts

The lexer turns a text into tokens and a stack of open containers turns the tokens into a tree.
The tree shows everything that a text can say: fields in the order of writing with repetitions,
numbers by their digits, and strings whose escapes may stand for no character. Which of this is an
error is up to the reader of the tree.
-/

namespace BalancerSync.Json

open Text

/-- A JSON text that has been read. A string is `none` if half of a surrogate pair is missing. -/
inductive Tree
  | null
  | bool (b : Bool)
  | number (n : Literal)
  | text (t : Option String)
  | array (items : List Tree)
  | object (fields : List (Option String × Tree))
  deriving Repr, Inhabited

inductive Token
  | openArray | closeArray | openObject | closeObject | comma | colon
  | null
  | bool (b : Bool)
  | number (n : Literal)
  | text (t : Option String)
  deriving DecidableEq, Repr

/-! ## Strings -/

/-- What a backslash and this character stand for. -/
def escaped? : Char → Option Nat
  | '"' => some 0x22
  | '\\' => some 0x5c
  | '/' => some 0x2f
  | 'b' => some 8
  | 'f' => some 0xc
  | 'n' => some 0xa
  | 'r' => some 0xd
  | 't' => some 9
  | _ => none

/-- The code units of a string up to its closing quote, and the text after it. Control characters
have to be escaped. -/
def readUnits : List Char → Option (List Nat × List Char)
  | '"' :: r => some ([], r)
  | '\\' :: 'u' :: a :: b :: c :: d :: r => do
    let u ← readDigits? 16 [a, b, c, d]
    let (us, rest) ← readUnits r
    return (u :: us, rest)
  | '\\' :: e :: r => do
    let u ← escaped? e
    let (us, rest) ← readUnits r
    return (u :: us, rest)
  | c :: r => do
    if c.toNat < 0x20 then none
    else
      let (us, rest) ← readUnits r
      return (c.toNat :: us, rest)
  | [] => none

def isHighSurrogate (u : Nat) : Bool := 0xD800 ≤ u && u < 0xDC00

def isLowSurrogate (u : Nat) : Bool := 0xDC00 ≤ u && u < 0xE000

/-- The characters that code units stand for; surrogates have to come in pairs. -/
def ofUnits : List Nat → Option (List Char)
  | [] => some []
  | [u] => if isHighSurrogate u || isLowSurrogate u then none else some [Char.ofNat u]
  | u :: v :: r =>
    if isHighSurrogate u then
      if isLowSurrogate v then
        (ofUnits r).map (Char.ofNat (0x10000 + (u - 0xD800) * 0x400 + (v - 0xDC00)) :: ·)
      else none
    else if isLowSurrogate u then none
    else (ofUnits (v :: r)).map (Char.ofNat u :: ·)

/-- The string after an opening quote, and the text after its closing quote. -/
def readString? (cs : List Char) : Option (Option String × List Char) :=
  (readUnits cs).map fun (us, rest) ↦ ((ofUnits us).map String.ofList, rest)

/-! ## Numbers -/

/-- The digits in front of a text. -/
def leadingDigits (cs : List Char) : List Nat × List Char :=
  ((cs.takeWhile Char.isDigit).filterMap (digit? 10), cs.dropWhile Char.isDigit)

/-- A fraction has at least one digit. -/
def readFraction? : List Char → Option (List Nat × List Char)
  | '.' :: r =>
    let (ds, rest) := leadingDigits r
    if ds.isEmpty then none else some (ds, rest)
  | cs => some ([], cs)

def readExponent? : List Char → Option (Option Int × List Char)
  | c :: r =>
    if c = 'e' ∨ c = 'E' then
      let (negative, r) :=
        match r with
        | '-' :: r => (true, r)
        | '+' :: r => (false, r)
        | _ => (false, r)
      let (ds, rest) := leadingDigits r
      if ds.isEmpty then none
      else
        let n : Int := ofDigits 10 ds
        some (some (if negative then -n else n), rest)
    else some (none, c :: r)
  | [] => some (none, [])

/-- A literal has no leading zeros. -/
def readLiteral? (cs : List Char) : Option (Literal × List Char) := do
  let (negative, r) :=
    match cs with
    | '-' :: r => (true, r)
    | _ => (false, cs)
  let (whole, r) := leadingDigits r
  if whole.isEmpty ∨ (whole.head? = some 0 ∧ 1 < whole.length) then none
  else
    let (fraction, r) ← readFraction? r
    let (exponent, r) ← readExponent? r
    return (⟨negative, whole, fraction, exponent⟩, r)

/-! ## Tokens -/

/-- Between tokens only these four are blank. -/
def isSpace (c : Char) : Bool :=
  c == ' ' || c == '\n' || c == '\t' || c == '\r'

/-- The first token of a text that does not start with a blank, and the text after it. -/
def readToken? : List Char → Option (Token × List Char)
  | '[' :: r => some (.openArray, r)
  | ']' :: r => some (.closeArray, r)
  | '\x7b' :: r => some (.openObject, r)
  | '\x7d' :: r => some (.closeObject, r)
  | ',' :: r => some (.comma, r)
  | ':' :: r => some (.colon, r)
  | 'n' :: 'u' :: 'l' :: 'l' :: r => some (.null, r)
  | 't' :: 'r' :: 'u' :: 'e' :: r => some (.bool true, r)
  | 'f' :: 'a' :: 'l' :: 's' :: 'e' :: r => some (.bool false, r)
  | '"' :: r => (readString? r).map fun (t, rest) ↦ (.text t, rest)
  | cs => (readLiteral? cs).map fun (n, rest) ↦ (.number n, rest)

/-- The tokens of a text. Each token is a part of what is left, so the text gets shorter; the test
for it is never false. -/
def tokens? (cs : List Char) : Option (List Token) :=
  match cs with
  | [] => some []
  | c :: r =>
    if isSpace c then tokens? r
    else
      match readToken? (c :: r) with
      | none => none
      | some (t, rest) =>
        if rest.length < (c :: r).length then (tokens? rest).map (t :: ·) else none
termination_by cs.length
decreasing_by
  · exact Nat.lt_succ_self r.length
  · assumption

/-! ## Trees -/

/-- A container that is not closed yet, with what it holds so far in reverse. -/
inductive Frame
  | array (done : List Tree)
  | object (done : List (Option String × Tree))
  | field (done : List (Option String × Tree)) (key : Option String)
  deriving Repr

/-- What may come next. -/
inductive Goal
  | value
  | itemOrClose
  | keyOrClose
  | key
  | colon
  | commaOrClose
  | finish (t : Tree)
  deriving Repr

/-- The open containers, the innermost first, and what may come next. -/
structure Progress where
  goal : Goal
  frames : List Frame
  deriving Repr

namespace Progress

def start : Progress := ⟨.value, []⟩

/-- Puts a whole value where it belongs. -/
def complete (t : Tree) : List Frame → Option Progress
  | [] => some ⟨.finish t, []⟩
  | .array done :: fs => some ⟨.commaOrClose, .array (t :: done) :: fs⟩
  | .field done key :: fs => some ⟨.commaOrClose, .object ((key, t) :: done) :: fs⟩
  | .object _ :: _ => none

/-- A token where a value may start. -/
def startValue (frames : List Frame) : Token → Option Progress
  | .null => complete .null frames
  | .bool b => complete (.bool b) frames
  | .number n => complete (.number n) frames
  | .text t => complete (.text t) frames
  | .openArray => some ⟨.itemOrClose, .array [] :: frames⟩
  | .openObject => some ⟨.keyOrClose, .object [] :: frames⟩
  | _ => none

def step (p : Progress) (t : Token) : Option Progress :=
  match p.goal, p.frames, t with
  | .value, frames, t => startValue frames t
  | .itemOrClose, .array _ :: frames, .closeArray => complete (.array []) frames
  | .itemOrClose, frames, t => startValue frames t
  | .keyOrClose, .object _ :: frames, .closeObject => complete (.object []) frames
  | .keyOrClose, .object done :: frames, .text k => some ⟨.colon, .field done k :: frames⟩
  | .key, .object done :: frames, .text k => some ⟨.colon, .field done k :: frames⟩
  | .colon, frames, .colon => some ⟨.value, frames⟩
  | .commaOrClose, .array done :: frames, .comma => some ⟨.value, .array done :: frames⟩
  | .commaOrClose, .array done :: frames, .closeArray => complete (.array done.reverse) frames
  | .commaOrClose, .object done :: frames, .comma => some ⟨.key, .object done :: frames⟩
  | .commaOrClose, .object done :: frames, .closeObject => complete (.object done.reverse) frames
  | _, _, _ => none

def result? (p : Progress) : Option Tree :=
  match p.goal with
  | .finish t => some t
  | _ => none

end Progress

/-- The tree of a text that is one JSON value with blanks around it. -/
def Tree.read? (cs : List Char) : Option Tree := do
  let ts ← tokens? cs
  let p ← ts.foldlM Progress.step Progress.start
  p.result?

end BalancerSync.Json
