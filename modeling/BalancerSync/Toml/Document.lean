import BalancerSync.Toml.Literal

/-!
# Configuration files

A file is a row of statements: headers of tables, headers of new elements in arrays of tables, and
entries. An entry belongs to the table of the last header; dots in keys lead into tables inside it.
What a table has been made by decides where it may be written to again, so this is kept until the
end of the file.
-/

namespace BalancerSync.Toml

/-! ## Reading -/

/-- Drops blanks, line ends and comments. -/
def skipLines (inComment : Bool) : List Char → List Char
  | [] => []
  | c :: r =>
    if c == '\n' then skipLines false r
    else if inComment then if isPlain c then skipLines true r else c :: r
    else if isSpace c then skipLines false r
    else if c == '#' then skipLines true r
    else c :: r

def skipSpaces (cs : List Char) : List Char := cs.dropWhile isSpace

def isBareKeyChar (c : Char) : Bool := c.isAlphanum || c == '_' || c == '-'

/-- A key without dots, bare or in quotes on one line. -/
def readSimpleKey? (cs : List Char) : Option (String × List Char) :=
  match cs with
  | '"' :: r => (readBasic? r).map fun (s, rest) ↦ (String.ofList s, rest)
  | '\'' :: r => (readVerbatim? r).map fun (s, rest) ↦ (String.ofList s, rest)
  | _ =>
    let key := cs.takeWhile isBareKeyChar
    if key.isEmpty then none else some (String.ofList key, cs.drop key.length)

/-- Keys with dots between them. Each key is a part of what is left, so the text gets shorter; the
test for it is never false. -/
def readKey? (cs : List Char) : Option (List String × List Char) :=
  match readSimpleKey? (skipSpaces cs) with
  | none => none
  | some (key, rest) =>
    match skipSpaces rest with
    | '.' :: r =>
      if r.length < cs.length then (readKey? r).map fun (keys, rest) ↦ (key :: keys, rest)
      else none
    | r => some ([key], r)
termination_by cs.length

/-- Values hold others in fewer levels than this, and keys have fewer parts. -/
def depthLimit : Nat := 80

def readPath? (cs : List Char) : Option (List String × List Char) :=
  (readKey? cs).filter (·.1.length < depthLimit)

/-! ## Tables -/

/-- What a table was made by. -/
inductive Origin
  /-- Its own header. -/
  | header
  /-- The header of a table inside it. -/
  | inner
  /-- A dotted key. -/
  | dotted
  deriving DecidableEq, Repr

/-- A part of a file that has been read so far. Of an array of tables only the last element can
still change. -/
inductive Node
  | value (s : Setting)
  | table (origin : Origin) (fields : List (String × Node))
  | tables (done : List Setting) (last : List (String × Node))

mutual

def Node.toSetting : Node → Setting
  | .value s => s
  | .table _ fields => .table (fieldSettings fields)
  | .tables done last => .array (done ++ [.table (fieldSettings last)])

def fieldSettings : List (String × Node) → List (String × Setting)
  | [] => []
  | (key, n) :: rest => (key, n.toSetting) :: fieldSettings rest

end

abbrev Fields := Dictionary Node

namespace Fields

/-- Changes the fields of the table at a path of headers, which is made if it is not there. -/
def within (f : Fields → Option Fields) : List String → Fields → Option Fields
  | [], fields => f fields
  | key :: path, fields =>
    match Dictionary.get? fields key with
    | none => (within f path []).map fun i ↦ Dictionary.insert fields key (.table .inner i)
    | some (.table o i) => (within f path i).map fun i ↦ Dictionary.insert fields key (.table o i)
    | some (.tables done last) =>
      (within f path last).map fun l ↦ Dictionary.insert fields key (.tables done l)
    | some (.value _) => none

/-- The table of a header. It may be there already only because of tables inside it. -/
def openTable? (key : String) (fields : Fields) : Option Fields :=
  match Dictionary.get? fields key with
  | none => some (Dictionary.insert fields key (.table .header []))
  | some (.table .inner i) => some (Dictionary.insert fields key (.table .header i))
  | _ => none

/-- A new element of an array of tables. -/
def openElement? (key : String) (fields : Fields) : Option Fields :=
  match Dictionary.get? fields key with
  | none => some (Dictionary.insert fields key (.tables [] []))
  | some (.tables done last) =>
    some (Dictionary.insert fields key (.tables (done ++ [.table (fieldSettings last)]) []))
  | _ => none

/-- Writes a value that is not there yet. Dots lead into no table that has a header, and the last
one leads into a table that only dots have made. -/
def put? (s : Setting) : List String → Fields → Option Fields
  | [], _ => none
  | [key], fields =>
    if Dictionary.has fields key then none else some (Dictionary.insert fields key (.value s))
  | key :: path, fields =>
    match Dictionary.get? fields key with
    | none => (put? s path []).map fun i ↦ Dictionary.insert fields key (.table .dotted i)
    | some (.table o i) =>
      if o = .header ∨ (path.length = 1 ∧ o ≠ .dotted) then none
      else (put? s path i).map fun i ↦ Dictionary.insert fields key (.table o i)
    | some (.tables done last) =>
      if path.length = 1 then none
      else (put? s path last).map fun l ↦ Dictionary.insert fields key (.tables done l)
    | some (.value _) => none

end Fields

/-! ## Values -/

mutual

/-- A value whose containers are nested at most `depth` deep. Fuel for each character suffices. -/
def readValue? (depth : Nat) : Nat → List Char → Option (Setting × List Char)
  | 0, _ => none
  | fuel + 1, '[' :: r =>
    if depth = 0 then none
    else (readItems? (depth - 1) fuel r).map fun (items, rest) ↦ (.array items, rest)
  | fuel + 1, '\x7b' :: r =>
    if depth = 0 then none
    else
      match skipSpaces r with
      | '\x7d' :: rest => some (.table [], rest)
      | r =>
        (readInline? (depth - 1) fuel [] r).map fun (fields, rest) ↦
          (.table (fieldSettings fields), rest)
  | _, cs => readScalar? cs

/-- The items of an array up to its closing bracket. A comma may follow the last one. -/
def readItems? (depth : Nat) : Nat → List Char → Option (List Setting × List Char)
  | 0, _ => none
  | fuel + 1, cs =>
    match skipLines false cs with
    | ']' :: rest => some ([], rest)
    | cs => do
      let (item, rest) ← readValue? depth fuel cs
      match skipLines false rest with
      | ']' :: rest => return ([item], rest)
      | ',' :: rest =>
        let (items, rest) ← readItems? depth fuel rest
        return (item :: items, rest)
      | _ => none

/-- The entries of a table on one line up to its closing brace. -/
def readInline? (depth : Nat) : Nat → Fields → List Char → Option (Fields × List Char)
  | 0, _, _ => none
  | fuel + 1, fields, cs => do
    let (path, rest) ← readPath? cs
    match rest with
    | '=' :: rest =>
      let (s, rest) ← readValue? depth fuel (skipSpaces rest)
      let fields ← fields.put? s path
      match skipSpaces rest with
      | '\x7d' :: rest => return (fields, rest)
      | ',' :: rest => readInline? depth fuel fields rest
      | _ => none
    | _ => none

end

/-! ## Statements -/

inductive Statement
  | table (path : List String)
  | element (path : List String)
  | entry (path : List String) (s : Setting)
  deriving Repr

/-- A statement and the text after it on its line. -/
def readStatement? (cs : List Char) : Option (Statement × List Char) :=
  match cs with
  | '[' :: '[' :: r => do
    let (path, rest) ← readPath? r
    match rest with
    | ']' :: ']' :: rest => return (.element path, rest)
    | _ => none
  | '[' :: r => do
    let (path, rest) ← readPath? r
    match rest with
    | ']' :: rest => return (.table path, rest)
    | _ => none
  | _ => do
    let (path, rest) ← readPath? cs
    match rest with
    | '=' :: rest =>
      let (s, rest) ← readValue? (depthLimit - 1) (rest.length + 1) (skipSpaces rest)
      return (.entry path s, rest)
    | _ => none

/-- Nothing but a comment may follow a statement on its line. -/
def isLineEnd (cs : List Char) : Bool :=
  match cs.head? with
  | none => true
  | some c => c == '\n' || c == '#'

/-- All statements of a text. -/
def statements? (cs : List Char) : Option (List Statement) :=
  match skipLines false cs with
  | [] => some []
  | rest =>
    match readStatement? rest with
    | none => none
    | some (s, rest) =>
      if isLineEnd (skipSpaces rest) ∧ rest.length < cs.length then
        (statements? rest).map (s :: ·)
      else none
termination_by cs.length

/-! ## Files -/

/-- The table of the last header, and all that has been read. -/
structure Progress where
  current : List String
  fields : Fields

def Progress.step (p : Progress) : Statement → Option Progress
  | .table path => do
    let fields ← p.fields.within (·.openTable? (← path.getLast?)) path.dropLast
    return ⟨path, fields⟩
  | .element path => do
    let fields ← p.fields.within (·.openElement? (← path.getLast?)) path.dropLast
    return ⟨path, fields⟩
  | .entry path s => do
    let fields ← p.fields.within (·.put? s path) p.current
    return { p with fields }

/-- Writes every line end as one character. -/
def joinLineEnds : List Char → List Char
  | '\r' :: '\n' :: r => '\n' :: joinLineEnds r
  | c :: r => c :: joinLineEnds r
  | [] => []

/-- Takes away the mark that may stand in front of a file. -/
def dropMark : List Char → List Char
  | '\uFEFF' :: r => r
  | cs => cs

/-- The settings in the text of a file. -/
def read? (text : String) : Option Setting := do
  let statements ← statements? (joinLineEnds (dropMark text.toList))
  let p ← statements.foldlM Progress.step ⟨[], []⟩
  return .table (fieldSettings p.fields)

end BalancerSync.Toml
