import BalancerSync.Text.Blank
import BalancerSync.Url.Host

/-!
# URLs

A URL is taken apart at its delimiters: the scheme, who and where, the path, the query and the
fragment. Reading brings each part into its normal form, so the text of a URL that has been read is
its normal form as a whole.
-/

namespace BalancerSync

open Text

namespace Url

/-- A path is a row of segments, or one text in a URL that does not have parts. -/
inductive Path
  | flat (text : String)
  | segments (ss : List String)
  deriving DecidableEq, Repr

end Url

structure Url where
  scheme : String
  username : String
  password : String
  host : Option Url.Host
  port : Option UInt16
  path : Url.Path
  query : Option String
  fragment : Option String
  deriving DecidableEq, Repr

namespace Url

/-! ## Schemes -/

/-- The well-known schemes, with the ports that need not be named. -/
def specialSchemes : List (String × Option UInt16) :=
  [("http", some 80), ("https", some 443), ("ws", some 80), ("wss", some 443), ("ftp", some 21),
    ("file", none)]

def isSpecialScheme (scheme : String) : Bool := specialSchemes.any (·.1 == scheme)

def defaultPort (scheme : String) : Option UInt16 :=
  (specialSchemes.find? (·.1 == scheme)).bind (·.2)

def isSchemeChar (c : Char) : Bool := c.isAlphanum || c == '+' || c == '-' || c == '.'

/-- Tabs and line ends. They count nowhere in a URL, save after a drive. -/
def isGap (c : Char) : Bool := c == '\t' || c == '\n' || c == '\r'

def dropGaps (cs : List Char) : List Char := cs.filter (!isGap ·)

/-- The scheme in front of a text, and what is after its colon. -/
def readScheme? (cs : List Char) : Option (String × List Char) := do
  let (scheme, rest) ← cut ':' cs
  let scheme := dropGaps scheme
  let first ← scheme.head?
  if first.isAlpha ∧ scheme.all isSchemeChar then
    return (String.ofList (scheme.map Char.toLower), rest)
  else none

/-! ## Delimiters -/

/-- Blanks and control characters around a URL do not belong to it. -/
def trimEnds (cs : List Char) : List Char :=
  let isEdge := fun c : Char ↦ c.toNat ≤ 0x20
  dropEnd isEdge (cs.dropWhile isEdge)

/-- What is in front of a mark, and what is after it if it is there. -/
def cutOff (mark : Char) (cs : List Char) : List Char × Option (List Char) :=
  match cut mark cs with
  | some (a, b) => (a, some b)
  | none => (cs, none)

/-- In the well-known schemes a backslash is as good as a slash. -/
def isSlash (special : Bool) (c : Char) : Bool := c == '/' || (special && c == '\\')

/-- The fields between slashes. -/
def splitSlashes (special : Bool) (cs : List Char) : List (List Char) :=
  splitOn '/' (cs.map fun c ↦ if isSlash special c then '/' else c)

def readQuery (special : Bool) (cs : List Char) : String :=
  String.ofList (percentEncode (if special then inSpecialQuery else inQuery) (dropGaps cs))

def readFragment (cs : List Char) : String :=
  String.ofList (percentEncode inFragment (dropGaps cs))

/-! ## Paths -/

/-- A segment with its dots in either spelling written as dots. -/
def plainDots : List Char → List Char
  | '%' :: '2' :: 'e' :: r | '%' :: '2' :: 'E' :: r => '.' :: plainDots r
  | c :: r => c :: plainDots r
  | [] => []

/-- Whether a segment names a drive: a letter and a colon or a bar, and a backslash if there is
more. -/
def isDrive : List Char → Bool
  | c :: mark :: r => c.isAlpha && (mark == ':' || mark == '|') && r.head?.all (· == '\\')
  | _ => false

/-- Goes back by one segment, but never past a drive. -/
def goBack (path : List String) : List String :=
  if path.getLast?.any fun s ↦ isDrive s.toList then path else path.dropLast

/-- A drive and what is after it in its segment, with a gap between them. -/
def cutDrive? (s : List Char) : Option (List Char × List Char) := do
  let (letter, rest) ← cut ':' s
  let drive := dropGaps letter ++ [':']
  if isDrive drive ∧ rest.head?.any isGap ∧ dropGaps rest ≠ [] then some (drive, dropGaps rest)
  else none

/-- A segment as it is written. The drive that a file is on has a colon, and what a gap parts from
it is a segment of its own. -/
def readSegment (isRoot : Bool) (s : List Char) : List String :=
  let plain := dropGaps s
  let written :=
    match if isRoot then cutDrive? s else none with
    | some (drive, rest) => [drive, percentEncode inPath rest]
    | none =>
      if isRoot && isDrive plain then [plain.take 1 ++ [':']] else [percentEncode inPath plain]
  written.map String.ofList

/-- Follows segments from those of a path. One dot stays, two dots go back; at the end both leave
an empty segment. -/
def follow (scheme : String) (path : List String) : List (List Char) → List String
  | [] => path
  | s :: rest =>
    let dots := plainDots (dropGaps s)
    let path :=
      if dots = ['.', '.'] then
        if rest.isEmpty then goBack path ++ [""] else goBack path
      else if dots = ['.'] then if rest.isEmpty then path ++ [""] else path
      else path ++ readSegment (scheme == "file" && path.isEmpty) s
    follow scheme path rest

/-- The path of a file has no empty segments at its front. -/
def trimPath (scheme : String) (path : List String) : List String :=
  if scheme = "file" then
    let rest := path.dropWhile (· == "")
    if rest.isEmpty then [""] else rest
  else path

/-- What is after a slash at the front. -/
def afterSlash? (special : Bool) (cs : List Char) : Option (List Char) :=
  match cs.dropWhile isGap with
  | [] => none
  | c :: r => if isSlash special c then some r else none

/-- The segments of a path from its first slash on. A path in the well-known schemes is never
empty. -/
def readPath (scheme : String) (cs : List Char) : List String :=
  let special := isSpecialScheme scheme
  if cs.isEmpty ∧ !special then []
  else follow scheme [] (splitSlashes special ((afterSlash? special cs).getD cs))

/-! ## Who and where -/

/-- The text in front of a port, and the port's. Colons in brackets do not count. -/
def cutPort (inside : Bool) : List Char → List Char × Option (List Char)
  | [] => ([], none)
  | c :: r =>
    if c = ':' ∧ !inside then ([], some r)
    else
      let (a, b) := cutPort (c == '[' || (inside && c != ']')) r
      (c :: a, b)

/-- A port that is not the one that the scheme has anyway. -/
def readPort (scheme : String) (cs : List Char) : Except ParseError (Option UInt16) :=
  if cs.isEmpty then .ok none
  else
    match readDigits? 10 cs with
    | some n =>
      if n < 65536 then
        .ok (if defaultPort scheme = some (UInt16.ofNat n) then none else some (UInt16.ofNat n))
      else .error .badPort
    | none => .error .badPort

/-- User, password, host and port. -/
structure Authority where
  username : String
  password : String
  host : Host
  port : Option UInt16
  deriving DecidableEq, Repr

/-- Reads user, password, host and port, and gives back what is of the path already: outside the
well-known schemes a backslash ends a port, and the path begins with it. Without a host there is
neither a user nor a port. A lone at sign is no user if nothing is after it. -/
def readAuthority (scheme : String) (isLast : Bool) (cs : List Char) :
    Except ParseError (Authority × List Char) := do
  let (userinfo, place) :=
    match cutLast '@' cs with
    | some (u, p) => (some u, p)
    | none => (none, cs)
  let (user, password) := cutOff ':' (userinfo.getD [])
  let password := password.getD []
  let (host, port) := cutPort false place
  let isUser := !user.isEmpty || !password.isEmpty || (userinfo == some [] && !isLast)
  if host.isEmpty ∧ (isSpecialScheme scheme ∨ isUser ∨ port.isSome) then
    throw .emptyHost
  let host ← if isSpecialScheme scheme then Host.readSpecial host else Host.readOther host
  let port := port.getD []
  let rest := port.dropWhile (· != '\\')
  let port ← readPort scheme (port.takeWhile (· != '\\'))
  return (⟨String.ofList (percentEncode inUserinfo user),
    String.ofList (percentEncode inUserinfo password), host, port⟩,
    if rest.isEmpty then [] else '/' :: rest)

/-- The host of a file, which may be left out; the name of the own host is left out too. -/
def readFileHost (cs : List Char) : Except ParseError Host :=
  if cs.isEmpty then .ok (.name "")
  else (Host.readSpecial cs).map fun h ↦ if h = .name "localhost" then .name "" else h

/-! ## Reading -/

/-- What is in front of the first slash, and the slash with what is after it. -/
def cutSlash (special : Bool) (cs : List Char) : List Char × List Char :=
  (cs.takeWhile (!isSlash special ·), cs.dropWhile (!isSlash special ·))

/-- The host and the path of a file, after two slashes. A file on a drive has no host, unless the
drive is only parted from what follows by a gap; nor has one whose host looks like a drive. -/
def readFile (cs : List Char) : Except ParseError (Host × List String) := do
  let (host, path) := cutSlash true cs
  let host := dropGaps host
  if isDrive host then return (.name "", follow "file" [] (splitSlashes true cs))
  let host ← readFileHost host
  if host = .name "" then return (host, follow "file" [] (splitSlashes true path))
  let isOnDrive := (readPath "file" (dropGaps path)).head?.any fun s ↦ isDrive s.toList
  return (if isOnDrive then .name "" else host, readPath "file" path)

/-- What is between the scheme and the query, if there is one. -/
def readBody (scheme : String) (isLast : Bool) (cs : List Char) :
    Except ParseError (Option Authority × Path) := do
  if scheme = "file" then
    let (host, path) ← match (afterSlash? true cs).bind (afterSlash? true) with
      | some r => readFile r
      | none => .ok (.name "", readPath scheme cs)
    return (some ⟨"", "", host, none⟩, .segments (trimPath scheme path))
  else if isSpecialScheme scheme then
    let (authority, path) := cutSlash true ((dropGaps cs).dropWhile (isSlash true))
    let (authority, _) ← readAuthority scheme isLast authority
    return (some authority, .segments (readPath scheme path))
  else
    match dropGaps cs with
    | '/' :: '/' :: r =>
      let (authority, path) := cutSlash false r
      let (authority, rest) ← readAuthority scheme (isLast && path.isEmpty) authority
      return (some authority, .segments (readPath scheme (rest ++ path)))
    | '/' :: r => return (none, .segments (readPath scheme ('/' :: r)))
    | cs => return (none, .flat (String.ofList (percentEncode isControl cs)))

/-- Reads a URL. -/
def read (text : String) : Except ParseError Url := do
  let (cs, fragment) := cutOff '#' (trimEnds text.toList)
  let (cs, query) := cutOff '?' cs
  match readScheme? cs with
  | none => throw .relative
  | some (scheme, body) =>
    let (authority, path) ← readBody scheme (query.isNone && fragment.isNone) body
    return {
      scheme
      username := (authority.map Authority.username).getD ""
      password := (authority.map Authority.password).getD ""
      host := authority.map Authority.host
      port := authority.bind Authority.port
      path
      query := query.map (readQuery (isSpecialScheme scheme))
      fragment := fragment.map readFragment }

/-! ## References -/

/-- The URL that a reference names which starts with a segment of a path: the last segment of the
base gives way to it. -/
def resolve (base : Url) (reference : String) : Except ParseError Url :=
  match base.path with
  | .flat _ => .error .flatBase
  | .segments ss =>
    let special := isSpecialScheme base.scheme
    let (cs, fragment) := cutOff '#' (trimEnds reference.toList)
    let (cs, query) := cutOff '?' cs
    let path := follow base.scheme ss.dropLast (splitSlashes special cs)
    .ok { base with
      path := .segments (trimPath base.scheme path)
      query := query.map (readQuery special)
      fragment := fragment.map readFragment }

/-- The URL with a slash at the end of its path, so that references go below it. -/
def asFolder (url : Url) : Url :=
  match url.path with
  | .flat text =>
    if text.toList.getLast? = some '/' then url else { url with path := .flat (text ++ "/") }
  | .segments ss =>
    if ss.getLast? = some "" then url else { url with path := .segments (ss ++ [""]) }

/-- The URL with names and values as its query. Without any it has none. -/
def withQuery (url : Url) (pairs : List (String × String)) : Url :=
  if pairs.isEmpty then url else { url with query := some (String.ofList (formQuery pairs)) }

/-! ## Writing -/

def renderUserinfo (url : Url) : List Char :=
  if url.username = "" ∧ url.password = "" then []
  else
    url.username.toList
      ++ (if url.password = "" then [] else ':' :: url.password.toList) ++ ['@']

def renderPort (url : Url) : List Char :=
  match url.port with
  | some p => ':' :: showNat p.toNat
  | none => []

def Path.render : Path → List Char
  | flat text => text.toList
  | segments ss => ss.flatMap fun s ↦ '/' :: s.toList

/-- Two slashes in front of a path would be taken for those in front of a host. -/
def renderGap (url : Url) : List Char :=
  match url.host, url.path with
  | none, .segments ("" :: _ :: _) => ['/', '.']
  | _, _ => []

def renderHost (url : Url) : List Char :=
  match url.host with
  | some h => '/' :: '/' :: renderUserinfo url ++ h.render ++ renderPort url
  | none => []

/-- The path alone. -/
def pathText (url : Url) : String := String.ofList url.path.render

/-- The path and the query. -/
def target (url : Url) : String :=
  String.ofList (url.path.render ++ match url.query with
    | some q => '?' :: q.toList
    | none => [])

def render (url : Url) : String :=
  String.ofList (url.scheme.toList ++ ':' :: renderHost url ++ renderGap url) ++ url.target
    ++ match url.fragment with
      | some f => "#" ++ f
      | none => ""

end Url

end BalancerSync
