import BalancerSync.Address.Ip

/-!
# Recorded members

The backend records a pool as one text: the entries of its members between commas. An entry is
`member_<id>_<address>:<port>_<subnet>`; in older records the subnet is missing. An address with
colons stands in brackets, so that the last colon is always the one before the port.
-/

namespace BalancerSync

open Text

/-- A member as the backend records it. -/
structure MemberEntry where
  id : String
  address : String
  port : UInt16
  subnetId : Option String
  deriving DecidableEq, Repr

/-- What is wrong with the text of an entry. -/
inductive MemberEntry.Fault
  | tag
  | fieldCount
  | id
  | portSeparator
  | address
  | port
  deriving DecidableEq, Repr

namespace MemberEntry

/-- The entry of a member with this address, however it is spelled. An empty subnet is none. -/
def of (id address : String) (port : UInt16) (subnetId : Option String) : MemberEntry :=
  ⟨id, canonicalAddress address, port, subnetId.filter (· != "")⟩

/-! ## Writing -/

def tag : List Char := "member".toList

/-- The address and port of an entry. -/
def renderEndpoint (address : List Char) (port : UInt16) : List Char :=
  let host := if address.contains ':' then '[' :: address ++ [']'] else address
  host ++ ':' :: showNat port.toNat

def renderSubnet : Option String → List Char
  | none => []
  | some s => '_' :: s.toList

def renderChars (e : MemberEntry) : List Char :=
  tag ++ '_' :: e.id.toList ++ '_' :: renderEndpoint e.address.toList e.port
    ++ renderSubnet e.subnetId

def render (e : MemberEntry) : String := String.ofList e.renderChars

/-! ## Reading -/

def Fault.message : Fault → String
  | tag => "missing member prefix"
  | fieldCount => "expected 3 or 4 '_'-separated fields"
  | id => "empty member id"
  | portSeparator => "missing port separator"
  | address => "empty address"
  | port => "invalid port"

/-- The whole message for a text that is no entry. -/
def Fault.messageFor (f : Fault) (raw : String) : String :=
  "invalid member encoding '" ++ raw ++ "': " ++ f.message

/-- The id, endpoint and subnet of an entry. -/
def readFields (fields : List (List Char)) :
    Except Fault (List Char × List Char × Option (List Char)) :=
  match fields with
  | [t, id, endpoint] => if t = tag then .ok (id, endpoint, none) else .error .tag
  | [t, id, endpoint, subnet] =>
    if t = tag then .ok (id, endpoint, some subnet) else .error .tag
  | t :: _ => if t = tag then .error .fieldCount else .error .tag
  | [] => .error .fieldCount

/-- The address and port after the last colon. -/
def readEndpoint (endpoint : List Char) : Except Fault (List Char × UInt16) :=
  match cutLast ':' endpoint with
  | none => .error .portSeparator
  | some (host, port) =>
    let address := unbracket host
    if address.isEmpty then .error .address
    else
      match readWord16? port with
      | some p => .ok (address, p)
      | none => .error .port

def readChars (cs : List Char) : Except Fault MemberEntry := do
  let (id, endpoint, subnet) ← readFields (splitOn '_' (trim cs))
  if id.isEmpty then throw .id
  let (address, port) ← readEndpoint endpoint
  return of (String.ofList id) (String.ofList address) port (subnet.map String.ofList)

def read (s : String) : Except Fault MemberEntry := readChars s.toList

/-- The entries of a recorded pool. What is no entry is passed over. -/
def readPool (value : String) : List MemberEntry :=
  ((splitOn ',' value.toList).map trim).filterMap fun cs ↦ (readChars cs).toOption

end MemberEntry

end BalancerSync
