import BalancerSync.Json.Decode
import BalancerSync.Json.Printer

/-!
# Change requests

A change request is an operation on the backend with named attributes. Requests are all that the
driver produces; each is written as one line of JSON.
-/

namespace BalancerSync

open Json

inductive Operation
  | lbCreate | lbSync | lbUpdate | lbDelete
  | listenerCreate | listenerSync | listenerUpdate | listenerDelete
  | poolCreate | poolSync | poolUpdate | poolDelete
  | memberCreate | memberSync | memberUpdate | memberDelete | handleMemberDvr
  | hmCreate | hmSync | hmUpdate | hmDelete | hmPurge
  | vipFipSync
  deriving DecidableEq, Repr

namespace Operation

def all : List Operation :=
  [lbCreate, lbSync, lbUpdate, lbDelete,
    listenerCreate, listenerSync, listenerUpdate, listenerDelete,
    poolCreate, poolSync, poolUpdate, poolDelete,
    memberCreate, memberSync, memberUpdate, memberDelete, handleMemberDvr,
    hmCreate, hmSync, hmUpdate, hmDelete, hmPurge, vipFipSync]

def name : Operation → String
  | lbCreate => "lb_create"
  | lbSync => "lb_sync"
  | lbUpdate => "lb_update"
  | lbDelete => "lb_delete"
  | listenerCreate => "listener_create"
  | listenerSync => "listener_sync"
  | listenerUpdate => "listener_update"
  | listenerDelete => "listener_delete"
  | poolCreate => "pool_create"
  | poolSync => "pool_sync"
  | poolUpdate => "pool_update"
  | poolDelete => "pool_delete"
  | memberCreate => "member_create"
  | memberSync => "member_sync"
  | memberUpdate => "member_update"
  | memberDelete => "member_delete"
  | handleMemberDvr => "handle_member_dvr"
  | hmCreate => "hm_create"
  | hmSync => "hm_sync"
  | hmUpdate => "hm_update"
  | hmDelete => "hm_delete"
  | hmPurge => "hm_purge"
  | vipFipSync => "vip_fip_sync"

def ofName? (s : String) : Option Operation :=
  all.find? (·.name == s)

end Operation

/-- Whether a member has joined or left its pool. -/
inductive Membership
  | added
  | deleted
  deriving DecidableEq, Repr

namespace Membership

def name : Membership → String
  | added => "member_added"
  | deleted => "member_deleted"

def ofName? (s : String) : Option Membership :=
  [added, deleted].find? (·.name == s)

end Membership

/-- Attributes by name, in the order in which they are written. -/
abbrev Attributes := Dictionary Value

structure ChangeRequest where
  operation : Operation
  info : Attributes
  deriving BEq, Repr

namespace ChangeRequest

def get? (r : ChangeRequest) (key : String) : Option Value := Dictionary.get? r.info key

def text? (r : ChangeRequest) (key : String) : Option String :=
  (r.get? key).bind Value.asText?

def keys (r : ChangeRequest) : List String := Dictionary.keys r.info

/-! ## The JSON form -/

def toJson (r : ChangeRequest) : Value :=
  .object [("type", .text r.operation.name), ("info", .object r.info)]

def compact (r : ChangeRequest) : String := r.toJson.compact

/-- One line for each request. -/
def renderLines (rs : List ChangeRequest) : String :=
  String.ofList (rs.flatMap fun r ↦ r.toJson.render ++ ['\n'])

def readAttributes? (t : Tree) : Option Attributes := do
  match ← Tree.toValue? (depthLimit - 1) t with
  | .object fields => some fields
  | _ => none

def ofTree? (t : Tree) : Option ChangeRequest := do
  let r ← t.record? ["type", "info"]
  let operation ← Tree.required (fun t ↦ t.asName?.bind Operation.ofName?) (r "type")
  let info ← Tree.required readAttributes? (r "info")
  return ⟨operation, info⟩

def read? (cs : List Char) : Option ChangeRequest :=
  (Tree.read? cs).bind ofTree?

def ofBytes? (bytes : ByteArray) : Option ChangeRequest :=
  (String.fromUTF8? bytes).bind fun s ↦ read? s.toList

end ChangeRequest

end BalancerSync
