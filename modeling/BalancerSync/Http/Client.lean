import BalancerSync.Config.Basic
import BalancerSync.Http.Certificate
import BalancerSync.Http.Message
import BalancerSync.Json.Decode
import BalancerSync.Text.Quoted

/-!
# Clients

A client knows where its API is and has the token for it. It sends requests to places below the
API's own and reads what comes back: the body of a success is JSON of the right shape, and that of a
failure may hold a message.
-/

namespace BalancerSync.Http

open Json Text

variable {σ α : Type}

/-! ## Clients -/

structure Client where
  /-- Ends in a slash, so that references go below it. -/
  base : Url
  token : String
  deriving DecidableEq, Repr

/-- Whether a token can stand in a header: no control character but the tab is in it. -/
def isToken (token : String) : Bool :=
  token.toList.all fun c ↦ c == '\t' || (0x20 ≤ c.toNat && c.toNat != 0x7F)

/-- What is said of a bundle that is not sound. -/
def badBundle : String := "invalid certificate in CA bundle"

/-- Whether peers can be trusted in this way, given the text of a bundle or why it cannot be
read. -/
def checkTrust (bundle : String → Except String (List Char)) : Trust → Except ApiError Unit
  | .system | .everyone => .ok ()
  | .bundle path =>
    match bundle path with
    | .error reason => .error (.tls ("cannot read CA bundle " ++ path ++ ": " ++ reason))
    | .ok text =>
      if isBundle text then .ok () else .error (.tls badBundle)

/-- A client with this token, which is looked at before the certificates are. -/
def Client.create (trust : Trust) (bundle : String → Except String (List Char)) (url : Url)
    (token : String) : Except ApiError Client := do
  if isToken token then
    checkTrust bundle trust
    return ⟨url.asFolder, token⟩
  else throw (.tls "invalid auth token header value: failed to parse header value")

/-! ## Failures -/

/-- The message in a body, in the form of one API or the other. -/
def faultText? (body : List Char) : Option String := do
  let t ← Tree.read? body
  let fault := do Tree.required Tree.asText? ((← t.record? ["faultstring"]) "faultstring")
  let inner := fun (t : Tree) ↦ do Tree.required Tree.asText? ((← t.record? ["message"]) "message")
  let error := do Tree.required inner ((← t.record? ["NeutronError"]) "NeutronError")
  fault <|> error

/-- What a response other than a success means. A body without a message is one itself, and the
status stands for one that is empty or breaks off. -/
def failure (r : Response) : ApiError :=
  if r.status = 401 then .invalidToken
  else
    let body := r.text?.getD []
    let text := match faultText? body with
      | some text => text
      | none => if body.isEmpty then statusText r.status else String.ofList body
    .api r.status text

/-! ## Successes -/

def previewLength : Nat := 200

/-- What is said of a body of the wrong shape. -/
def unexpected (body : List Char) : ApiError :=
  let preview := String.ofList (quoted (body.take previewLength))
  .deserialization ("unexpected content (body preview: " ++ preview ++ ")") (String.ofList body)

/-- Reads the body of a response. -/
def receive (f : Tree → Option α) (r : Response) : Except ApiError α :=
  if r.isSuccess then
    match r.text? with
    | none => .error (.transport "error decoding response body")
    | some body =>
      match (Tree.read? body).bind f with
      | some a => .ok a
      | none => .error (unexpected body)
  else .error (failure r)

/-- Passes over the body of a success. -/
def receiveNothing (r : Response) : Except ApiError Unit :=
  if r.isSuccess then .ok () else .error (failure r)

/-! ## Exchanges -/

namespace Client

variable (c : Client) (transport : Transport σ)

/-- Sends a request to a place below the API's own. -/
def send (method : Method) (reference : String) (query : List (String × String))
    (body : Option Value) : Call σ ApiError Response := fun s ↦
  match c.base.resolve reference with
  | .error e => (.error (.invalidUrl e.message), s)
  | .ok url =>
    let (answer, s) := transport
      ⟨method, url.withQuery query, c.token, body.map Value.compact⟩ s
    (answer.mapError .transport, s)

/-- Sends a request and reads what comes back. -/
def exchange (receive : Response → Except ApiError α) (method : Method) (reference : String)
    (query : List (String × String)) (body : Option Value) : Call σ ApiError α := fun s ↦
  let (answer, s) := c.send transport method reference query body s
  (answer.bind receive, s)

end Client

end BalancerSync.Http
