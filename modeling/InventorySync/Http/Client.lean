/-
# Http.Client — authenticated requests to the inventory's interface

A client knows the base address and the token. Paths are joined to the base address;
a text that begins with `http` is an address already. A status that is no success
becomes a fault by its code: 404 means that the record is not there, 401 and 403 that
the token is refused, and any other that the call failed.

The reader of JSON has words of its own for a text that does not decode. They are shown
and never looked at, so a client takes them as they are.
-/
import InventorySync.Http.Exchange
import InventorySync.Json.Codec
import InventorySync.Text.Blank
import InventorySync.Text.Utf8

namespace InventorySync.Http

set_option autoImplicit false

open Json (Codec)

structure Client where
  baseUrl : String
  token : String
  /-- The words for a text with a fault: they may also tell where it is. -/
  wording : Json.Fault → String → String

namespace Client

variable {σ : Type}

/-- Slashes at the end of the base address are dropped. -/
def new (baseUrl token : String)
    (wording : Json.Fault → String → String := fun fault _ => fault.message) : Client :=
  ⟨Text.dropTrailing '/' baseUrl, token, wording⟩

def buildUrl (c : Client) (path : String) : String :=
  if ['h', 't', 't', 'p'].isPrefixOf path.toList then path else c.baseUrl ++ path

def authorization (c : Client) : String := "Token " ++ c.token

/-- A reply's body as text, whatever its bytes. -/
def bodyText (r : Reply) : String := Text.Utf8.lossy r.body

/-- The fault of a status that is no success. -/
def statusFault (method : Method) (path : String) (r : Reply) : Fault :=
  let call := method.name ++ " " ++ path
  let what := r.status.display ++ " - " ++ bodyText r
  if r.status.code = 404 then
    .notFound ("Resource not found: " ++ path ++ " - " ++ bodyText r)
  else if r.status.code = 401 ∨ r.status.code = 403 then
    .authentication (call ++ " rejected: " ++ what)
  else .api (call ++ " failed: " ++ what)

/-- Send one request. -/
def send (c : Client) (server : Server σ) (method : Method) (url : String) (body : Option Json) :
    StateM (Session σ) (Except TransportFault Reply) := do
  match Url.parse? url with
  | none => return .error ((Url.foreign? url).elim .unbuildable .foreign)
  | some u =>
    if c.authorization.toList.all isHeaderChar then
      let request : Request :=
        { method := method
          url := u.sent
          authorization := c.authorization
          accept := "application/json"
          contentType := if body.isSome then some "application/json" else none
          body := body }
      let s ← get
      let (reply, state) := server.respond s.server request
      match reply with
      | some r =>
        set { s with server := state, answered := s.answered ++ [request] }
        return .ok r
      | none =>
        set { s with server := state }
        return .error (.unsent u.text)
    else return .error .unbuildable

/-- Decode the body of a single record. -/
def decodeBody {α : Type} (codec : Codec α) (r : Reply) : Except Fault α :=
  match (Text.Utf8.strict? r.body).map codec.decode with
  | some (.ok a) => .ok a
  | _ => .error (.transport .undecodable)

/-- Send a request for one record: the reply if it is a success. -/
def request (c : Client) (server : Server σ) (method : Method) (path : String)
    (body : Option Json) : StateM (Session σ) (Except Fault Reply) := do
  match ← c.send server method (c.buildUrl path) body with
  | .error t => return .error (.transport t)
  | .ok r => return if r.status.isSuccess then .ok r else .error (statusFault method path r)

def fetch {α : Type} (c : Client) (server : Server σ) (path : String)
    (read : Reply → Except Fault α) : StateM (Session σ) (Except Fault α) := do
  Session.note (Log.debug ("GET " ++ c.buildUrl path))
  return (← c.request server .get path none).bind read

def update {α : Type} (c : Client) (server : Server σ) (path : String) (patch : Json)
    (codec : Codec α) : StateM (Session σ) (Except Fault α) := do
  Session.note (Log.debug ("PATCH " ++ c.buildUrl path ++ " with body: " ++ patch.compact))
  return (← c.request server .patch path (some patch)).bind (decodeBody codec)

def remove (c : Client) (server : Server σ) (path : String) :
    StateM (Session σ) (Except Fault Unit) := do
  Session.note (Log.debug ("DELETE " ++ c.buildUrl path))
  return (← c.request server .delete path none).map fun _ => ()

/-! ## The token -/

/-- Values are nested no deeper than this. -/
def depthLimit : Nat := 127

/-- The body is some JSON value. -/
def readAny (r : Reply) : Except Fault Unit :=
  let isValue (text : String) : Bool :=
    match Document.ofString text with
    | (d, ended) => ended && d.toJson?.isSome && d.depth ≤ depthLimit
  if (Text.Utf8.strict? r.body).any isValue then .ok () else .error (.transport .undecodable)

/-- Ask for the inventory's status, which takes a valid token. -/
def validateToken (c : Client) (server : Server σ) : StateM (Session σ) (Except Fault Unit) := do
  Session.note (Log.debug "Validating NetBox token and connectivity")
  let result ← c.fetch server "/api/status/" readAny
  if let .ok () := result then Session.note (Log.debug "Token validated successfully")
  return result

end Client

end InventorySync.Http
