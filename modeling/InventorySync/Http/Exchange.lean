/-
# Http.Exchange — requests, replies and who answers them

A `Server` answers each request from a state of its own, or drops the connection. A
`Session` is a server's state together with the requests that reached it and the lines
noted on the way. Two things keep a request from being sent at all: an address that is
none, and a header value with a control character in it.
-/
import InventorySync.Http.Status
import InventorySync.Http.Url
import InventorySync.Inventory.Fault
import InventorySync.Json.Value
import InventorySync.Log

namespace InventorySync.Http

set_option autoImplicit false

inductive Method where
  | get
  | patch
  | delete
  deriving DecidableEq, Repr

namespace Method

def name : Method → String
  | get => "GET"
  | patch => "PATCH"
  | delete => "DELETE"

end Method

structure Request where
  method : Method
  url : Url
  authorization : String
  accept : String
  contentType : Option String
  body : Option Json

structure Reply where
  status : Status
  body : List UInt8
  deriving DecidableEq, Repr

/-- Who answers. No reply means that the connection failed. -/
structure Server (σ : Type) where
  respond : σ → Request → Option Reply × σ

namespace Server

/-- Nobody answers: every connection fails. -/
def unreachable : Server Unit := ⟨fun s _ => (none, s)⟩

/-- Answers each address in one way, whatever came before. -/
def fixed (replies : Url → Reply) : Server Unit := ⟨fun s r => (some (replies r.url), s)⟩

end Server

structure Session (σ : Type) where
  server : σ
  /-- The requests that were answered, the first one in front. -/
  answered : List Request
  notes : List Log.Entry

namespace Session

variable {σ : Type}

def start (server : σ) : Session σ := ⟨server, [], []⟩

/-- Note lines. -/
def noteAll (lines : List Log.Entry) : StateM (Session σ) Unit :=
  modify fun s => { s with notes := s.notes ++ lines }

/-- Note one line. -/
def note (line : Log.Entry) : StateM (Session σ) Unit := noteAll [line]

end Session

/-- A character that a header value may have. -/
def isHeaderChar (c : Char) : Bool := c == '\t' || (0x20 ≤ c.toNat && c.toNat != 0x7F)

end InventorySync.Http
