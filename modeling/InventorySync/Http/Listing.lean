/-
# Http.Listing — all pages of a listing

A listing comes in pages, each of which may name the next one. Pages are fetched until
one names none; a page that cannot be read, or a status that is no success, is the
fault of the whole listing. Nothing keeps pages from naming each other in a circle, so
the number of pages is bounded from outside, and a listing that has not ended within
the bound has no result.
-/
import InventorySync.Http.Client
import InventorySync.Inventory.Codec
import InventorySync.Inventory.Query

namespace InventorySync.Http.Client

set_option autoImplicit false

open Json (Codec)

variable {σ α : Type}

/-- The fault of a page that does not decode: what is wrong, and the beginning of its text. -/
def pageFault (c : Client) (cause : Json.Fault) (text : String) : Fault :=
  .api ("error decoding response body: " ++ c.wording cause text ++
    " - Response (first 500 chars): " ++ String.ofList (text.toList.take 500))

/-- Read one page. -/
def readPage (c : Client) (codec : Codec α) (url : String) (r : Reply) : Except Fault (Page α) :=
  if r.status.isSuccess then
    ((Page.codec codec).decode (bodyText r)).mapError fun cause => c.pageFault cause (bodyText r)
  else .error (statusFault .get url r)

/-- Fetch at most `pages` pages from `url` on, after the records found so far. -/
def fetchPages (c : Client) (server : Server σ) (codec : Codec α) :
    Nat → String → List α → StateM (Session σ) (Option (Except Fault (List α)))
  | 0, _, _ => return none
  | pages + 1, url, found => do
    Session.note (Log.debug ("Fetching page: " ++ url))
    match ← c.send server .get url none with
    | .error t => return some (.error (.transport t))
    | .ok r =>
      match c.readPage codec url r with
      | .error f => return some (.error f)
      | .ok page =>
        let found := found ++ page.results
        match page.next with
        | none => return some (.ok found)
        | some next => c.fetchPages server codec pages (c.buildUrl next) found

/-- The path of a listing, with its parameters. -/
def listingPath (endpoint : String) (q : Query) : String :=
  "/api/" ++ endpoint ++ "/" ++ (if q.isEmpty then "" else "?" ++ Query.queryString q.pairs)

/-- All records of an endpoint that a query lets through. -/
def list (c : Client) (server : Server σ) (pages : Nat) (endpoint : String) (q : Query)
    (codec : Codec α) : StateM (Session σ) (Option (Except Fault (List α))) :=
  c.fetchPages server codec pages (c.buildUrl (listingPath endpoint q)) []

end InventorySync.Http.Client
