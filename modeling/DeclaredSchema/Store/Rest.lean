import DeclaredSchema.Http
import DeclaredSchema.Json.Reader
import DeclaredSchema.Json.Writer
import DeclaredSchema.Schema.Payload
import DeclaredSchema.Store
import DeclaredSchema.Store.Settings
import DeclaredSchema.Store.Snapshot

/-!
# The store behind a REST interface

Every call is one request without a second try, except that collections are listed in pages. The
conversation is kept: what was asked, and the server's state.
-/

namespace DeclaredSchema

namespace RestStore

inductive Fault where
  | badUrl (fault : UrlFault)
  /-- The URL is not one of a server that speaks HTTP. -/
  | otherScheme (url : String)
  /-- A URL that no request can name. -/
  | unsendable (url : String)
  /-- A setting that cannot be sent in a header. -/
  | badHeader
  | noAnswer
  | refused (status : Nat) (body : String)
  | notJson
  | missingId
  | badSnapshot (fault : SnapshotFault)
  deriving DecidableEq, Repr

def Fault.message : Fault → String
  | .badUrl f => "builder error: " ++ f.message
  | .otherScheme url => "builder error for url (" ++ url ++ "): URL scheme is not allowed"
  | .unsendable url => "builder error for url (" ++ url ++ "): Parsed Url is not a valid Uri"
  | .badHeader => "builder error: failed to parse header value"
  | .noAnswer => "error sending request"
  | .refused status body => "Appwrite API error " ++ HttpStatus.text status ++ ": " ++ body
  | .notJson => "error decoding response body"
  | .missingId => "Invalid Appwrite response: missing $id"
  | .badSnapshot f => f.message

/-- A conversation with a server. -/
structure State (σ : Type) where
  server : σ
  /-- The requests so far, latest first. -/
  sent : List HttpRequest := []
  /-- How many collection ids have been made up. -/
  idsUsed : Nat := 0

def State.requests {σ : Type} (s : State σ) : List HttpRequest := s.sent.reverse

/-! ## Requests -/

def baseUrl (c : Credentials) : String := (c.endpoint.dropEndWhile (· == '/')).toString

def url (c : Credentials) (path : String) : String :=
  baseUrl c ++ "/databases/" ++ c.databaseId ++ "/" ++ path

def projectHeader : String := "X-Appwrite-Project"

def keyHeader : String := "X-Appwrite-Key"

def typeHeader : String := "Content-Type"

/-- A character that a header can hold. -/
def isHeaderChar (c : Char) : Bool := c = '\t' || (0x20 ≤ c.toNat && c.toNat ≠ 0x7f)

/-- Blanks at the ends of a header value do not count. -/
def headerValue (s : String) : String :=
  let isGap := fun c => c = ' ' || c = '\t'
  String.ofList ((s.toList.dropWhile isGap).reverse.dropWhile isGap).reverse

def headers (c : Credentials) : Except Fault (List (String × String)) :=
  if c.projectId.toList.all isHeaderChar && c.apiKey.toList.all isHeaderChar then
    .ok [(projectHeader, headerValue c.projectId), (keyHeader, headerValue c.apiKey),
      (typeHeader, "application/json")]
  else .error .badHeader

/-- A request to a path below the database. A URL without a host is refused before anything else
is looked at, one of another scheme only when all is there. -/
def request (c : Credentials) (method : HttpMethod) (path : String) (query : List (String × String))
    (body : Option Json) : Except Fault HttpRequest := do
  let u ← (Url.ofText (url c path)).mapError .badUrl
  if !u.hasHost then .error (.otherScheme u.text)
  else do
    let headers ← headers c
    let target := u.withoutCredentials.addQuery query
    if u.scheme ≠ "http" && u.scheme ≠ "https" then .error (.otherScheme target.text)
    else if !target.isSendable then .error (.unsendable target.text)
    else
      .ok {
        method
        path := u.path
        query := (u.query.elim [] Percent.formPairs) ++ query
        headers
        body }

/-- The value that a reply holds. -/
def read : Option HttpReply → Except Fault Json
  | none => .error .noAnswer
  | some r =>
    if r.isSuccess then match Json.ofText? r.content with
      | some v => .ok v
      | none => .error .notJson
    else .error (.refused r.status r.content)

/-- Sends a request, if it could be made. -/
def send {σ : Type} (server : HttpServer σ) (r : Except Fault HttpRequest) (s : State σ) :
    Except Fault Json × State σ :=
  match r with
  | .error e => (.error e, s)
  | .ok r =>
    let (reply, after) := server.answer r s.server
    (read reply, { s with server := after, sent := r :: s.sent })

/-! ## Listing in pages -/

/-- How many collections one page can hold. -/
def pageSize : Nat := 100

/-- A restriction of a list, as the interface spells it. -/
def restriction (method : String) (value : Nat) : String × String :=
  ("queries[]",
    (Json.ofFields [("method", .str method), ("values", .arr [.ofNat value])]).compact)

def pageRequest (c : Credentials) (offset : Nat) : Except Fault HttpRequest :=
  request c .get "collections" [restriction "limit" pageSize, restriction "offset" offset] none

/-- How many collections there are in all, as far as a page tells. -/
def totalOf (page : Json) : Nat := ((page.field? "total").bind (·.nat?)).getD 0

/-- How many collections a page holds. -/
def countOf (page : Json) : Nat := (((page.field? "collections").bind (·.arr?)).getD []).length

/-- What every total is below. -/
def totalBound : Nat := 0x10000000000000000

theorem totalOf_lt (page : Json) : totalOf page < totalBound := by
  unfold totalOf
  cases h : (page.field? "total").bind (·.nat?) with
  | none => decide
  | some n =>
    obtain ⟨v, _, hv⟩ := Option.bind_eq_some_iff.1 h
    exact Nat.lt_succ_of_le (Json.nat?_le hv)

/-- The pages from an offset on, if `ask` asks for the page at an offset. A page that holds nothing,
or the last of what there is, ends the list. -/
def pagesFrom {τ : Type} (ask : Nat → τ → Except Fault Json × τ) (offset : Nat) (s : τ) :
    Except Fault (List Json) × τ :=
  match ask offset s with
  | (.error e, s) => (.error e, s)
  | (.ok page, s) =>
    if countOf page = 0 ∨ totalOf page ≤ offset + countOf page then (.ok [page], s)
    else match pagesFrom ask (offset + countOf page) s with
      | (.ok pages, s) => (.ok (page :: pages), s)
      | (.error e, s) => (.error e, s)
  termination_by totalBound - offset
  decreasing_by
    have := totalOf_lt page
    omega

/-- The collections of several pages. -/
def snapshotOf : List Json → Except Fault Snapshot
  | [] => .ok []
  | page :: rest => do
    let collections ← (Snapshot.ofJson page).mapError .badSnapshot
    let more ← snapshotOf rest
    .ok (collections ++ more)

def list {σ : Type} (server : HttpServer σ) (c : Credentials) (s : State σ) :
    Except Fault Snapshot × State σ :=
  match pagesFrom (fun offset => send server (pageRequest c offset)) 0 s with
  | (.ok pages, s) => (snapshotOf pages, s)
  | (.error e, s) => (.error e, s)

/-! ## Changes -/

/-- The body of a request for a collection without any permissions. -/
def collectionBody (id name : String) : Json :=
  .ofFields [("collectionId", .str id), ("name", .str name), ("permissions", .arr []),
    ("documentSecurity", .bool false)]

/-- The id that the server gave a collection. -/
def createdId (created : Json) : Except Fault String :=
  match (created.field? "$id").bind (·.str?) with
  | some id => .ok id
  | none => .error .missingId

/-- Creates a collection, proposing the next id of a supply. -/
def createCollection {σ : Type} (server : HttpServer σ) (ids : Nat → String) (c : Credentials)
    (name : String) (s : State σ) : Except Fault String × State σ :=
  let r := request c .post "collections" [] (some (collectionBody (ids s.idsUsed) name))
  match send server r { s with idsUsed := s.idsUsed + 1 } with
  | (.ok created, s) => (createdId created, s)
  | (.error e, s) => (.error e, s)

def attributesPath (id route : String) : String := "collections/" ++ id ++ "/attributes/" ++ route

/-- Sends a request whose answer does not matter. -/
def change {σ : Type} (server : HttpServer σ) (r : Except Fault HttpRequest) (s : State σ) :
    Except Fault Unit × State σ :=
  match send server r s with
  | (.ok _, s) => (.ok (), s)
  | (.error e, s) => (.error e, s)

def createAttribute {σ : Type} (server : HttpServer σ) (c : Credentials) (id : String)
    (a : ConcreteAttribute) (s : State σ) : Except Fault Unit × State σ :=
  change server (request c .post (attributesPath id a.kind.name) [] (some a.createPayload)) s

def updateAttribute {σ : Type} (server : HttpServer σ) (c : Credentials) (id : String)
    (a : ConcreteAttribute) (s : State σ) : Except Fault Unit × State σ :=
  change server
    (request c .patch (attributesPath id (a.kind.updatePath a.key)) [] (some a.updatePayload)) s

/-- A server as a store. -/
def store {σ : Type} (server : HttpServer σ) (ids : Nat → String) (c : Credentials) :
    SchemaStore (State σ) Fault where
  list := list server c
  createCollection := createCollection server ids c
  createAttribute := createAttribute server c
  updateAttribute := updateAttribute server c

end RestStore

end DeclaredSchema
