import Retrieval.Search
import Retrieval.Server.Origin
import Retrieval.Url.Target

/-!
# The web service

Three routes answer requests for documents: `/health` tells that the service runs, `/search` answers
a query and `/doc/` with an id names a document.  A request that asks which requests are allowed is
answered on every path.  Requests do not change the index, so each is answered by itself.
-/

namespace Retrieval.Server

open Search (Mode)

/-- What the service answers from. -/
structure Service where
  index : Index
  lemmatizer : Stem.Lemmatizer
  origins : Origins

/-- A request. -/
structure Request where
  method : String := "GET"
  target : String
  origin? : Option String := none
  deriving Repr, DecidableEq

/-- The answer to a query. -/
structure SearchReply where
  query : String
  /-- The printed form of the query, unless it reads only as a ranked query. -/
  canonical? : Option String
  outcome : Search.Outcome
  deriving Repr, DecidableEq

/-- What an answer holds. -/
inductive Body where
  | text (text : String)
  | search (reply : SearchReply)
  | document (doc : UInt32) (url : String)
  /-- What went wrong. -/
  | problem (message : String)
  /-- A refusal whose words do not matter. -/
  | refusal
  deriving Repr, DecidableEq

/-- The status and the content of an answer. -/
structure Reply where
  status : Nat
  body : Body
  deriving Repr, DecidableEq

/-- An answer with what it says about the origin that asked. -/
structure Response where
  reply : Reply
  allowOrigin? : Option String
  deriving Repr, DecidableEq

/-! ## Parameters -/

/-- What a search is asked for. -/
structure SearchParams where
  query : String
  mode : Mode
  deriving Repr, DecidableEq

/-- The parameters of a search.  The query must be there, neither it nor the mode may be repeated,
and other parameters do not matter. -/
def SearchParams.parse? (pairs : List (String × String)) : Option SearchParams := do
  let values (name : String) := (pairs.filter (·.1 = name)).map Prod.snd
  let query ← match values "q" with
    | [query] => some query
    | _ => none
  let mode ← match values "mode" with
    | [] => some .boolean
    | [name] => Mode.ofName? name
    | _ => none
  return ⟨query, mode⟩

/-- The id that digits write, with or without a plus sign before them. -/
def parseId? (text : List Char) : Option UInt32 :=
  let digits := match text with
    | '+' :: rest => rest
    | text => text
  let value := digits.foldl (fun value c => value * 10 + (c.toNat - '0'.toNat)) 0
  if !digits.isEmpty && digits.all Char.isDigit && value < UInt32.size then
    some (UInt32.ofNat value)
  else none

/-! ## Routes -/

/-- The places that answer. -/
inductive Route where
  | health
  | search
  /-- A document, by its id as it is written in the path. -/
  | document (id : List Char)
  deriving Repr, DecidableEq

/-- The route of a path. -/
def Route.ofPath? (path : List Char) : Option Route :=
  if path = "/health".toList then some .health
  else if path = "/search".toList then some .search
  else
    match path with
    | '/' :: 'd' :: 'o' :: 'c' :: '/' :: id =>
      if id.isEmpty || id.contains '/' then none else some (.document id)
    | _ => none

/-- The answer to an error, which says whether the query is to blame or the service. -/
def errorReply (error : Error) : Reply :=
  ⟨if error.isQueryError then 400 else 500, .problem error.message⟩

/-- The answer to a query. -/
def searchReply (service : Service) (params : SearchParams) : Except Fault Reply :=
  match service.index.search service.lemmatizer params.query params.mode with
  | .error (.fault fault) => .error fault
  | .error (.error reason) => .ok (errorReply reason)
  | .ok outcome =>
    let canonical? := (Query.canonical service.lemmatizer params.query).toOption
    .ok ⟨200, .search ⟨params.query, canonical?, outcome⟩⟩

/-- The answer that names a document. -/
def documentReply (service : Service) (id : List Char) : Except Fault Reply := do
  match Utf8.decode (Url.percentDecode (Utf8.encode id)) with
  | .error _ => return ⟨400, .refusal⟩
  | .ok text =>
    match parseId? text with
    | none => return ⟨400, .refusal⟩
    | some doc =>
      match ← service.index.url? doc with
      | some url => return ⟨200, .document doc url⟩
      | none => return ⟨404, .problem "not found"⟩

/-- The answer of a route to a request that reads. -/
def routeReply (service : Service) (query : List Char) : Route → Except Fault Reply
  | .health => .ok ⟨200, .text "ok"⟩
  | .search =>
    match SearchParams.parse? (Url.formPairs query) with
    | some params => searchReply service params
    | none => .ok ⟨400, .refusal⟩
  | .document id => documentReply service id

/-- The answer to a method on a target. -/
def reply (service : Service) (method : String) (target : Url.Target) : Except Fault Reply :=
  if method = "OPTIONS" then .ok ⟨200, .text ""⟩
  else
    match Route.ofPath? target.path with
    | none => .ok ⟨404, .refusal⟩
    | some route =>
      if method = "GET" then routeReply service target.query route
      else if method = "HEAD" then
        (routeReply service target.query route).map fun reply => { reply with body := .text "" }
      else .ok ⟨405, .refusal⟩

/-- The answer to a request. -/
def respond (service : Service) (request : Request) : Except Fault Response := do
  let reply ← reply service request.method (.parse request.target.toList)
  return ⟨reply, service.origins.allowed? request.origin?⟩

end Retrieval.Server
