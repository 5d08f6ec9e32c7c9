import Sift.Document.Decoding
import Sift.Json.Printer
import Sift.Service.Basic
import Sift.Service.Route

/-!
# Answering requests

What a service answers. A search takes the page from the query and the document from the body, a
listing is a search with the empty document, and both are executed in the same way. Of several
things wrong with a request the first in this order is reported: the route segment, the size of the
body, the query, the body's encoding, the document, the entity, and what the document names.

Main statements: `answer_options` and `answer_of_unknown_path`.
-/

namespace Sift

inductive Body where
  | empty
  | text (s : String)
  | json (v : Json)

structure Response where
  status : Nat
  body : Body

/-- A response together with the calls to the backend and the events on the way to it. -/
structure Reply where
  response : Response
  calls : List Call
  events : List Event

/-- A reply that took no call and reports nothing. -/
def Response.alone (r : Response) : Reply := ⟨r, [], []⟩

def SearchError.response (e : SearchError) : Response := ⟨e.status, .json e.toJson⟩

def Page.response (p : Page) : Response :=
  ⟨200, .json (.object (("message", .string "Successful action") :: p.fields))⟩

namespace Service

/-- The largest body of a request, in bytes. -/
def maxBodySize : Nat := 2097152

def withoutFinalSlashes (s : String) : String :=
  String.ofList (s.toList.reverse.dropWhile (· == '/')).reverse

def pageRequest (s : Service) (params : SearchParams) (path : String) : PageRequest :=
  let path := match s.baseUrl with
    | some base => withoutFinalSlashes base ++ path
    | none => path
  PageRequest.new params.pageNumber
    (params.pageSize s.pagination.perPage.toNat s.pagination.maxPerPage.toNat) path

def ignoredEvents (e : Entity) (p : Plan) : List Event :=
  if p.skipped.isEmpty then [] else [.ignoredRanges e.name p.skipped.length]

def run (s : Service) (plural : String) (d : Document) (params : SearchParams) (path : String) :
    Reply :=
  match s.registry.find? plural with
  | none => (SearchError.request (.unknownEntity plural)).response.alone
  | some e =>
    -- Ranges that are skipped are reported even if the document is rejected in the end.
    let compiling := d.compileEvents e.queryable
    match e.compile d with
    | .error c => ⟨(SearchError.compile c).response, [], compiling⟩
    | .ok p =>
      let x := s.backend.execute p e (s.pageRequest params path)
      let response := match x.result with
        | .ok page => page.response
        | .error f => (SearchError.execution f).response
      ⟨response, x.calls, compiling ++ ignoredEvents e p ++ x.events⟩

def documentOf (body : List UInt8) : Except SearchError Document :=
  match Text.decode body with
  | .error f => .error (.request (.invalidBody f.message))
  | .ok text => (Document.ofText text).mapError fun f => .compile (.ofFault f)

def paramsOf (r : Request) : Except SearchError SearchParams :=
  (SearchParams.ofQuery r.query).mapError fun f => .request (.invalidQuery f.message)

def list (s : Service) (plural : String) (r : Request) : Reply :=
  match paramsOf r with
  | .error e => e.response.alone
  | .ok params => s.run plural .empty params r.path

/-- Searches the rows of an entity with the document in the body. -/
def search (s : Service) (plural : String) (r : Request) : Reply :=
  match paramsOf r, documentOf r.body with
  -- What is wrong with the query is reported before what is wrong with the body.
  | .error e, _ => e.response.alone
  | _, .error e => e.response.alone
  | .ok params, .ok d => s.run plural d params r.path

/-- Whether the service is up, and which entities it serves. -/
def health (s : Service) : Response :=
  ⟨200, .json (.object [("status", .string "ok"), ("service", .string "filterdoc"),
    ("backend", .string s.backend.name),
    ("entities", .array (s.registry.plurals.map .string))])⟩

/-- Goes on with a segment once it is decoded. -/
def withSegment (segment : String) (go : String → Reply) : Reply :=
  match Text.percentDecoded segment with
  | .ok plural => go plural
  | .error _ => (Response.mk 400 (.text "Invalid URL: Invalid UTF-8 in \x60plural\x60")).alone

def answerRoute (s : Service) (r : Request) : Route → Reply
  | .custom path => (Response.mk 200 (.text ((s.customs.lookup path).getD ""))).alone
  | .health => s.health.alone
  | .list segment => withSegment segment fun plural => s.list plural r
  | .search segment =>
    withSegment segment fun plural =>
      -- The segment is decoded before the body is looked at.
      if maxBodySize < r.body.length then
        (Response.mk 413
          (.text "Failed to buffer the request body: length limit exceeded")).alone
      else
        s.search plural r

def withoutBody (r : Reply) : Reply := { r with response := ⟨r.response.status, .empty⟩ }

def answer (s : Service) (r : Request) : Reply :=
  -- A preflight request is answered before its path is looked at.
  if r.method = .options then (Response.mk 200 .empty).alone
  else
    match Route.ofPath (s.customs.map Prod.fst) r.path with
    | none => (Response.mk 404 .empty).alone
    | some route =>
      if route.allows r.method then
        let reply := s.answerRoute r route
        if r.method = .head then withoutBody reply else reply
      else
        (Response.mk 405 .empty).alone

/-- A preflight request is answered at every path, without a call to the storage. -/
theorem answer_options (s : Service) {r : Request} (h : r.method = .options) :
    s.answer r = (Response.mk 200 .empty).alone := by
  simp [answer, h]

/-- A path that is no route is not found, whatever the method of the request, a preflight apart. -/
theorem answer_of_unknown_path (s : Service) {r : Request} (hm : r.method ≠ .options)
    (h : Route.ofPath (s.customs.map Prod.fst) r.path = none) :
    s.answer r = (Response.mk 404 .empty).alone := by
  simp [answer, hm, h]

end Service

end Sift
