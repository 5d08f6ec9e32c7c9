import Sift.Proofs.Document.Decoding
import Sift.Proofs.Search.Noninterference
import Sift.Proofs.Service.Links
import Sift.Proofs.Service.Status

/-!
# A listing is a search for everything

The rows of an entity are listed under its route segment and searched under the same segment and
`/search`. A search whose body asks for nothing (`AsksNothing`) is answered as the listing is, with
the same query: with the same status, after the same calls, and with the same body, but for the path
and the addresses that a page writes from it. Nothing else that travels in such a body has an
influence, also not a field named like a parameter of the query.

Two things are not the same, and both are decided before the document is looked at. A path without a
segment is no listing, while the empty segment before `/search` is one; and the size of a body is
limited, even if it holds nothing but blanks.

Main statement: `answer_list_sameElsewhere`.
-/

namespace Sift

open List (Forall₂)

/-! ## Pages under two paths -/

/-- An address that is written from two paths in the same way, or is missing twice. -/
inductive SameAddress (path path' : String) : Option String → Option String → Prop where
  | missing : SameAddress path path' none none
  | page (n : Nat) : SameAddress path path' (some (Page.url path n)) (some (Page.url path' n))

structure Page.Link.SameElsewhere (path path' : String) (l l' : Page.Link) : Prop where
  url : SameAddress path path' l.url l'.url
  label : l.label = l'.label
  active : l.active = l'.active

/-- The pages differ in their paths and in the addresses that are written from them, and in nothing
else. -/
structure Page.SameElsewhere (a b : Page) : Prop where
  data : a.data = b.data
  currentPage : a.currentPage = b.currentPage
  firstPageUrl : SameAddress a.path b.path (some a.firstPageUrl) (some b.firstPageUrl)
  from? : a.from? = b.from?
  lastPage : a.lastPage = b.lastPage
  lastPageUrl : SameAddress a.path b.path (some a.lastPageUrl) (some b.lastPageUrl)
  links : Forall₂ (Link.SameElsewhere a.path b.path) a.links b.links
  nextPageUrl : SameAddress a.path b.path a.nextPageUrl b.nextPageUrl
  perPage : a.perPage = b.perPage
  prevPageUrl : SameAddress a.path b.path a.prevPageUrl b.prevPageUrl
  to? : a.to? = b.to?
  total : a.total = b.total

/-- The responses hold such pages, or they are one response that holds none. -/
inductive Response.SameElsewhere : Response → Response → Prop where
  | page {a b : Page} (h : a.SameElsewhere b) : SameElsewhere a.response b.response
  | same {r : Response} (h : r.status ≠ 200) : SameElsewhere r r

theorem Response.SameElsewhere.status {a b : Response} (h : a.SameElsewhere b) :
    a.status = b.status := by
  cases h <;> rfl

/-- The replies took the same calls and events to get to such responses. -/
structure Reply.SameElsewhere (a b : Reply) : Prop where
  response : a.response.SameElsewhere b.response
  calls : a.calls = b.calls
  events : a.events = b.events

/-- The executions end with such pages or with the same failure. -/
structure Execution.SameElsewhere (x y : Execution) : Prop where
  result : SameOutcome Page.SameElsewhere x.result y.result
  calls : x.calls = y.calls
  events : x.events = y.events

namespace Page

/-- Rows of links from two paths differ in their addresses only. -/
theorem linkRow_sameElsewhere (path path' : String) (current last : Nat)
    {previous previous' next next' : Option String}
    (hprevious : SameAddress path path' previous previous')
    (hnext : SameAddress path path' next next') :
    Forall₂ (Link.SameElsewhere path path') (linkRow path current last previous next)
      (linkRow path' current last previous' next') := by
  have hslots : Forall₂ (Link.SameElsewhere path path')
      ((slots current last).map (slotLink path current))
      ((slots current last).map (slotLink path' current)) := by
    apply forall₂_map_map
    intro slot _
    cases slot with
    | none => exact ⟨.missing, rfl, rfl⟩
    | some n => exact ⟨.page n, rfl, rfl⟩
  refine .cons ⟨hprevious, rfl, rfl⟩ (List.rel_append hslots ?_)
  exact .cons ⟨hnext, rfl, rfl⟩ .nil

/-- What a page has besides addresses depends on which page is asked for, and not on its path. -/
theorem new_sameElsewhere (data : List Json) (total page perPage : Nat) (path path' : String) :
    (new data total ⟨page, perPage, path⟩).SameElsewhere
      (new data total ⟨page, perPage, path'⟩) := by
  -- The links to the neighbours are there or not for reasons other than the path.
  have hneighbour (n : Nat) (c : Prop) [Decidable c] :
      SameAddress path path' (if c then some (url path n) else none)
        (if c then some (url path' n) else none) := by
    split
    · exact .page n
    · exact .missing
  exact {
    data := rfl
    currentPage := rfl
    firstPageUrl := .page 1
    from? := rfl
    lastPage := rfl
    lastPageUrl := .page _
    links := linkRow_sameElsewhere _ _ _ _ (hneighbour _ _) (hneighbour _ _)
    nextPageUrl := hneighbour _ _
    perPage := rfl
    prevPageUrl := hneighbour _ _
    to? := rfl
    total := rfl }

end Page

/-! ## Runs under two paths -/

/-- An error has no addresses, so it is the same reply. -/
theorem Reply.sameElsewhere_of_error (x : SearchError) (events : List Event) :
    Reply.SameElsewhere ⟨x.response, [], events⟩ ⟨x.response, [], events⟩ := by
  have hstatus : x.status ≠ 200 := by
    have := x.le_status
    omega
  exact ⟨.same hstatus, rfl, rfl⟩

/-- An execution does not look at the path. -/
theorem Backend.execute_sameElsewhere (b : Backend) (p : Plan) (e : Entity) (page perPage : Nat)
    (path path' : String) :
    (b.execute p e ⟨page, perPage, path⟩).SameElsewhere (b.execute p e ⟨page, perPage, path'⟩) := by
  cases hc : b.count (.resolve e p) with
  | error f =>
    rw [execute_of_count_error hc, execute_of_count_error hc]
    exact ⟨.error _, rfl, rfl⟩
  | ok total =>
    -- The offset and the window of the page are the same under both paths.
    rcases Nat.lt_or_ge (PageRequest.offset ⟨page, perPage, path⟩) total with hw | hw
    · cases hf : b.fetch (.resolve e p) (PageRequest.window ⟨page, perPage, path⟩) with
      | error f =>
        rw [execute_of_fetch_error hc hw hf,
          execute_of_fetch_error (r := ⟨page, perPage, path'⟩) hc hw hf]
        exact ⟨.error _, rfl, rfl⟩
      | ok rows =>
        rw [execute_of_fetch hc hw hf, execute_of_fetch (r := ⟨page, perPage, path'⟩) hc hw hf]
        exact ⟨.ok (Page.new_sameElsewhere ..), rfl, rfl⟩
    · rw [execute_of_past_end hc hw, execute_of_past_end (r := ⟨page, perPage, path'⟩) hc hw]
      exact ⟨.ok (Page.new_sameElsewhere ..), rfl, rfl⟩

/-- From two paths, the same document makes replies that differ in addresses only. -/
theorem Service.run_sameElsewhere (s : Service) (plural : String) (d : Document)
    (params : SearchParams) (path path' : String) :
    (s.run plural d params path).SameElsewhere (s.run plural d params path') := by
  unfold run
  cases s.registry.find? plural with
  | none => exact Reply.sameElsewhere_of_error _ _
  | some e =>
    cases hcompile : e.compile d with
    | error c =>
      simp only [hcompile]
      exact Reply.sameElsewhere_of_error _ _
    | ok p =>
      have hexecute : (s.backend.execute p e (s.pageRequest params path)).SameElsewhere
          (s.backend.execute p e (s.pageRequest params path')) :=
        s.backend.execute_sameElsewhere p e _ _ _ _
      obtain ⟨hresult, hcalls, hevents⟩ := hexecute
      simp only [hcompile]
      -- Calls and events are the same, so the responses are left to compare.
      refine ⟨?_, hcalls, by rw [hevents]⟩
      rcases hresult.both_ok_or_error with ⟨a, b, ha, hb, hab⟩ | ⟨f, ha, hb⟩
      · rw [ha, hb]
        exact .page hab
      · rw [ha, hb]
        exact (Reply.sameElsewhere_of_error (.execution f) []).response

/-! ## Bodies that ask for nothing -/

/-- The text holds no clause of a document: it is blank, null, or an object whose clauses are null
or empty, whatever its other fields are. -/
inductive AsksNothing (text : String) : Prop where
  | blank (h : Text.allBlank text = true)
  | null (h : Json.ofText? Document.nestingLimit text = some .null)
  | object {fields : Fields} (h : Json.ofText? Document.nestingLimit text = some (.object fields))
      (hempty : ∀ (clause : Clause) (v : Json), (clause.key, v) ∈ fields →
        v = .null ∨ v = .array [])

namespace Document

/-- A clause without entries leaves the empty document empty. -/
theorem takeField_empty {f : String × Json}
    (h : ∀ clause : Clause, f.1 = clause.key → f.2 = .null ∨ f.2 = .array []) :
    takeField empty f = .ok empty := by
  obtain ⟨name, value⟩ := f
  unfold takeField
  cases hclause : clause? name with
  | none => rfl
  | some clause =>
    rcases h clause (clause?_eq_some_iff.mp hclause).symm with hv | hv
    all_goals
      simp only at hv
      subst hv
      cases clause <;> rfl

theorem foldlM_takeField_empty {fields : Fields}
    (h : ∀ (clause : Clause) (v : Json), (clause.key, v) ∈ fields → v = .null ∨ v = .array []) :
    fields.foldlM takeField empty = .ok empty := by
  induction fields with
  | nil => rfl
  | cons f fields ih =>
    have hf : takeField empty f = .ok empty :=
      takeField_empty fun clause hname => h clause f.2 (by simp [← hname])
    rw [List.foldlM_cons, hf]
    exact ih fun clause v hmem => h clause v (List.mem_cons_of_mem _ hmem)

end Document

/-- A text that asks for nothing is read as the empty document. -/
theorem AsksNothing.ofText_eq {text : String} (h : AsksNothing text) :
    Document.ofText text = .ok .empty := by
  unfold Document.ofText
  split
  · rfl
  · next hblank =>
    cases h with
    | blank h => exact absurd h hblank
    | null h => rw [h]; rfl
    | object h hempty =>
      rw [h]
      exact Document.foldlM_takeField_empty hempty

namespace Service

variable {s : Service} {r r' : Request} {segment plural text : String}

theorem documentOf_of_asksNothing {body : List UInt8} (hbody : Text.decode body = .ok text)
    (h : AsksNothing text) : documentOf body = .ok .empty := by
  rw [documentOf, hbody]
  simp only [h.ofText_eq]
  rfl

/-! ## Answers under two paths -/

/-- Listing is searching with the empty document, apart from addresses. -/
theorem list_sameElsewhere_search (hquery : r'.query = r.query)
    (hd : documentOf r'.body = .ok .empty) (s : Service) (plural : String) :
    (s.list plural r).SameElsewhere (s.search plural r') := by
  have hparams : paramsOf r' = paramsOf r := by rw [paramsOf, hquery, paramsOf]
  unfold list search
  rw [hparams, hd]
  cases hread : paramsOf r with
  | error x => exact Reply.sameElsewhere_of_error x []
  | ok params => exact s.run_sameElsewhere plural .empty params r.path r'.path

/-- The segment is one that the listing and the search of an entity have in their paths, and no
fixed route takes either path. -/
structure IsOpen (s : Service) (segment : String) : Prop where
  nonempty : segment ≠ ""
  whole : '/' ∉ segment.toList
  free : segment ∉ reservedPlurals
  unclaimed : "/" ++ segment ∉ s.customs.map Prod.fst
  unclaimed_search : "/" ++ segment ++ "/search" ∉ s.customs.map Prod.fst

/-- At an open segment, the path alone lists. -/
theorem IsOpen.answer_list (h : s.IsOpen segment) (hget : r.method = .get)
    (hpath : r.path = "/" ++ segment) :
    s.answer r = withSegment segment fun plural => s.list plural r := by
  have hroute : Route.ofPath (s.customs.map Prod.fst) r.path = some (.list segment) := by
    have hhealth : segment ≠ "health" := fun heq => h.free (by simp [reservedPlurals, heq])
    rw [hpath, Route.ofPath, Route.segments_list h.whole, if_neg (by simpa using h.unclaimed)]
    simp [h.nonempty]
  exact answer_of_route hroute (by simp [hget, Route.allows]) (by simp [hget])

/-- At an open segment, the path of a search searches, if the body is within the limit. -/
theorem IsOpen.answer_search (h : s.IsOpen segment) (hpost : r.method = .post)
    (hpath : r.path = "/" ++ segment ++ "/search") (hfits : r.body.length ≤ maxBodySize) :
    s.answer r = withSegment segment fun plural => s.search plural r := by
  have hroute : Route.ofPath (s.customs.map Prod.fst) r.path = some (.search segment) := by
    rw [hpath, Route.ofPath_search h.whole h.unclaimed_search]
  rw [answer_of_route hroute (by simp [hpost, Route.allows]) (by simp [hpost])]
  simp [answerRoute, Nat.not_lt.mpr hfits]

/-- The size of a body counts before what is in it. -/
theorem status_of_large_body (hpost : r.method = .post)
    (hpath : r.path = "/" ++ segment ++ "/search") (h : Text.WritesSegment segment plural)
    (hcustom : "/" ++ segment ++ "/search" ∉ s.customs.map Prod.fst)
    (hlarge : maxBodySize < r.body.length) : (s.answer r).response.status = 413 := by
  have hroute : Route.ofPath (s.customs.map Prod.fst) r.path = some (.search segment) := by
    rw [hpath, Route.ofPath_search h.slash_not_mem hcustom]
  rw [answer_of_route hroute (by simp [hpost, Route.allows]) (by simp [hpost])]
  simp [answerRoute, withSegment, h.decoded, hlarge, Response.alone]

/-- A segment that is no text in UTF-8 is reported before anything else. -/
theorem withSegment_sameElsewhere {go go' : String → Reply}
    (h : ∀ plural, (go plural).SameElsewhere (go' plural)) (segment : String) :
    (withSegment segment go).SameElsewhere (withSegment segment go') := by
  unfold withSegment
  split
  · exact h _
  · exact ⟨.same (by decide), rfl, rfl⟩

/-- **A listing is a search for everything.** Let the segment be one that the listing and the search
of an entity have in their paths. A search whose body asks for nothing, and is not too large, is
answered as the listing with the same query, in whatever state the service is. -/
theorem answer_list_sameElsewhere (h : s.IsOpen segment)
    (hget : r.method = .get) (hpath : r.path = "/" ++ segment)
    (hpost : r'.method = .post) (hpath' : r'.path = "/" ++ segment ++ "/search")
    (hquery : r'.query = r.query) (hbody : Text.decode r'.body = .ok text)
    (hnothing : AsksNothing text) (hfits : r'.body.length ≤ maxBodySize) :
    (s.answer r).response.status = (s.answer r').response.status
      ∧ (s.answer r).SameElsewhere (s.answer r') := by
  have hd : documentOf r'.body = .ok .empty := documentOf_of_asksNothing hbody hnothing
  have hsame : (s.answer r).SameElsewhere (s.answer r') := by
    rw [h.answer_list hget hpath, h.answer_search hpost hpath' hfits]
    exact withSegment_sameElsewhere (list_sameElsewhere_search hquery hd s) segment
  exact ⟨hsame.response.status, hsame⟩

end Service

/-! ### Visitors, listed and searched -/

namespace Sample

/-- A body with fields that are named like parameters of a query, and without a clause. -/
def nothingAsked : String :=
  "\x7b\"page\": 7, \"where\": [], \"orderBy\": null\x7d"

def secondPage : Request := ⟨.get, "/users?page=2&perPage=3", []⟩

def secondPageSearched : Request :=
  ⟨.post, "/users/search?page=2&perPage=3", Text.bytesOf nothingAsked⟩

theorem asksNothing_nothingAsked : AsksNothing nothingAsked := by
  have htokens : Json.tokens? nothingAsked.toList
      = some [.leftBrace, .string "page", .colon, .number (.integer 7), .comma, .string "where",
        .colon, .leftBracket, .rightBracket, .comma, .string "orderBy", .colon, .null,
        .rightBrace] := by
    cbv
  have hread : Json.ofText? Document.nestingLimit nothingAsked
      = some (.object [("page", integer 7), ("where", .array []), ("orderBy", .null)]) := by
    rw [Json.ofText?, htokens]
    rfl
  refine .object hread fun clause v hmem => ?_
  simp only [List.mem_cons, Prod.mk.injEq, List.not_mem_nil, or_false] at hmem
  rcases hmem with ⟨hkey, -⟩ | ⟨-, rfl⟩ | ⟨-, rfl⟩
  · cases clause <;> exact absurd hkey (by decide)
  · exact .inr rfl
  · exact .inl rfl

theorem isOpen_users : reception.IsOpen "users" := by
  constructor <;> decide +kernel

/-- The second page is the same, listed or searched for with a body that names another page. -/
theorem second_page_either_way :
    Service.build pairs [] (some visitors.backend) [] = .ok reception
      ∧ AsksNothing nothingAsked
      ∧ (reception.answer secondPage).response.status
        = (reception.answer secondPageSearched).response.status
      ∧ (reception.answer secondPage).SameElsewhere (reception.answer secondPageSearched) :=
  ⟨build_reception, asksNothing_nothingAsked,
    Service.answer_list_sameElsewhere isOpen_users rfl (by decide +kernel) rfl (by decide +kernel)
      (by decide +kernel) (Text.decode_bytesOf _) asksNothing_nothingAsked (by decide +kernel)⟩

def nameless : Entity := (Entity.new "nameless" "things").withPlural ""

def annex : Service :=
  ⟨Store.empty.backend, .ofList (directory.descriptors ++ [nameless]), directory.pagination, none,
    []⟩

def spaces (n : Nat) : String := String.ofList (List.replicate n ' ')

def spacesSearched (n : Nat) : Request := ⟨.post, "/users/search", Text.bytesOf (spaces n)⟩

theorem asksNothing_spaces (n : Nat) : AsksNothing (spaces n) := by
  refine .blank ?_
  rw [Text.allBlank, spaces, String.toList_ofList, List.all_eq_true]
  intro c hc
  rw [List.eq_of_mem_replicate hc]
  decide

theorem length_spacesSearched (n : Nat) : (spacesSearched n).body.length = n :=
  Text.length_bytesOf_replicate (by decide) n

/-- The entity with the empty segment is searched and not listed, and blanks are refused if there
are too many of them. -/
theorem answers_differ :
    Service.build directory [nameless] (some Store.empty.backend) [] = .ok annex
      ∧ ("" ∉ reservedPlurals ∧ AsksNothing ""
        ∧ (annex.answer ⟨.get, "/", []⟩).response.status = 404
        ∧ (annex.answer ⟨.post, "//search", Text.bytesOf ""⟩).response.status = 200)
      ∧ annex.IsOpen "users" ∧ AsksNothing (spaces 2097153)
      ∧ (annex.answer ⟨.get, "/users", []⟩).response.status = 200
      ∧ (annex.answer (spacesSearched 2097153)).response.status = 413 := by
  have hbuild : Service.build directory [nameless] (some Store.empty.backend) [] = .ok annex :=
    Service.build_eq_ok_iff.mpr ⟨by decide +kernel, by decide +kernel, _, rfl, rfl⟩
  have htarget : (spacesSearched 2097153).target = "/" ++ "users/search" := rfl
  have hpath : (spacesSearched 2097153).path = "/" ++ "users" ++ "/search" :=
    (Request.path_of_plain htarget (List.all_iff_forall_prop.mp (by decide))).1
  have hlarge : Service.maxBodySize < (spacesSearched 2097153).body.length := by
    rw [length_spacesSearched]
    decide
  refine ⟨hbuild, ⟨by decide, .blank (by decide), by decide +kernel, by decide +kernel⟩,
    by constructor <;> decide +kernel, asksNothing_spaces _, by decide +kernel, ?_⟩
  exact Service.status_of_large_body rfl hpath writesSegment_users List.not_mem_nil hlarge

end Sample

end Sift
