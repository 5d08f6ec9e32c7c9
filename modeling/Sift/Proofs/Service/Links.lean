import Sift.Proofs.Search.Pagination
import Sift.Proofs.Service.Dispatch

/-!
# Following the links

A client that asks for rows follows the address of the next page that every answer gives, with the
same method and body, until an answer gives none. `Walk` is what it sees. The addresses hold the
path and the number of a page and nothing else; so only the first request has the page size that the
client asked for, and all others have the default one (`walk_pages`). If the two are the same, the
client has seen all rows at the end, each of them once; if not, the later pages go on where the
second page of the default size starts.

Main statement: `links_lead_through`.
-/

namespace Sift

/-! ## What a client sees -/

def Page.view (p : Page) : Json :=
  .object (("message", .string "Successful action") :: p.fields)

theorem Page.response_eq (p : Page) : p.response = ⟨200, .json p.view⟩ := rfl

theorem Page.next_view (p : Page) :
    p.view.field? "next_page_url" = some (optional .string p.nextPageUrl) := rfl

/-- The bodies of the answers to a client that asks at an address and goes on to the next page as
long as there is one. The client sends the same request to all addresses. -/
inductive Walk (s : Service) (send : String → Request) : String → List Json → Prop where
  | last {target : String} {body : Json} :
      (s.answer (send target)).response = ⟨200, .json body⟩ →
      body.field? "next_page_url" = some .null → Walk s send target [body]
  | next {target url : String} {body : Json} {rest : List Json} :
      (s.answer (send target)).response = ⟨200, .json body⟩ →
      body.field? "next_page_url" = some (.string url) → Walk s send url rest →
      Walk s send target (body :: rest)

namespace Walk

variable {s : Service} {send : String → Request} {target : String}

/-- A client sees the same whenever it asks. -/
theorem unique {bodies bodies' : List Json} (h : Walk s send target bodies)
    (h' : Walk s send target bodies') : bodies = bodies' := by
  -- The answer at each step decides whether the walk ends there and where else it goes.
  induction h generalizing bodies' with
  | last hbody hend =>
    cases h' with
    | last hbody' hend' =>
      rw [hbody] at hbody'
      cases hbody'
      rfl
    | next hbody' hnext' _ =>
      rw [hbody] at hbody'
      cases hbody'
      rw [hend] at hnext'
      cases hnext'
  | next hbody hnext _ ih =>
    cases h' with
    | last hbody' hend' =>
      rw [hbody] at hbody'
      cases hbody'
      rw [hnext] at hend'
      cases hend'
    | next hbody' hnext' hrest' =>
      rw [hbody] at hbody'
      cases hbody'
      rw [hnext] at hnext'
      cases hnext'
      rw [ih hrest']

theorem last_page {page : Page} (h : (s.answer (send target)).response = page.response)
    (hend : page.nextPageUrl = none) : Walk s send target [page.view] :=
  .last (h.trans page.response_eq) (by rw [Page.next_view, hend]; rfl)

theorem next_page {page : Page} {url : String} {rest : List Json}
    (h : (s.answer (send target)).response = page.response)
    (hnext : page.nextPageUrl = some url) (hrest : Walk s send url rest) :
    Walk s send target (page.view :: rest) :=
  .next (h.trans page.response_eq) (by rw [Page.next_view, hnext]; rfl) hrest

end Walk

/-! ## Inquiries -/

inductive Inquiry where
  | list
  | search (body : List UInt8)

namespace Inquiry

def request : Inquiry → String → Request
  | list, target => ⟨.get, target, []⟩
  | search body, target => ⟨.post, target, body⟩

/-- The path to ask at, after its first slash, for the entity that a segment names. -/
def route (segment : String) : Inquiry → String
  | list => segment
  | search _ => segment ++ "/search"

def path (q : Inquiry) (segment : String) : String := "/" ++ q.route segment

def document : Inquiry → Except SearchError Document
  | list => .ok .empty
  | search body => Service.documentOf body

/-- The service has an entity for the segment, and the inquiry reaches it with a document that
compiles to the plan. -/
structure Reaches (q : Inquiry) (s : Service) (segment : String) (e : Entity) (p : Plan) :
    Prop where
  writes : Text.WritesSegment segment e.plural
  named : e.plural ≠ ""
  free : e.plural ∉ reservedPlurals
  unclaimed : q.path segment ∉ s.customs.map Prod.fst
  registered : s.registry.find? e.plural = some e
  fits : (q.request "").body.length ≤ Service.maxBodySize
  compiles : ∃ d, q.document = .ok d ∧ e.compile d = .ok p

variable {q : Inquiry} {s : Service} {segment : String} {e : Entity} {p : Plan}

/-- A path written with escapes holds nothing that ends a path. -/
theorem route_plain (h : Text.WritesSegment segment e.plural) :
    ∀ c ∈ (q.route segment).toList, c ≠ '?' ∧ c ≠ '#' := by
  have hword : ∀ c ∈ "/search".toList, c ≠ '?' ∧ c ≠ '#' :=
    List.all_iff_forall_prop.mp (by decide)
  intro c hc
  cases q with
  | list => exact (h.plain c hc).2
  | search body =>
    rw [route, String.toList_append] at hc
    exact (List.mem_append.mp hc).elim (fun hc => (h.plain c hc).2) (hword c)

/-- What the service executes for an inquiry with page parameters. -/
theorem Reaches.answer_eq_run (h : q.Reaches s segment e p) {query : String} {params : SearchParams}
    (hquery : '#' ∉ query.toList) (hparams : SearchParams.ofQuery (some query) = .ok params) :
    ∃ d, e.compile d = .ok p
      ∧ s.answer (q.request (q.path segment ++ "?" ++ query))
        = s.run e.plural d params (q.path segment) := by
  obtain ⟨d, hdocument, hcompile⟩ := h.compiles
  refine ⟨d, hcompile, ?_⟩
  have htarget : (q.request (q.path segment ++ "?" ++ query)).target
      = "/" ++ q.route segment ++ "?" ++ query := by
    cases q <;> rfl
  obtain ⟨hpath, hq⟩ := Request.path_of_query htarget (route_plain h.writes) hquery
  have hread : Service.paramsOf (q.request (q.path segment ++ "?" ++ query)) = .ok params := by
    rw [Service.paramsOf, hq, hparams]
    rfl
  cases q with
  | list =>
    cases hdocument
    rw [Service.answer_of_path rfl hpath h.writes h.free h.named h.unclaimed,
      Service.list_eq_run hread, hpath]
    rfl
  | search body =>
    have hroute : "/" ++ (segment ++ "/search") = "/" ++ segment ++ "/search" :=
      String.append_assoc.symm
    -- The path is put together in another way here than where no custom route was found for it.
    have hclaim : "/" ++ segment ++ "/search" ∉ s.customs.map Prod.fst :=
      hroute ▸ h.unclaimed
    rw [Service.answer_of_search_path rfl (hpath.trans hroute) h.writes hclaim h.fits,
      Service.search_eq_run hread hdocument, hpath]
    rfl

end Inquiry

/-! ## Pages of a service -/

namespace Service

/-- The page size that a service gives a client that asks for `size`, or does not say. -/
def sizeFor (s : Service) (size : Option Nat) : Nat :=
  SearchParams.pageSize ⟨none, size⟩ s.pagination.perPage.toNat s.pagination.maxPerPage.toNat

/-- A page has room for one row at least, whatever is asked for. -/
theorem sizeFor_pos (s : Service) (size : Option Nat) : 1 ≤ s.sizeFor size := Nat.le_max_left ..

/-- Without an address of its own, the service links to the path that it was asked at. -/
theorem pageRequest_eq {s : Service} (hbase : s.baseUrl = none) (params : SearchParams)
    (path : String) :
    s.pageRequest params path = ⟨params.pageNumber, s.sizeFor params.perPage, path⟩ := by
  have hnumber : 1 ≤ params.pageNumber := Nat.le_max_right ..
  have hsize := s.sizeFor_pos params.perPage
  rw [pageRequest, hbase]
  unfold PageRequest.new
  congr 1
  · exact Nat.max_eq_left hnumber
  · exact Nat.max_eq_left hsize

end Service

def Store.page (store : Store) (e : Entity) (p : Plan) (path : String) (perPage n : Nat) : Page :=
  Page.new (pageSlice perPage n (store.listing e p)) (store.listing e p).length ⟨n, perPage, path⟩

namespace Store

variable {store : Store} {e : Entity} {p : Plan} {path : String} {perPage n : Nat}

theorem data_page : (store.page e p path perPage n).data
    = pageSlice perPage n (store.listing e p) := rfl

theorem total_page : (store.page e p path perPage n).total = (store.listing e p).length := rfl

theorem perPage_page (h : 1 ≤ perPage) : (store.page e p path perPage n).perPage = perPage :=
  Nat.max_eq_left h

theorem lastPage_page (h : 1 ≤ perPage) : (store.page e p path perPage n).lastPage
    = Page.lastPageOf (store.listing e p).length perPage := by
  rw [page, Page.new, Nat.max_eq_left h]

/-- There is a link to the next page unless the page is the last. -/
theorem nextPageUrl_page (h : 1 ≤ perPage) (hn : 1 ≤ n) :
    (store.page e p path perPage n).nextPageUrl
      = if n < Page.lastPageOf (store.listing e p).length perPage then some (Page.url path (n + 1))
        else none := by
  rw [page, Page.new, Nat.max_eq_left h, Nat.max_eq_left hn]

end Store

/-- The address of a page on a path without a query. -/
theorem Page.url_of_plain {path : String} (h : '?' ∉ path.toList) (n : Nat) :
    url path n = path ++ "?" ++ ("page=" ++ toString n) := by
  rw [url, if_neg (by simpa using h), String.append_assoc]

/-! ## Following the links of a store -/

section Following

variable {s : Service} {store : Store} {q : Inquiry} {segment : String} {e : Entity} {p : Plan}
  (hbackend : s.backend = store.backend) (hs : store.broken = false) (hbase : s.baseUrl = none)
  (hrows : (store.rows e.table).length < UInt64.size) (hp : p.largePattern? = none)
  (h : q.Reaches s segment e p)

include hbackend hs hbase hrows hp h

/-- An inquiry with page parameters is answered with the page that they say. -/
theorem answer_request {query : String} {params : SearchParams} (hquery : '#' ∉ query.toList)
    (hparams : SearchParams.ofQuery (some query) = .ok params) :
    (s.answer (q.request (q.path segment ++ "?" ++ query))).response
      = (store.page e p (q.path segment) (s.sizeFor params.perPage)
          params.pageNumber).response := by
  obtain ⟨d, hcompile, hanswer⟩ := h.answer_eq_run hquery hparams
  have hnumber : max params.pageNumber 1 = params.pageNumber :=
    Nat.max_eq_left (Nat.le_max_right ..)
  have hsize : max (s.sizeFor params.perPage) 1 = s.sizeFor params.perPage :=
    Nat.max_eq_left (s.sizeFor_pos _)
  have hresult := result_execute (e := e) hs hp hrows
    (s.pageRequest params (q.path segment))
  rw [Service.pageRequest_eq hbase, hnumber, hsize] at hresult
  rw [hanswer, Service.run, h.registered]
  simp only [hcompile, hbackend, Service.pageRequest_eq hbase, hresult]
  rfl

/-- The address of a page is answered with that page, in the default size. -/
theorem answer_url {n : Nat} (hn : 1 ≤ n) (hmax : n ≤ maxCount) :
    (s.answer (q.request (Page.url (q.path segment) n))).response
      = (store.page e p (q.path segment) (s.sizeFor none) n).response := by
  have hplain : '?' ∉ (q.path segment).toList := by
    have hroute : '?' ∉ (q.route segment).toList :=
      fun hmem => (Inquiry.route_plain h.writes _ hmem).1 rfl
    simp [Inquiry.path, hroute]
  have hhash : '#' ∉ ("page=" ++ toString n).toList := Text.hash_not_mem_append (by decide) n
  have hanswer := answer_request hbackend hs hbase hrows hp h hhash (SearchParams.ofQuery_page hmax)
  have hnumber : SearchParams.pageNumber ⟨some n, none⟩ = n := Nat.max_eq_left hn
  rw [Page.url_of_plain hplain, hanswer, hnumber]

/-- From the address of a page on, a client sees all pages of the default size up to the last. -/
theorem walk_from_page {count n : Nat} (hn : 1 ≤ n)
    (hlast : n + count
      = max n (Page.lastPageOf (store.listing e p).length (s.sizeFor none)))
    (hmax : n + count ≤ maxCount) :
    Walk s q.request (Page.url (q.path segment) n)
      (((List.range' n (count + 1)).map
        (store.page e p (q.path segment) (s.sizeFor none))).map Page.view) := by
  induction count generalizing n with
  | zero =>
    refine .last_page (answer_url hbackend hs hbase hrows hp h hn (by omega)) ?_
    rw [Store.nextPageUrl_page (s.sizeFor_pos none) hn, if_neg (by omega)]
  | succ count ih =>
    rw [List.range'_succ, List.map_cons, List.map_cons]
    refine .next_page (answer_url hbackend hs hbase hrows hp h hn (by omega)) ?_
      (ih (n := n + 1) (by omega) (by omega) (by omega))
    rw [Store.nextPageUrl_page (s.sizeFor_pos none) hn, if_pos (by omega)]

end Following

/-! ## All pages that a client sees -/

/-- How many pages follow the first one, when that has `size` rows and the others `standard`. -/
def followUps (total size standard : Nat) : Nat :=
  if total ≤ size then 0 else max 2 (Page.lastPageOf total standard) - 1

theorem pageSlice_one {α : Type} (perPage : Nat) (l : List α) :
    pageSlice perPage 1 l = l.take perPage := by
  simp [pageSlice]

/-- The pages after the first one hold all rows after those of a first page of their size. -/
theorem flatMap_followUps {α : Type} {standard : Nat} (h : 1 ≤ standard) (size : Nat)
    (l : List α) :
    ((List.range' 2 (followUps l.length size standard)).flatMap fun n => pageSlice standard n l)
      = if l.length ≤ size then [] else l.drop standard := by
  unfold followUps
  split
  · rfl
  · let count := max 2 (Page.lastPageOf l.length standard) - 1
    have hcount : Page.lastPageOf l.length standard ≤ count + 1 := by omega
    have hall : l.length ≤ (count + 1) * standard :=
      Nat.le_trans (Page.total_le_of_lastPage l.length h) (Nat.mul_le_mul_right _ hcount)
    have hslices := flatMap_pageSlice standard (count + 1) l
    rw [List.take_of_length_le hall, List.range'_succ, List.flatMap_cons, pageSlice_one] at hslices
    exact List.append_cancel_left (hslices.trans (List.take_append_drop standard l).symm)

/-- If all pages are of one size, there are as many as the first one says. -/
theorem followUps_add_one {total size standard : Nat} (h : 1 ≤ size)
    (hsame : size = standard ∨ total ≤ size) :
    followUps total size standard + 1 = Page.lastPageOf total size := by
  have hmore : 1 < Page.lastPageOf total size ↔ size < total := by
    rw [Page.lt_lastPageOf_iff h (Nat.le_refl 1), Nat.one_mul]
  have hpos : 1 ≤ Page.lastPageOf total size := Nat.le_max_right ..
  unfold followUps
  split
  · omega
  · next hfits =>
    obtain rfl := hsame.resolve_right hfits
    omega

namespace Store

variable {store : Store} {e : Entity} {p : Plan} {path : String} {size standard : Nat}

/-- The pages that a client sees that asks for a size: the first page of that size and then, from
the second on, those of the standard size. -/
def pages (store : Store) (e : Entity) (p : Plan) (path : String) (size standard : Nat) :
    List Page :=
  store.page e p path size 1 ::
    (List.range' 2 (followUps (store.listing e p).length size standard)).map
      (store.page e p path standard)

/-- All the pages of a walk give the same total. -/
theorem total_of_mem_pages {page : Page} (h : page ∈ store.pages e p path size standard) :
    page.total = (store.listing e p).length := by
  rcases List.mem_cons.mp h with rfl | h
  · exact total_page
  · obtain ⟨n, -, rfl⟩ := List.mem_map.mp h
    exact total_page

/-- There are more pages only if the first one does not hold all rows. -/
theorem perPage_of_mem_tail_pages (hpos : 1 ≤ standard) {page : Page}
    (h : page ∈ (store.pages e p path size standard).tail) :
    page.perPage = standard ∧ size < (store.listing e p).length := by
  obtain ⟨n, hn, rfl⟩ := List.mem_map.mp h
  refine ⟨perPage_page hpos, Nat.not_le.mp fun hfits => ?_⟩
  rw [followUps, if_pos hfits] at hn
  cases hn

/-- If the sizes are the same, or one page is enough, all pages are of the size asked for. -/
theorem perPage_of_mem_pages (hsize : 1 ≤ size) (hpos : 1 ≤ standard)
    (hsame : size = standard ∨ (store.listing e p).length ≤ size) {page : Page}
    (h : page ∈ store.pages e p path size standard) : page.perPage = size := by
  rcases List.mem_cons.mp h with rfl | h
  · exact perPage_page hsize
  · obtain ⟨hstandard, hmore⟩ := perPage_of_mem_tail_pages hpos h
    rw [hstandard, hsame.resolve_right (Nat.not_le.mpr hmore)]

/-- The pages after the first one start where a first page of their own size would end. -/
theorem data_pages (hpos : 1 ≤ standard) :
    (store.pages e p path size standard).flatMap Page.data
      = (store.listing e p).take size
        ++ if (store.listing e p).length ≤ size then [] else (store.listing e p).drop standard := by
  rw [pages, List.flatMap_cons, data_page, pageSlice_one, List.flatMap_map]
  exact congrArg _ (flatMap_followUps hpos size (store.listing e p))

end Store

section Following

variable {s : Service} {store : Store} {q : Inquiry} {segment : String} {e : Entity} {p : Plan}

/-- What a client sees that asks for `k` rows to a page. -/
theorem walk_pages (hbackend : s.backend = store.backend) (hs : store.broken = false)
    (hbase : s.baseUrl = none) (hrows : (store.rows e.table).length < UInt64.size)
    (hp : p.largePattern? = none) (h : q.Reaches s segment e p) {k : Nat} (hk : k ≤ maxCount) :
    Walk s q.request (q.path segment ++ "?perPage=" ++ toString k)
      ((store.pages e p (q.path segment) (s.sizeFor (some k)) (s.sizeFor none)).map Page.view) := by
  have htarget : q.path segment ++ "?perPage=" ++ toString k
      = q.path segment ++ "?" ++ ("perPage=" ++ toString k) := by
    have hword : "?perPage=" = "?" ++ "perPage=" := rfl
    simp only [hword, String.append_assoc]
  have hhash : '#' ∉ ("perPage=" ++ toString k).toList := Text.hash_not_mem_append (by decide) k
  have hfirst := answer_request hbackend hs hbase hrows hp h hhash
    (SearchParams.ofQuery_perPage hk)
  have hpage : SearchParams.pageNumber ⟨none, some k⟩ = 1 := rfl
  rw [hpage, ← htarget] at hfirst
  have hmore : 1 < Page.lastPageOf (store.listing e p).length (s.sizeFor (some k))
      ↔ s.sizeFor (some k) < (store.listing e p).length := by
    rw [Page.lt_lastPageOf_iff (s.sizeFor_pos _) (Nat.le_refl 1), Nat.one_mul]
  rw [Store.pages, List.map_cons]
  unfold followUps
  split
  · next hfits =>
    refine .last_page hfirst ?_
    rw [Store.nextPageUrl_page (s.sizeFor_pos _) (Nat.le_refl 1), if_neg (by omega)]
  -- From the second page on, the links have led to the default size.
  · next hfits =>
    have hnext : (store.page e p (q.path segment) (s.sizeFor (some k)) 1).nextPageUrl
        = some (Page.url (q.path segment) 2) := by
      rw [Store.nextPageUrl_page (s.sizeFor_pos _) (Nat.le_refl 1), if_pos (by omega)]
    refine .next_page hfirst hnext ?_
    have htotal : (store.listing e p).length ≤ (store.rows e.table).length := by
      rw [Store.length_listing]
      exact Store.length_selection_le
    have hlast : Page.lastPageOf (store.listing e p).length (s.sizeFor none)
        ≤ max (store.listing e p).length 1 := Page.lastPageOf_le (s.sizeFor_pos none)
    obtain ⟨count, hcount⟩ : ∃ count,
        max 2 (Page.lastPageOf (store.listing e p).length (s.sizeFor none)) - 1 = count + 1 :=
      ⟨_, (Nat.succ_pred_eq_of_pos (by omega)).symm⟩
    have hbound : UInt64.size = maxCount + 1 := rfl
    have hlarge : 2 ≤ maxCount := by decide
    rw [hcount]
    exact walk_from_page hbackend hs hbase hrows hp h (by decide) (by omega) (by omega)

end Following

/-- If the sizes are the same, or all is taken at first, no item is missing and none repeated. -/
theorem take_append_rest {α : Type} {size standard : Nat} (l : List α)
    (h : size = standard ∨ l.length ≤ size) :
    (l.take size ++ if l.length ≤ size then [] else l.drop standard) = l := by
  split
  · next hfits => rw [List.take_of_length_le hfits, List.append_nil]
  · next hfits =>
    obtain rfl := h.resolve_right hfits
    exact List.take_append_drop size l

/-- **Where the links of pages lead.** Let a service over an unbroken store be built without a base
address, and let a client ask for the rows of an entity, by a listing or by a document that
compiles, in pages of `k` rows. Following the addresses of the next pages ends, with the same pages
whenever it is done. All answers give the number of matching rows as the total. The addresses do not
hold the page size: the first page has the size that was asked for, as far as the limits of the
service admit, and all later ones have the default size. So the client sees the first rows, up to
the size of the first page, and then, if rows are left, those after a page of the default size. If
the two sizes are the same, or one page is enough, these are all rows, sorted and without hidden
columns, in as many pages as the first one says. -/
theorem links_lead_through {config : Config} {extras : List Entity} {store : Store}
    {customs : List (String × String)} {s : Service} {q : Inquiry} {segment : String} {e : Entity}
    {p : Plan} {k : Nat}
    (hbuild : Service.build config extras (some store.backend) customs = .ok s)
    (hbase : config.server.baseUrl = none) (hs : store.broken = false)
    (hrows : (store.rows e.table).length < UInt64.size) (hp : p.largePattern? = none)
    (h : q.Reaches s segment e p) (hk : k ≤ maxCount) :
    ∃ sorted, IsStableSort (compareRows (Query.resolve e p).sort)
        ((store.rows e.table).filter (Query.resolve e p).selects) sorted
      ∧ ∃ first rest,
        (∀ bodies, Walk s q.request (q.path segment ++ "?perPage=" ++ toString k) bodies
          ↔ bodies = (first :: rest).map Page.view)
        ∧ (∀ page ∈ first :: rest, page.total = sorted.length)
        ∧ first.perPage = s.sizeFor (some k) ∧ (∀ page ∈ rest, page.perPage = s.sizeFor none)
        ∧ rest.length = followUps sorted.length (s.sizeFor (some k)) (s.sizeFor none)
        ∧ (first :: rest).flatMap Page.data
          = ((sorted.map e.project).take (s.sizeFor (some k))
            ++ if sorted.length ≤ s.sizeFor (some k) then []
              else (sorted.map e.project).drop (s.sizeFor none))
        ∧ (s.sizeFor (some k) = s.sizeFor none ∨ sorted.length ≤ s.sizeFor (some k) →
          (∀ page ∈ first :: rest, page.perPage = first.perPage)
          ∧ (first :: rest).length = first.lastPage
          ∧ (first :: rest).flatMap Page.data = sorted.map e.project) := by
  have hbackend := Service.backend_of_build hbuild
  have hbase' : s.baseUrl = none := (Service.baseUrl_of_build hbuild).trans hbase
  have hfirst := s.sizeFor_pos (some k)
  have hrest := s.sizeFor_pos none
  have hlength : (store.listing e p).length = (store.selection e p).length := Store.length_listing
  have hwalk := walk_pages hbackend hs hbase' hrows hp h hk
  have hdata : (store.pages e p (q.path segment) (s.sizeFor (some k)) (s.sizeFor none)).flatMap
      Page.data = _ := Store.data_pages hrest
  -- The pages of the walk are known, and it is the only one; all else is read off them.
  refine ⟨store.selection e p, isStableSort_iff.mpr rfl, _, _,
    fun bodies => ⟨fun h' => h'.unique hwalk, fun h' => h' ▸ hwalk⟩, ?_, ?_, ?_, ?_, ?_, ?_⟩
  · exact fun page hpage => hlength ▸ Store.total_of_mem_pages hpage
  · exact Store.perPage_page hfirst
  · exact fun page hpage => (Store.perPage_of_mem_tail_pages hrest hpage).1
  · rw [List.length_map, List.length_range', hlength]
  · rw [← hlength]
    exact hdata
  · rw [← hlength]
    intro hsame
    refine ⟨?_, ?_, ?_⟩
    · intro page hpage
      rw [Store.perPage_of_mem_pages hfirst hrest hsame hpage, Store.perPage_page hfirst]
    · rw [Store.lastPage_page hfirst, List.length_cons, List.length_map, List.length_range']
      exact followUps_add_one hfirst hsame
    · exact hdata.trans (take_append_rest _ hsame)

/-! ### Four users, and pages of two unless a client says otherwise -/

namespace Sample

def pairs : Config := { directory with pagination := ⟨2, 100⟩ }

def visitors : Store :=
  Store.empty.insertRows "users"
    [row (integer 1) "Ann" .null, row (integer 2) "Max" .null, row (integer 3) "Dana" .null,
      row (integer 4) "Cal" .null]

def reception : Service := ⟨visitors.backend, .ofList [user], pairs.pagination, none, []⟩

def namesIn (body : Json) : List (Option String) :=
  match body.field? "data" with
  | some (.array rows) => rows.map fun row => (row.field? "name").bind Json.scalarText?
  | _ => []

theorem build_reception :
    Service.build pairs [] (some visitors.backend) [] = .ok reception :=
  Service.build_eq_ok_iff.mpr ⟨by decide +kernel, by decide +kernel, _, rfl, rfl⟩

theorem documentOf_nil : Service.documentOf [] = .ok .empty := by
  have hnil : [] = Text.bytesOf "" := rfl
  have hblank : Text.allBlank "" = true := by decide
  rw [hnil, Service.documentOf_bytesOf, Document.ofText, if_pos hblank]
  rfl

theorem reaches_user (q : Inquiry) (hq : q = .list ∨ q = .search []) :
    q.Reaches reception "users" user Plan.empty where
  writes := writesSegment_users
  named := by decide
  free := by decide
  unclaimed := List.not_mem_nil
  registered := by decide +kernel
  fits := by rcases hq with rfl | rfl <;> decide
  compiles := by
    refine ⟨.empty, ?_, by decide +kernel⟩
    rcases hq with rfl | rfl
    · rfl
    · exact documentOf_nil

theorem listing_visitors : visitors.listing user Plan.empty = visitors.rows "users" := by
  have hsorted : visitors.selection user Plan.empty = visitors.rows "users" :=
    List.mergeSort_of_pairwise (by decide +kernel)
  rw [Store.listing, hsorted]
  rfl

/-- Asked for pages of three users, the service shows the third one twice. -/
theorem dana_seen_twice :
    Service.build pairs [] (some visitors.backend) [] = .ok reception
      ∧ (Inquiry.search []).Reaches reception "users" user Plan.empty
      ∧ ∃ bodies, Walk reception (Inquiry.search []).request "/users/search?perPage=3" bodies
        ∧ bodies.flatMap namesIn
          = [some "Ann", some "Max", some "Dana", some "Dana", some "Cal"] := by
  have hreaches := reaches_user (.search []) (.inr rfl)
  refine ⟨build_reception, hreaches, ?_⟩
  obtain ⟨sorted, hsorted, first, rest, hwalk, -, -, -, hrest, hdata, -⟩ :=
    links_lead_through (k := 3) build_reception rfl rfl (by decide) rfl hreaches (by decide)
  refine ⟨_, (hwalk _).mpr rfl, ?_⟩
  have hnames : ((first :: rest).map Page.view).flatMap namesIn
      = ((first :: rest).flatMap Page.data).map
          fun row => (row.field? "name").bind Json.scalarText? := by
    rw [List.flatMap_map, List.map_flatMap]
    rfl
  have hlisting : sorted.map user.project = visitors.rows "users" := by
    rw [← listing_visitors, isStableSort_iff.mp hsorted]
    rfl
  have hlength : sorted.length = 4 := by
    rw [← List.length_map user.project, hlisting]
    rfl
  rw [hnames, hdata, hlisting, hlength]
  decide +kernel

/-- Asked for pages of one user, the service never shows the second one. -/
theorem max_never_seen :
    Service.build pairs [] (some visitors.backend) [] = .ok reception
      ∧ Inquiry.list.Reaches reception "users" user Plan.empty
      ∧ (visitors.listing user Plan.empty).length = 4
      ∧ ∀ bodies, Walk reception Inquiry.list.request "/users?perPage=1" bodies →
        bodies.flatMap namesIn = [some "Ann", some "Dana", some "Cal"]
        ∧ bodies.map (fun body => (body.field? "per_page").bind Json.scalarText?)
          = [some "1", some "2"] := by
  have hreaches := reaches_user .list (.inl rfl)
  refine ⟨build_reception, hreaches, by rw [listing_visitors]; rfl, ?_⟩
  intro bodies hbodies
  have hwalk := walk_pages (s := reception) rfl rfl rfl (by decide) rfl hreaches (k := 1)
    (by decide)
  rw [hbodies.unique hwalk]
  unfold Store.pages Store.page
  rw [listing_visitors]
  constructor
  · decide +kernel
  · decide +kernel

end Sample

end Sift
