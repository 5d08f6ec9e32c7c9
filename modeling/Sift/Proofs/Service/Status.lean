import Sift.Proofs.Json.Token
import Sift.Proofs.Like.Footprint
import Sift.Proofs.Search.InsertionOrder
import Sift.Proofs.Service.Dispatch

/-!
# Whose fault a failure is

A request that is answered by executing a plan is described by `Executes`: it is routed to an
entity, its parameters are counts, and its document compiles. Every other request is answered
without the storage, and the status of the answer blames the client if it blames anybody
(`status_of_not_executes`). An unbroken store executes all plans but those with a pattern that is
too large to be built, and these are the only requests that are answered with a server error.

Main statement: `serverError_iff_largePattern`.
-/

namespace Sift

/-- No error is reported as a success. -/
theorem SearchError.le_status (x : SearchError) : 400 ≤ x.status := by
  cases x with
  | compile c => simp [status]
  | execution f => cases f <;> simp [status, ExecutionError.status]
  | config c => simp [status]
  | request q => cases q <;> simp [status, RequestError.status]
  | internal m => simp [status]

namespace Service

/-- The request is answered by executing a plan for an entity: it lists the rows of the entity, or
it searches them with a document that compiles to the plan. -/
inductive Executes (s : Service) (r : Request) (e : Entity) (p : Plan) : Prop where
  | list {segment plural : String} {params : SearchParams}
      (hmethod : r.method = .get ∨ r.method = .head)
      (hroute : Route.ofPath (s.customs.map Prod.fst) r.path = some (.list segment))
      (hsegment : Text.percentDecoded segment = .ok plural)
      (hparams : paramsOf r = .ok params) (hentity : s.registry.find? plural = some e)
      (hplan : e.compile .empty = .ok p)
  | search {segment plural : String} {params : SearchParams} {d : Document}
      (hmethod : r.method = .post)
      (hroute : Route.ofPath (s.customs.map Prod.fst) r.path = some (.search segment))
      (hsegment : Text.percentDecoded segment = .ok plural)
      (hbody : r.body.length ≤ maxBodySize) (hparams : paramsOf r = .ok params)
      (hdocument : documentOf r.body = .ok d) (hentity : s.registry.find? plural = some e)
      (hplan : e.compile d = .ok p)

def BlamesClient (status : Nat) : Prop := 400 ≤ status ∧ status < 500

/-- The reply blames the client, and the storage was left alone. -/
structure Declines (reply : Reply) : Prop where
  blames : BlamesClient reply.response.status
  idle : reply.calls = []

variable {s : Service} {r : Request} {e : Entity} {p : Plan}

/-! ## Requests that execute nothing -/

theorem blamesClient_compile (c : CompileError) :
    BlamesClient (SearchError.compile c).response.status :=
  ⟨SearchError.le_status (.compile c), (SearchError.status_lt_500_iff _).mpr (.inl ⟨c, rfl⟩)⟩

theorem blamesClient_request (x : RequestError) :
    BlamesClient (SearchError.request x).response.status :=
  ⟨SearchError.le_status (.request x), (SearchError.status_lt_500_iff _).mpr (.inr ⟨x, rfl⟩)⟩

/-- A body that is no document is declined. -/
theorem declines_of_documentOf {body : List UInt8} {x : SearchError}
    (h : documentOf body = .error x) : Declines x.response.alone := by
  unfold documentOf at h
  split at h
  · cases h
    exact ⟨blamesClient_request _, rfl⟩
  · next text _ =>
    cases hd : Document.ofText text with
    | ok d =>
      rw [hd] at h
      cases h
    | error f =>
      rw [hd] at h
      cases h
      exact ⟨blamesClient_compile _, rfl⟩

theorem declines_of_paramsOf {x : SearchError} (h : paramsOf r = .error x) :
    Declines x.response.alone := by
  unfold paramsOf at h
  cases hq : SearchParams.ofQuery r.query with
  | ok params =>
    rw [hq] at h
    cases h
  | error f =>
    rw [hq] at h
    cases h
    exact ⟨blamesClient_request _, rfl⟩

/-- A search of no entity, or with a document that no plan comes from, is the client's fault. -/
theorem declines_of_run {plural : String} {d : Document} {params : SearchParams}
    {path : String} (h : ∀ e p, s.registry.find? plural = some e → e.compile d ≠ .ok p) :
    Declines (s.run plural d params path) := by
  unfold run
  split
  · exact ⟨blamesClient_request _, rfl⟩
  · next e he =>
    cases hc : e.compile d with
    | error c => exact ⟨blamesClient_compile c, rfl⟩
    | ok p => exact absurd hc (h e p he)

/-- A segment that is no text is declined, so only what is done with the text is left to check. -/
theorem declines_withSegment {segment : String} {go : String → Reply}
    (h : ∀ plural, Text.percentDecoded segment = .ok plural → Declines (go plural)) :
    Declines (withSegment segment go) := by
  unfold withSegment
  split
  · next plural hsegment => exact h plural hsegment
  · exact ⟨⟨Nat.le_refl 400, by decide⟩, rfl⟩

/-- A listing that executes nothing. -/
theorem declines_of_list {plural : String}
    (h : ∀ params e p, paramsOf r = .ok params → s.registry.find? plural = some e →
      e.compile .empty ≠ .ok p) : Declines (s.list plural r) := by
  unfold list
  split
  · next x hx => exact declines_of_paramsOf hx
  · next params hparams => exact declines_of_run fun e p => h params e p hparams

/-- A search that executes nothing. -/
theorem declines_of_search {plural : String}
    (h : ∀ params d e p, paramsOf r = .ok params → documentOf r.body = .ok d →
      s.registry.find? plural = some e → e.compile d ≠ .ok p) :
    Declines (s.search plural r) := by
  unfold search
  split
  · next x hx => exact declines_of_paramsOf hx
  · next x hx _ => exact declines_of_documentOf hx
  · next params d hparams hd => exact declines_of_run fun e p => h params d e p hparams hd

/-- What a route allows is answered by it, without the body if only the head is asked for. -/
theorem answer_of_allows {route : Route} (hoptions : r.method ≠ .options)
    (hroute : Route.ofPath (s.customs.map Prod.fst) r.path = some route)
    (hallows : route.allows r.method = true) :
    s.answer r = if r.method = .head then withoutBody (s.answerRoute r route)
      else s.answerRoute r route := by
  rw [answer, if_neg hoptions, hroute]
  simp only [hallows, if_true]

/-- A method that the route does not take is declined. -/
theorem answer_of_not_allows {route : Route} (hoptions : r.method ≠ .options)
    (hroute : Route.ofPath (s.customs.map Prod.fst) r.path = some route)
    (hallows : route.allows r.method = false) :
    s.answer r = (Response.mk 405 .empty).alone := by
  rw [answer, if_neg hoptions, hroute]
  simp [hallows]

/-- What an entity is listed or searched for without executing a plan. -/
theorem declines_of_not_executes {segment : String} (h : ∀ e p, ¬ s.Executes r e p)
    (hroute : Route.ofPath (s.customs.map Prod.fst) r.path = some (.list segment)
      ∨ Route.ofPath (s.customs.map Prod.fst) r.path = some (.search segment))
    (hoptions : r.method ≠ .options) : Declines (s.answer r) := by
  have hrefused : Declines (Response.mk 405 .empty).alone := ⟨⟨by decide, by decide⟩, rfl⟩
  rcases hroute with hroute | hroute
  · cases hallows : (Route.list segment).allows r.method with
    | false => rwa [answer_of_not_allows hoptions hroute hallows]
    | true =>
      -- The route is right, so if the segment, the parameters, the entity and the plan were, it
      -- would execute.
      have hmethod : r.method = .get ∨ r.method = .head := by
        simpa [Route.allows] using hallows
      have hdeclines : Declines (s.answerRoute r (.list segment)) :=
        declines_withSegment fun plural hsegment =>
          declines_of_list fun params e p hparams hentity hplan =>
            h e p (.list hmethod hroute hsegment hparams hentity hplan)
      rw [answer_of_allows hoptions hroute hallows]
      split
      · exact ⟨hdeclines.blames, hdeclines.idle⟩
      · exact hdeclines
  · cases hallows : (Route.search segment).allows r.method with
    | false => rwa [answer_of_not_allows hoptions hroute hallows]
    | true =>
      have hmethod : r.method = .post := by simpa [Route.allows] using hallows
      rw [answer_of_allows hoptions hroute hallows, if_neg (by simp [hmethod])]
      refine declines_withSegment fun plural hsegment => ?_
      split
      · exact ⟨⟨by decide, by decide⟩, rfl⟩
      · next hbody =>
        exact declines_of_search fun params d e p hparams hd hentity hplan =>
          h e p (.search hmethod hroute hsegment (Nat.not_lt.mp hbody) hparams hd hentity hplan)

/-- The other requests never get as far as the storage. -/
theorem answer_of_other_route
    (h : ∀ segment, Route.ofPath (s.customs.map Prod.fst) r.path ≠ some (.list segment)
      ∧ Route.ofPath (s.customs.map Prod.fst) r.path ≠ some (.search segment)) :
    (s.answer r).response.status < 500 ∧ (s.answer r).calls = [] := by
  by_cases hoptions : r.method = .options
  · rw [answer_options s hoptions]
    exact ⟨by decide, rfl⟩
  cases hroute : Route.ofPath (s.customs.map Prod.fst) r.path with
  | none =>
    rw [answer_of_unknown_path s hoptions hroute]
    exact ⟨by decide, rfl⟩
  | some route =>
    cases hallows : route.allows r.method with
    | false =>
      rw [answer_of_not_allows hoptions hroute hallows]
      exact ⟨by decide, rfl⟩
    | true =>
      rw [answer_of_allows hoptions hroute hallows]
      -- The other routes answer by themselves, with or without a body.
      cases route with
      | custom path => split <;> exact ⟨(by decide : 200 < 500), rfl⟩
      | health => split <;> exact ⟨(by decide : 200 < 500), rfl⟩
      | list segment => exact absurd hroute (h segment).1
      | search segment => exact absurd hroute (h segment).2

/-- Whatever a request that executes nothing is answered, it is no server error, and the storage is
left alone. -/
theorem answer_of_not_executes (h : ∀ e p, ¬ s.Executes r e p) :
    (s.answer r).response.status < 500 ∧ (s.answer r).calls = [] := by
  by_cases hoptions : r.method = .options
  · rw [answer_options s hoptions]
    exact ⟨by decide, rfl⟩
  by_cases hroute : ∃ segment, Route.ofPath (s.customs.map Prod.fst) r.path = some (.list segment)
      ∨ Route.ofPath (s.customs.map Prod.fst) r.path = some (.search segment)
  · obtain ⟨segment, hroute⟩ := hroute
    have hdeclines := declines_of_not_executes h hroute hoptions
    exact ⟨hdeclines.blames.2, hdeclines.idle⟩
  · simp only [not_exists, not_or] at hroute
    exact answer_of_other_route hroute

/-- Where an entity should be listed or searched, the status blames the client. -/
theorem status_of_not_executes (h : ∀ e p, ¬ s.Executes r e p) :
    (s.answer r).response.status < 500
      ∧ ∀ segment, (Route.ofPath (s.customs.map Prod.fst) r.path = some (.list segment)
          ∨ Route.ofPath (s.customs.map Prod.fst) r.path = some (.search segment)) →
        r.method ≠ .options → BlamesClient (s.answer r).response.status :=
  ⟨(answer_of_not_executes h).1, fun _ hroute hoptions =>
    (declines_of_not_executes h hroute hoptions).blames⟩

/-! ## Requests that execute a plan -/

/-- What answers a request that executes a plan. Only a listing can be asked for its head. -/
theorem exists_reply_of_executes (h : s.Executes r e p) :
    ∃ plural d params, paramsOf r = .ok params ∧ s.registry.find? plural = some e
      ∧ e.compile d = .ok p ∧ (r.method = .head → d = .empty)
      ∧ s.answer r = if r.method = .head then withoutBody (s.run plural d params r.path)
        else s.run plural d params r.path := by
  -- By either route, whatever the request must pass before it is run is known to let it pass.
  cases h with
  | @list segment plural params hmethod hroute hsegment hparams hentity hplan =>
    have hoptions : r.method ≠ .options := by
      rcases hmethod with hm | hm <;> simp [hm]
    have hallows : (Route.list segment).allows r.method = true := by
      simpa [Route.allows] using hmethod
    have hrun : s.answerRoute r (.list segment) = s.run plural .empty params r.path := by
      simp [answerRoute, withSegment, hsegment, list_eq_run hparams]
    refine ⟨plural, .empty, params, hparams, hentity, hplan, fun _ => rfl, ?_⟩
    rw [answer_of_allows hoptions hroute hallows, hrun]
  | @search segment plural params d hmethod hroute hsegment hbody hparams hdocument hentity hplan =>
    have hoptions : r.method ≠ .options := by simp [hmethod]
    have hallows : (Route.search segment).allows r.method = true := by
      simp [hmethod, Route.allows]
    have hrun : s.answerRoute r (.search segment) = s.run plural d params r.path := by
      simp [answerRoute, withSegment, hsegment, Nat.not_lt.mpr hbody,
        search_eq_run hparams hdocument]
    refine ⟨plural, d, params, hparams, hentity, hplan, by simp [hmethod], ?_⟩
    rw [answer_of_allows hoptions hroute hallows, hrun]

/-- A listing has no patterns, so only the answer to a search is told apart from its head. -/
theorem exists_run_of_executes (h : s.Executes r e p) :
    ∃ plural d params path, s.registry.find? plural = some e ∧ e.compile d = .ok p
      ∧ (s.answer r).response.status = (s.run plural d params path).response.status
      ∧ (p.patterns ≠ [] → (s.answer r).response = (s.run plural d params path).response) := by
  obtain ⟨plural, d, params, -, hentity, hplan, hhead, hanswer⟩ := exists_reply_of_executes h
  refine ⟨plural, d, params, r.path, hentity, hplan, ?_, fun hpatterns => ?_⟩
  · rw [hanswer]
    split <;> rfl
  · rw [hanswer, if_neg]
    intro hmethod
    rw [hhead hmethod] at hplan
    cases hplan
    exact hpatterns rfl

variable {store : Store} {plural path pattern : String} {d : Document} {params : SearchParams}

/-- Over a store that works, a document that compiles succeeds unless one of its patterns is too
large. -/
theorem status_run (hbackend : s.backend = store.backend) (hs : store.broken = false)
    (hentity : s.registry.find? plural = some e) (hplan : e.compile d = .ok p)
    (hp : p.largePattern? = none) : (s.run plural d params path).response.status = 200 := by
  obtain ⟨page, hpage⟩ := Store.exists_page (e := e) hs hp (s.pageRequest params path)
  rw [run, hentity]
  simp only [hplan, hbackend, hpage]
  rfl

/-- A pattern that is too large fails the count, before the store is looked at. -/
theorem count_of_largePattern (hp : p.largePattern? = some pattern) :
    store.backend.count (.resolve e p) = .error (Store.patternError pattern) := by
  have hquery : (Query.resolve e p).plan.largePattern? = some pattern := hp
  show store.count (.resolve e p) = _
  rw [Store.count, Store.matching, hquery]
  rfl

/-- A pattern that is too large fails the query, whether or not the store works. -/
theorem response_run (hbackend : s.backend = store.backend)
    (hentity : s.registry.find? plural = some e) (hplan : e.compile d = .ok p)
    (hp : p.largePattern? = some pattern) :
    (s.run plural d params path).response
      = (SearchError.execution (.queryFailed e.name (Store.patternError pattern))).response := by
  have hcount : store.backend.count (.resolve e p) = .error (Store.patternError pattern) :=
    count_of_largePattern hp
  have hfailed := Backend.execute_of_count_error (r := s.pageRequest params path) hcount
  rw [run, hentity]
  simp only [hplan, hbackend, hfailed]
  rfl

/-- The same holds of the answer to a request that is executed. -/
theorem status_of_executes (hbackend : s.backend = store.backend) (hs : store.broken = false)
    (h : s.Executes r e p) (hp : p.largePattern? = none) :
    (s.answer r).response.status = 200 := by
  obtain ⟨plural, d, params, path, hentity, hplan, hstatus, -⟩ := exists_run_of_executes h
  rw [hstatus, status_run hbackend hs hentity hplan hp]

/-- The failure of a pattern reaches the answer as well. -/
theorem response_of_executes (hbackend : s.backend = store.backend) (h : s.Executes r e p)
    (hp : p.largePattern? = some pattern) :
    (s.answer r).response
      = (SearchError.execution (.queryFailed e.name (Store.patternError pattern))).response := by
  obtain ⟨plural, d, params, path, hentity, hplan, -, hresponse⟩ := exists_run_of_executes h
  have hpatterns : p.patterns ≠ [] := List.ne_nil_of_mem (List.mem_of_find?_eq_some hp)
  rw [hresponse hpatterns, response_run hbackend hentity hplan hp]

end Service

namespace Sample

def desk : Service := ⟨Store.empty.backend, .ofList [user], directory.pagination, none, []⟩

theorem build_desk : Service.build directory [] (some Store.empty.backend) [] = .ok desk :=
  Service.build_eq_ok_iff.mpr ⟨by decide +kernel, by decide +kernel, _, rfl, rfl⟩

def opening : String := "\x7b\"where\":[[\"name\",\"like\",\""

def closing : String := "\"]]\x7d"

/-- The text of the document that asks for the names that a pattern matches. -/
def nameSearch (pattern : String) : String := opening ++ pattern ++ closing

theorem toList_opening : opening.toList
    = '\x7b' :: '"' :: ("where".toList ++ '"' :: ':' :: '[' :: '[' :: '"' :: ("name".toList ++ '"'
      :: ',' :: '"' :: ("like".toList ++ ['"', ',', '"']))) := by
  decide +kernel

theorem toList_closing : closing.toList = ['"', ']', ']', '\x7d'] := by decide +kernel

/-- The text of the request, with its pattern in the middle. -/
theorem toList_nameSearch (pattern : String) : (nameSearch pattern).toList
    = '\x7b' :: '"' :: ("where".toList ++ '"' :: ':' :: '[' :: '[' :: '"' :: ("name".toList ++ '"'
      :: ',' :: '"' :: ("like".toList ++ '"' :: ',' :: '"' :: (pattern.toList ++ '"' :: ']' :: ']'
      :: ['\x7d'])))) := by
  have hparts : (nameSearch pattern).toList
      = opening.toList ++ pattern.toList ++ closing.toList := by
    rw [nameSearch, String.toList_append, String.toList_append]
  rw [hparts, toList_opening, toList_closing]
  simp only [List.cons_append, List.append_assoc, List.nil_append]

/-- A pattern that needs no escape is one token of that text. -/
theorem tokens?_nameSearch {pattern : String}
    (h : ∀ c ∈ pattern.toList, Json.IsVerbatim c) :
    Json.tokens? (nameSearch pattern).toList
      = some [.leftBrace, .string "where", .colon, .leftBracket, .leftBracket, .string "name",
        .comma, .string "like", .comma, .string pattern, .rightBracket, .rightBracket,
        .rightBrace] := by
  have hwhere : ∀ c ∈ "where".toList, Json.IsVerbatim c := List.all_iff_forall_prop.mp (by decide)
  have hname : ∀ c ∈ "name".toList, Json.IsVerbatim c := List.all_iff_forall_prop.mp (by decide)
  have hlike : ∀ c ∈ "like".toList, Json.IsVerbatim c := List.all_iff_forall_prop.mp (by decide)
  rw [toList_nameSearch, Json.tokens?, Json.tokensFrom?_mark '\x7b' .leftBrace (by decide),
    Json.tokensFrom?_string hwhere, Json.tokensFrom?_mark ':' .colon (by decide),
    Json.tokensFrom?_mark '[' .leftBracket (by decide),
    Json.tokensFrom?_mark '[' .leftBracket (by decide), Json.tokensFrom?_string hname,
    Json.tokensFrom?_mark ',' .comma (by decide), Json.tokensFrom?_string hlike,
    Json.tokensFrom?_mark ',' .comma (by decide), Json.tokensFrom?_string h,
    Json.tokensFrom?_mark ']' .rightBracket (by decide),
    Json.tokensFrom?_mark ']' .rightBracket (by decide),
    Json.tokensFrom?_mark '\x7d' .rightBrace (by decide), Json.tokensFrom?]
  simp

theorem ofText_nameSearch {pattern : String}
    (h : ∀ c ∈ pattern.toList, Json.IsVerbatim c) :
    Document.ofText (nameSearch pattern)
      = .ok { Document.empty with conditions := [⟨"name", some "like", .string pattern⟩] } := by
  have hblank : Text.allBlank (nameSearch pattern) = false := by
    rw [Text.allBlank, toList_nameSearch, List.all_cons]
    rfl
  have hjson : Json.ofText? Document.nestingLimit (nameSearch pattern)
      = some (.object [("where", .array [.array [.string "name", .string "like",
          .string pattern]])]) := by
    rw [Json.ofText?, tokens?_nameSearch h]
    rfl
  rw [Document.ofText, hblank, hjson]
  rfl

def wildcards (n : Nat) : String := String.ofList (List.replicate n '_')

def wildcardRequest (n : Nat) : Request :=
  ⟨.post, "/users/search", Text.bytesOf (nameSearch (wildcards n))⟩

def wildcardPlan (n : Nat) : Plan :=
  { Plan.empty with predicates := [⟨"name", .like, .text (Like.ofOperand (wildcards n))⟩] }

theorem documentOf_wildcardRequest (n : Nat) :
    Service.documentOf (wildcardRequest n).body
      = .ok { Document.empty with
          conditions := [⟨"name", some "like", .string (wildcards n)⟩] } := by
  have hverbatim : ∀ c ∈ (wildcards n).toList, Json.IsVerbatim c := by
    intro c hc
    rw [wildcards, String.toList_ofList] at hc
    rw [List.eq_of_mem_replicate hc]
    decide
  show Service.documentOf (Text.bytesOf _) = _
  rw [Service.documentOf_bytesOf, ofText_nameSearch hverbatim]
  rfl

theorem length_wildcardRequest (n : Nat) : (wildcardRequest n).body.length = n + 30 := by
  have hwildcards : (Text.bytesOf (wildcards n)).length = n :=
    Text.length_bytesOf_replicate (by decide) n
  have hopening : (Text.bytesOf opening).length = 26 := by decide +kernel
  have hclosing : (Text.bytesOf closing).length = 4 := by decide +kernel
  show (Text.bytesOf (opening ++ wildcards n ++ closing)).length = _
  rw [Text.bytesOf_append, Text.bytesOf_append, List.length_append, List.length_append, hwildcards,
    hopening, hclosing]
  omega

/-- Enough wildcards for one character make a pattern too large. -/
theorem largePattern_wildcardPlan {n : Nat} (h : Like.sizeLimit < Like.wildcardSize * n) :
    (wildcardPlan n).largePattern? = some (Like.ofOperand (wildcards n)) := by
  have hwildcards : (wildcards n).toList.count '_' = n := by simp [wildcards]
  have hcount := Like.le_count_ofOperand '_' (wildcards n)
  rw [hwildcards] at hcount
  have hlarge : Like.isTooLarge (Like.ofOperand (wildcards n)) = true :=
    Like.isTooLarge_of_wildcards (Nat.lt_of_lt_of_le h (Nat.mul_le_mul_left _ hcount))
  show [Like.ofOperand (wildcards n)].find? Like.isTooLarge = _
  rw [List.find?_cons, hlarge]

/-- A search with enough wildcards, in a body that is not too large, fails in the storage. -/
theorem wildcards_fail {n : Nat} (h : Like.sizeLimit < Like.wildcardSize * n)
    (hbody : n + 30 ≤ Service.maxBodySize) :
    (desk.answer (wildcardRequest n)).response
      = (SearchError.execution (.queryFailed "user"
          (Store.patternError (Like.ofOperand (wildcards n))))).response := by
  have htarget : (wildcardRequest n).target = "/" ++ "users/search" := rfl
  obtain ⟨hpath, hquery⟩ := Request.path_of_plain htarget (List.all_iff_forall_prop.mp (by decide))
  have hparams : Service.paramsOf (wildcardRequest n) = .ok SearchParams.none := by
    rw [Service.paramsOf, hquery, SearchParams.ofQuery_none]
    rfl
  -- The request is within the limit for bodies, so nothing stops it before the search.
  have hfits : (wildcardRequest n).body.length ≤ Service.maxBodySize := by
    rwa [length_wildcardRequest]
  have hentity : desk.registry.find? "users" = some user := by decide +kernel
  have hplan : user.compile
      { Document.empty with conditions := [⟨"name", some "like", .string (wildcards n)⟩] }
      = .ok (wildcardPlan n) := rfl
  rw [Service.answer_of_search_path rfl hpath writesSegment_users List.not_mem_nil hfits,
    Service.search_eq_run hparams (documentOf_wildcardRequest n),
    Service.response_run rfl hentity hplan (largePattern_wildcardPlan h)]
  rfl

end Sample

end Sift
