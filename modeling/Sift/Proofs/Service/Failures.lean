import Sift.Proofs.Compile.Rejection
import Sift.Proofs.Page.Words
import Sift.Proofs.Row.Agreement
import Sift.Proofs.Service.Status

/-!
# What the failures of a backend come to

A search asks a backend for the number of rows and perhaps for the rows themselves, and either
question may be answered with a failure. Nothing is asked twice, and nothing is asked after a
failure: so a search makes one of two sequences of calls, and goes one of four ways
(`Backend.Course`). A failure is reported by the class it belongs to, in the words of the backend;
only a search in which nothing failed is answered with a page.

Main statement: `failures_surface_once`.
-/

namespace Sift

open List (Forall₂)

/-! ## The ways a search can go -/

/-- What the backend answers in the course of a search, and how the search ends. -/
inductive Backend.Course (b : Backend) (p : Plan) (e : Entity) (r : PageRequest) :
    Execution → Prop where
  | uncounted {f : StorageError} (hcount : b.count (.resolve e p) = .error f) :
      Course b p e r (b.failed e [.count] f)
  | pastEnd {total : Nat} (hcount : b.count (.resolve e p) = .ok total)
      (hpast : total ≤ r.offset) : Course b p e r (b.finished e r [.count] total [])
  | unfetched {total : Nat} {f : StorageError} (hcount : b.count (.resolve e p) = .ok total)
      (hwithin : r.offset < total) (hfetch : b.fetch (.resolve e p) r.window = .error f) :
      Course b p e r (b.failed e [.count, .fetch r.window] f)
  | fetched {total : Nat} {rows : List Json} (hcount : b.count (.resolve e p) = .ok total)
      (hwithin : r.offset < total) (hfetch : b.fetch (.resolve e p) r.window = .ok rows) :
      Course b p e r (b.finished e r [.count, .fetch r.window] total rows)

/-- Every execution takes one of the four courses. -/
theorem Backend.course_execute (b : Backend) (p : Plan) (e : Entity) (r : PageRequest) :
    b.Course p e r (b.execute p e r) := by
  cases hcount : b.count (.resolve e p) with
  | error f =>
    rw [execute_of_count_error hcount]
    exact .uncounted hcount
  | ok total =>
    rcases Nat.lt_or_ge r.offset total with hwithin | hpast
    · cases hfetch : b.fetch (.resolve e p) r.window with
      | error f =>
        rw [execute_of_fetch_error hcount hwithin hfetch]
        exact .unfetched hcount hwithin hfetch
      | ok rows =>
        rw [execute_of_fetch hcount hwithin hfetch]
        exact .fetched hcount hwithin hfetch
    · rw [execute_of_past_end hcount hpast]
      exact .pastEnd hcount hpast

def Backend.failure? (b : Backend) (q : Query) : Call → Option StorageError
  | .count => errorOf? (b.count q)
  | .fetch w => errorOf? (b.fetch q w)

def Execution.response (x : Execution) : Response :=
  match x.result with
  | .ok page => page.response
  | .error f => (SearchError.execution f).response

/-! ## What the client is told -/

inductive ReportedBy : StorageError → Nat → String → Prop where
  | unavailable {backend message : String} :
      ReportedBy (.unavailable backend message) 503 "STORAGE_UNAVAILABLE"
  | query {backend message : String} : ReportedBy (.query backend message) 500 "QUERY_FAILED"

def Names (text name : String) : Prop := ∃ before after, text = before ++ name ++ after

/-- The response reports a failure of the storage, with a message that names the entity and the
failure itself. -/
inductive ReportsFailure (e : Entity) (f : StorageError) (response : Response) : Prop where
  | intro {code message : String} {body : Json} (hstatus : ReportedBy f response.status code)
      (hbody : response.body = .json body) (hcode : body.field? "code" = some (.string code))
      (hmessage : body.field? "message" = some (.string message))
      (hentity : Names message e.name) (hfailure : Names message f.message)

theorem names_parts (opening name middle last : String) :
    Names (opening ++ name ++ middle ++ last) name
      ∧ Names (opening ++ name ++ middle ++ last) last :=
  ⟨⟨opening, middle ++ last, String.append_assoc ..⟩,
    ⟨opening ++ name ++ middle, "", String.append_empty.symm⟩⟩

/-- The message of a failure names the entity and repeats what the storage said. -/
theorem ExecutionError.names_message (entity : String) (f : StorageError) :
    Names (ofStorage entity f).message entity ∧ Names (ofStorage entity f).message f.message := by
  cases f with
  | unavailable b m =>
    have hmessage : (ofStorage entity (.unavailable b m)).message
        = "Storage unavailable while querying '" ++ entity ++ "': "
          ++ StorageError.message (.unavailable b m) := rfl
    rw [hmessage]
    exact names_parts ..
  | query b m =>
    have hmessage : (ofStorage entity (.query b m)).message
        = "Query on '" ++ entity ++ "' failed: " ++ StorageError.message (.query b m) := rfl
    rw [hmessage]
    exact names_parts ..

/-- A failure of the storage is reported with its status, its code and its message. -/
theorem reportsFailure_ofStorage (e : Entity) (f : StorageError) :
    ReportsFailure e f (SearchError.execution (.ofStorage e.name f)).response := by
  obtain ⟨hentity, hfailure⟩ := ExecutionError.names_message e.name f
  cases f with
  | unavailable b m => exact .intro .unavailable rfl rfl rfl hentity hfailure
  | query b m => exact .intro .query rfl rfl rfl hentity hfailure

/-- What is shown of a row: all of it but the hidden columns, in the same order. A row that is no
object has no columns, and is shown as it is. -/
structure Stripped (e : Entity) (row shown : Json) : Prop where
  hidden : ∀ c ∈ e.hidden, shown.field? c = none
  kept : ∀ c, c ∉ e.hidden → shown.field? c = row.field? c
  object : ∀ fields, row = .object fields → ∃ left, shown = .object left ∧ left.Sublist fields
  other : (∀ fields, row ≠ .object fields) → shown = row

/-- The projection of an entity shows a row stripped, whatever the row is. -/
theorem stripped_project (e : Entity) (row : Json) : Stripped e row (e.project row) := by
  cases row with
  | object fields =>
    have hlookup (c : String) : (e.project (.object fields)).field? c
        = if !e.hidden.contains c then fields.lookup c else none :=
      Json.lookup_filter (fun n => !e.hidden.contains n) fields c
    constructor
    case hidden =>
      intro c hc
      rw [hlookup, FieldSet.contains_iff.mpr hc]
      rfl
    case kept =>
      intro c hc
      rw [hlookup, Bool.eq_false_iff.mpr (fun h => hc (FieldSet.contains_iff.mp h))]
      rfl
    case object =>
      rintro _ ⟨⟩
      exact ⟨_, rfl, List.filter_sublist⟩
    case other =>
      intro hno
      exact absurd rfl (hno fields)
  | _ => exact ⟨fun _ _ => rfl, fun _ _ => rfl, nofun, fun _ => rfl⟩

inductive ShowsRows (e : Entity) (rows : List Json) (response : Response) : Prop where
  | intro {body : Json} {shown : List Json} (hstatus : response.status = 200)
      (hbody : response.body = .json body) (hdata : body.field? "data" = some (.array shown))
      (hrows : Forall₂ (Stripped e) rows shown)

/-- A page shows the rows stripped of hidden fields, in their order. -/
theorem showsRows_new (e : Entity) (rows : List Json) (total : Nat) (r : PageRequest) :
    ShowsRows e rows (Page.new (rows.map e.project) total r).response := by
  refine .intro rfl rfl rfl ?_
  apply List.forall₂_map_right_iff.mpr
  exact List.forall₂_same.mpr fun row _ => stripped_project e row

namespace Backend

/-- The backend counts in words of 64 bits, and gives no more rows than were asked for and no more
than there are. -/
structure FitsWords (b : Backend) (q : Query) (w : Window) : Prop where
  count : ∀ total, b.count q = .ok total → total ≤ maxCount
  fetch : ∀ total rows, b.count q = .ok total → b.fetch q w = .ok rows →
    rows.length ≤ min w.limit (total - w.offset)

/-- Within the words, checked arithmetic changes nothing about an execution. -/
theorem FitsWords.execute?_eq {b : Backend} {p : Plan} {e : Entity} {r : PageRequest}
    (h : b.FitsWords (.resolve e p) r.window) : b.execute? p e r = some (b.execute p e r) :=
  execute?_eq_execute h.count fun total rows hcount hfetch =>
    (h.fetch total rows hcount hfetch).trans (Nat.min_le_right ..)

/-- The backends answer a call in the same way. -/
def SameOn (b b' : Backend) (q : Query) : Call → Prop
  | .count => b.count q = b'.count q
  | .fetch w => b.fetch q w = b'.fetch q w

/-- The calls of a search: the rows are counted once, and if there are any behind the offset they
are fetched once, as many of them as a page has. -/
structure Calls (b : Backend) (p : Plan) (e : Entity) (r : PageRequest) (calls : List Call) :
    Prop where
  count_once : calls.count .count = 1
  fetch_iff : (∃ w, .fetch w ∈ calls)
    ↔ ∃ total, b.count (.resolve e p) = .ok total ∧ r.offset < total
  fetch_once : ∀ w, .fetch w ∈ calls →
    w = ⟨r.offset, max r.perPage 1⟩ ∧ calls.count (.fetch w) = 1

/-- How a search over a backend is answered, whatever the backend does: with the status of the
failure of a call, a message about it, and no rows; or, if no call failed, with the rows that were
fetched. -/
structure Answers (b : Backend) (p : Plan) (e : Entity) (r : PageRequest) (x : Execution) :
    Prop where
  made : b.Calls p e r x.calls
  unavailable_iff : x.response.status = 503 ↔ ∃ name message, ∃ c ∈ x.calls,
    b.failure? (.resolve e p) c = some (.unavailable name message)
  query_iff : x.response.status = 500 ↔ ∃ name message, ∃ c ∈ x.calls,
    b.failure? (.resolve e p) c = some (.query name message)
  failure : ∀ c ∈ x.calls, ∀ f, b.failure? (.resolve e p) c = some f →
    ReportsFailure e f x.response
  success : (∀ c ∈ x.calls, b.failure? (.resolve e p) c = none) →
    ∃ total rows, b.count (.resolve e p) = .ok total
      ∧ (if r.offset < total then b.fetch (.resolve e p) r.window = .ok rows else rows = [])
      ∧ ShowsRows e rows x.response
  /-- No other call was made: what the backend would have answered makes no difference. -/
  complete : ∀ b' : Backend, b'.name = b.name →
    (∀ c ∈ x.calls, b'.SameOn b (.resolve e p) c) → b'.execute p e r = x

variable {b : Backend} {p : Plan} {e : Entity} {r : PageRequest} {f : StorageError}

/-- An unavailable storage and a failed query have a status each. -/
theorem status_ofStorage (entity : String) (f : StorageError) :
    ((SearchError.execution (.ofStorage entity f)).response.status = 503
        ↔ ∃ name message, f = .unavailable name message)
      ∧ ((SearchError.execution (.ofStorage entity f)).response.status = 500
        ↔ ∃ name message, f = .query name message) := by
  cases f <;>
    simp [SearchError.response, SearchError.status, ExecutionError.ofStorage, ExecutionError.status]

/-- An execution is the same over every backend that answers its calls in the same way. -/
theorem Course.complete {x : Execution} (h : b.Course p e r x) {b' : Backend}
    (hname : b'.name = b.name) (hsame : ∀ c ∈ x.calls, b'.SameOn b (.resolve e p) c) :
    b'.execute p e r = x := by
  cases h with
  | uncounted hcount =>
    have hcount' := (hsame .count (by simp [failed])).trans hcount
    rw [execute_of_count_error hcount', failed, failed, hname]
  | pastEnd hcount hpast =>
    have hcount' := (hsame .count (by simp [finished])).trans hcount
    rw [execute_of_past_end hcount' hpast, finished, finished, hname]
  | unfetched hcount hwithin hfetch =>
    have hcount' := (hsame .count (by simp [failed])).trans hcount
    have hfetch' := (hsame (.fetch r.window) (by simp [failed])).trans hfetch
    rw [execute_of_fetch_error hcount' hwithin hfetch', failed, failed, hname]
  | fetched hcount hwithin hfetch =>
    have hcount' := (hsame .count (by simp [finished])).trans hcount
    have hfetch' := (hsame (.fetch r.window) (by simp [finished])).trans hfetch
    rw [execute_of_fetch hcount' hwithin hfetch', finished, finished, hname]

/-- A course that ends in a failure answers for exactly the call that failed. -/
theorem Course.answers_of_failure {x : Execution} (h : b.Course p e r x)
    (hcalls : b.Calls p e r x.calls) (hresult : x.result = .error (.ofStorage e.name f)) {c : Call}
    (hc : c ∈ x.calls) (hfails : b.failure? (.resolve e p) c = some f)
    (honly : ∀ c' ∈ x.calls, c' ≠ c → b.failure? (.resolve e p) c' = none) :
    b.Answers p e r x := by
  have hresponse : x.response = (SearchError.execution (.ofStorage e.name f)).response := by
    rw [Execution.response, hresult]
  -- Only the call that failed can have given the failure that is reported.
  have hiff (g : StorageError) :
      f = g ↔ ∃ c' ∈ x.calls, b.failure? (.resolve e p) c' = some g := by
    constructor
    · rintro rfl
      exact ⟨c, hc, hfails⟩
    · rintro ⟨c', hc', hg⟩
      by_cases hsame : c' = c
      · subst hsame
        exact Option.some.inj (hfails.symm.trans hg)
      · rw [honly c' hc' hsame] at hg
        cases hg
  obtain ⟨hunavailable, hquery⟩ := hresponse ▸ status_ofStorage e.name f
  refine ⟨hcalls, ?_, ?_, fun c' hc' g hg => ?_, fun hnone => ?_, fun _ => h.complete⟩
  · exact hunavailable.trans (exists₂_congr fun name message => hiff (.unavailable name message))
  · exact hquery.trans (exists₂_congr fun name message => hiff (.query name message))
  · obtain rfl := (hiff g).mpr ⟨c', hc', hg⟩
    rw [hresponse]
    exact reportsFailure_ofStorage e f
  · rw [hnone c hc] at hfails
    cases hfails

/-- A course without a failure answers with what the calls gave. -/
theorem Course.answers_of_success {x : Execution} (h : b.Course p e r x) (total : Nat)
    (rows : List Json) (hcalls : b.Calls p e r x.calls)
    (hresult : x.result = .ok (Page.new (rows.map e.project) total r))
    (hnone : ∀ c ∈ x.calls, b.failure? (.resolve e p) c = none)
    (hcount : b.count (.resolve e p) = .ok total)
    (hrows : if r.offset < total then b.fetch (.resolve e p) r.window = .ok rows else rows = []) :
    b.Answers p e r x := by
  have hresponse : x.response = (Page.new (rows.map e.project) total r).response := by
    rw [Execution.response, hresult]
  have hnot : ∀ c ∈ x.calls, ∀ f, b.failure? (.resolve e p) c ≠ some f := by
    intro c hc f hf
    rw [hnone c hc] at hf
    cases hf
  have hok : x.response.status = 200 := by
    rw [hresponse]
    rfl
  refine ⟨hcalls, ?_, ?_, fun c hc f hf => absurd hf (hnot c hc f),
    fun _ => ⟨total, rows, hcount, hrows, hresponse ▸ showsRows_new e rows total r⟩,
    fun _ => h.complete⟩
  -- A success has neither of the two statuses, and no call has failed.
  · rw [hok]
    exact iff_of_false (by decide) fun ⟨_, _, c, hc, hf⟩ => hnot c hc _ hf
  · rw [hok]
    exact iff_of_false (by decide) fun ⟨_, _, c, hc, hf⟩ => hnot c hc _ hf

/-- Each of the four courses answers in one of these two ways. -/
theorem Course.answers {x : Execution} (h : b.Course p e r x) : b.Answers p e r x := by
  -- Two courses end in a failure, that of the last call, and two in a page.
  cases id h with
  | @uncounted f hcount =>
    apply h.answers_of_failure (c := .count) (f := f)
    · exact ⟨rfl, by simp [failed, hcount], by simp [failed]⟩
    · rfl
    · exact List.mem_cons_self
    · simp [failure?, hcount, errorOf?]
    · simp [failed]
  | @pastEnd total hcount hpast =>
    apply h.answers_of_success total []
    · exact ⟨rfl, by simp [finished, hcount, hpast], by simp [finished]⟩
    · rfl
    · simp [finished, failure?, hcount, errorOf?]
    · exact hcount
    · rw [if_neg (Nat.not_lt.mpr hpast)]
  | @unfetched total f hcount hwithin hfetch =>
    apply h.answers_of_failure (c := .fetch r.window) (f := f)
    · refine ⟨rfl, ?_, ?_⟩
      · simp [failed, hcount, hwithin]
      · simp [failed, PageRequest.window]
    · rfl
    · exact List.mem_cons_of_mem _ List.mem_cons_self
    · simp [failure?, hfetch, errorOf?]
    · simp [failed, failure?, hcount, errorOf?]
  | @fetched total rows hcount hwithin hfetch =>
    apply h.answers_of_success total rows
    · refine ⟨rfl, ?_, ?_⟩
      · simp [finished, hcount, hwithin]
      · simp [finished, PageRequest.window]
    · rfl
    · simp [finished, failure?, hcount, hfetch, errorOf?]
    · exact hcount
    · rwa [if_pos hwithin]

end Backend

/-! ## Requests -/

namespace Service

/-- The request is rejected: its query, the body, the entity it names or what the document says. -/
inductive Rejects (s : Service) (r : Request) : Prop where
  | query {x : SearchError} (h : paramsOf r = .error x)
  | body {x : SearchError} (hmethod : r.method = .post) (h : documentOf r.body = .error x)
  | entity {segment plural : String}
      (hroute : Route.ofPath (s.customs.map Prod.fst) r.path = some (.list segment)
        ∨ Route.ofPath (s.customs.map Prod.fst) r.path = some (.search segment))
      (hsegment : Text.percentDecoded segment = .ok plural) (h : s.registry.find? plural = none)
  | document {segment plural : String} {e : Entity} {d : Document} {c : CompileError}
      (hroute : Route.ofPath (s.customs.map Prod.fst) r.path = some (.search segment))
      (hsegment : Text.percentDecoded segment = .ok plural)
      (hentity : s.registry.find? plural = some e) (hdocument : documentOf r.body = .ok d)
      (h : e.compile d = .error c)

variable {s : Service} {r : Request} {e : Entity} {p : Plan}

theorem not_executes_of_rejects (h : s.Rejects r) : ¬ s.Executes r e p := by
  intro hexecutes
  cases h with
  | query h => cases hexecutes <;> simp_all
  | body hmethod h => cases hexecutes <;> simp_all
  | entity hroute hsegment h => cases hexecutes <;> simp_all
  | document hroute hsegment hentity hdocument h => cases hexecutes <;> simp_all

/-- A document that compiles is executed, and the reply is that of the execution. -/
theorem run_of_compile {plural : String} {d : Document} (params : SearchParams) (path : String)
    (hentity : s.registry.find? plural = some e) (hplan : e.compile d = .ok p) :
    ∃ events, s.run plural d params path
      = ⟨(s.backend.execute p e (s.pageRequest params path)).response,
        (s.backend.execute p e (s.pageRequest params path)).calls, events⟩ := by
  unfold run
  rw [hentity]
  simp only [hplan]
  exact ⟨_, rfl⟩

/-- A request that is executed is answered by one execution, without its body if only the head is
asked for. -/
theorem exists_execution_of_executes (h : s.Executes r e p) :
    ∃ params x events, paramsOf r = .ok params
      ∧ x = s.backend.execute p e (s.pageRequest params r.path)
      ∧ s.answer r = if r.method = .head then withoutBody ⟨x.response, x.calls, events⟩
        else ⟨x.response, x.calls, events⟩ := by
  obtain ⟨plural, d, params, hparams, hentity, hplan, -, hanswer⟩ := exists_reply_of_executes h
  obtain ⟨events, hrun⟩ := run_of_compile params r.path hentity hplan
  exact ⟨params, _, events, hparams, rfl, hrun ▸ hanswer⟩

end Service

/-! ### A connection that is lost between two calls -/

namespace Sample

/-- A backend that counts two rows and loses its connection when they are fetched. -/
def flaky : Backend :=
  ⟨"remote", fun _ => .ok 2, fun _ _ => .error (.unavailable "remote" "connection lost")⟩

def outpost : Service := ⟨flaky, .ofList [user], directory.pagination, none, []⟩

def usersListed : Request := ⟨.get, "/users", []⟩

theorem paramsOf_usersListed : Service.paramsOf usersListed = .ok SearchParams.none := by
  have htarget : usersListed.target = "/" ++ "users" := rfl
  obtain ⟨-, hquery⟩ := Request.path_of_plain htarget (List.all_iff_forall_prop.mp (by decide))
  rw [Service.paramsOf, hquery, SearchParams.ofQuery_none]
  rfl

theorem executes_usersListed : outpost.Executes usersListed user Plan.empty :=
  .list (.inl rfl) (by decide +kernel) writesSegment_users.decoded paramsOf_usersListed
    (by decide +kernel) rfl

end Sample

end Sift
