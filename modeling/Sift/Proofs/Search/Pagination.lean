import Sift.Proofs.Row.Sorting
import Sift.Search
import Sift.Storage.Store

/-!
# Pages of a store

A search of a store is a window on one list, its `listing`: the rows that the plan selects, sorted,
without hidden columns. How long that list is and which part of it a page shows is worked out in
three places (the count, the saturating offset, the slice that is fetched); `result_execute` says
that they agree, so that every page is a slice of the listing taken in exact arithmetic. From there
on paging is a fact about lists: as many slices as the last page says make up the list
(`flatMap_slices`), and later ones are empty (`slice_past_last`).

Main statement: `pages_tile_listing`.
-/

namespace Sift

/-! ## Slices of a list -/

/-- The part of a list that its page `n` shows, counted from one. -/
def pageSlice {α : Type} (perPage n : Nat) (l : List α) : List α :=
  (l.drop ((n - 1) * perPage)).take perPage

/-- A page is the part of the list between its two ends, the last page being cut short. -/
theorem pageSlice_eq_extract {α : Type} {perPage n : Nat} (hn : 1 ≤ n) (l : List α) :
    pageSlice perPage n l
      = l.extract ((n - 1) * perPage) (min (n * perPage) l.length) := by
  obtain ⟨m, rfl⟩ := Nat.exists_eq_add_of_le' hn
  have hstop : (m + 1) * perPage = m * perPage + perPage := Nat.succ_mul ..
  rw [List.extract_eq_take_drop, pageSlice, Nat.add_sub_cancel, hstop]
  generalize m * perPage = start
  rcases Nat.le_total (start + perPage) l.length with h | h
  · rw [Nat.min_eq_left h, Nat.add_sub_cancel_left]
  · -- The slice reaches the end of the list, so both sides take all that is left.
    rw [Nat.min_eq_right h, List.take_of_length_le, List.take_of_length_le]
    · simp
    · rw [List.length_drop]
      omega

/-- The slices of the first pages, one after the other, are the beginning of the list. -/
theorem flatMap_pageSlice {α : Type} (perPage count : Nat) (l : List α) :
    ((List.range' 1 count).flatMap fun n => pageSlice perPage n l) = l.take (count * perPage) := by
  induction count with
  | zero => simp
  | succ count ih =>
    rw [List.range'_1_concat, List.flatMap_append, ih, Nat.succ_mul, List.take_add]
    simp [pageSlice, Nat.add_comm 1 count]

/-- The slices up to the last page are the whole list. -/
theorem flatMap_slices {α : Type} {perPage : Nat} (hk : 1 ≤ perPage) (l : List α) :
    ((List.range' 1 (Page.lastPageOf l.length perPage)).flatMap fun n => pageSlice perPage n l)
      = l := by
  rw [flatMap_pageSlice]
  exact List.take_of_length_le (Page.total_le_of_lastPage l.length hk)

/-- Behind the last row, pages are empty. -/
theorem pageSlice_of_length_le {α : Type} {perPage n : Nat} {l : List α}
    (h : l.length ≤ (n - 1) * perPage) : pageSlice perPage n l = [] := by
  rw [pageSlice, List.drop_of_length_le h, List.take_nil]

/-- A slice past the last page is empty. -/
theorem slice_past_last {α : Type} {perPage n : Nat} (hk : 1 ≤ perPage) {l : List α}
    (hn : Page.lastPageOf l.length perPage < n) : pageSlice perPage n l = [] := by
  have htotal := Page.total_le_of_lastPage l.length hk
  have hmul : Page.lastPageOf l.length perPage * perPage ≤ (n - 1) * perPage :=
    Nat.mul_le_mul_right perPage (by omega)
  exact pageSlice_of_length_le (by omega)

/-! ## The listing of a search -/

namespace Store

/-- The rows that a plan selects from an entity's table, sorted. -/
def selection (s : Store) (e : Entity) (p : Plan) : List Json :=
  sortRows (Query.resolve e p).sort ((s.rows e.table).filter (Query.resolve e p).selects)

/-- All pages of a search in one: the selected rows, sorted, without the hidden columns. -/
def listing (s : Store) (e : Entity) (p : Plan) : List Json := (s.selection e p).map e.project

variable {s : Store} {e : Entity} {p : Plan}

theorem length_selection_le : (s.selection e p).length ≤ (s.rows e.table).length := by
  unfold selection
  rw [(sortRows_perm _ _).length_eq]
  exact List.length_filter_le ..

/-- Sorting does not change how many rows there are. -/
theorem length_listing : (s.listing e p).length = (s.selection e p).length := by
  simp [listing]

theorem count_resolve (hs : s.broken = false) (hp : p.largePattern? = none) :
    s.backend.count (.resolve e p) = .ok (s.selection e p).length := by
  show s.count (.resolve e p) = _
  rw [count_eq hs hp, selection, (sortRows_perm _ _).length_eq]
  rfl

/-- A store that works fetches a window of the listing. -/
theorem fetch_resolve (hs : s.broken = false) (hp : p.largePattern? = none) (w : Window) :
    s.backend.fetch (.resolve e p) w = .ok (((s.selection e p).drop w.offset).take w.limit) :=
  fetch_eq w hs hp

end Store

/-! ## Executing a search -/

/-- An offset below a count of 64 bits was not cut off. -/
theorem PageRequest.offset_eq_of_lt {r : PageRequest} {total : Nat} (ht : total < UInt64.size)
    (h : r.offset < total) : r.offset = (max r.page 1 - 1) * max r.perPage 1 := by
  unfold PageRequest.offset maxCount at *
  omega

/-- A count that the offset reaches is reached in exact arithmetic, too. -/
theorem PageRequest.le_of_le_offset {r : PageRequest} {total : Nat} (h : total ≤ r.offset) :
    total ≤ (max r.page 1 - 1) * max r.perPage 1 :=
  Nat.le_trans h (Nat.min_le_left ..)

/-- Whatever the page asked for, a search of an unbroken store shows the slice of its listing that
the page number and the page size, both at least one, say in exact arithmetic. -/
theorem result_execute {s : Store} {e : Entity} {p : Plan} (hs : s.broken = false)
    (hp : p.largePattern? = none) (hrows : (s.rows e.table).length < UInt64.size)
    (r : PageRequest) :
    (s.backend.execute p e r).result
      = .ok (Page.new (pageSlice (max r.perPage 1) (max r.page 1) (s.listing e p))
          (s.listing e p).length r) := by
  have hcount := Store.count_resolve (e := e) hs hp
  have htotal : (s.selection e p).length < UInt64.size :=
    Nat.lt_of_le_of_lt Store.length_selection_le hrows
  rw [Store.length_listing]
  rcases Nat.lt_or_ge r.offset (s.selection e p).length with h | h
  · rw [Backend.execute_of_fetch hcount h (Store.fetch_resolve hs hp r.window)]
    have hoffset := PageRequest.offset_eq_of_lt htotal h
    simp [Backend.finished, PageRequest.window, hoffset, pageSlice, Store.listing]
  · rw [Backend.execute_of_past_end hcount h]
    have hpast : (s.listing e p).length ≤ (max r.page 1 - 1) * max r.perPage 1 := by
      rw [Store.length_listing]
      exact PageRequest.le_of_le_offset h
    simp [Backend.finished, pageSlice_of_length_le hpast]

/-- A search of an unbroken store makes a page, and its total is the number of selected rows. -/
theorem Store.exists_page_total {s : Store} {e : Entity} {p : Plan} (hs : s.broken = false)
    (hp : p.largePattern? = none) (r : PageRequest) :
    ∃ page, (s.backend.execute p e r).result = .ok page
      ∧ page.total = (s.selection e p).length := by
  have hcount := count_resolve (e := e) hs hp
  rcases Nat.lt_or_ge r.offset (s.selection e p).length with h | h
  · rw [Backend.execute_of_fetch hcount h (fetch_resolve hs hp r.window)]
    exact ⟨_, rfl, rfl⟩
  · rw [Backend.execute_of_past_end hcount h]
    exact ⟨_, rfl, rfl⟩

/-- A store that works has a page for every request. -/
theorem Store.exists_page {s : Store} {e : Entity} {p : Plan} (hs : s.broken = false)
    (hp : p.largePattern? = none) (r : PageRequest) :
    ∃ page, (s.backend.execute p e r).result = .ok page :=
  (exists_page_total hs hp r).imp fun _ h => h.1

/-- **Paging neither loses nor repeats a row.** Let `sorted` be the stable sort, under the settled
sort keys, of the rows that a plan selects. Every page that is asked for is answered; its total is
the number of these rows, and its data are those from `(n - 1) * perPage` up to `n * perPage` or
the end, without hidden columns, where page zero stands for page one. The pages up to the last are
all rows, one after the other, and later pages are empty. -/
theorem pages_tile_listing {s : Store} {e : Entity} {p : Plan} (hs : s.broken = false)
    (hp : p.largePattern? = none) (hrows : (s.rows e.table).length < UInt64.size) :
    ∃ sorted, IsStableSort (compareRows (Query.resolve e p).sort)
        ((s.rows e.table).filter (Query.resolve e p).selects) sorted
      ∧ ∀ (perPage : Nat) (path : String), 1 ≤ perPage → ∃ (page : Nat → Page) (last : Nat),
        (∀ n, (s.backend.execute p e ⟨n, perPage, path⟩).result = .ok (page n)
          ∧ (page n).total = sorted.length ∧ (page n).lastPage = last
          ∧ (page n).data = (sorted.map e.project).extract ((max n 1 - 1) * perPage)
              (min (max n 1 * perPage) sorted.length))
        ∧ ((List.range' 1 last).flatMap fun n => (page n).data) = sorted.map e.project
        ∧ ∀ n, last < n → (page n).data = [] := by
  refine ⟨s.selection e p, isStableSort_iff.mpr rfl, ?_⟩
  intro perPage path hk
  have hmax : max perPage 1 = perPage := Nat.max_eq_left hk
  -- A page is a slice of the listing; the number zero stands for the first page.
  let page n := Page.new (pageSlice perPage (max n 1) (s.listing e p)) (s.listing e p).length
    ⟨n, perPage, path⟩
  refine ⟨page, Page.lastPageOf (s.listing e p).length perPage, ?_, ?_, ?_⟩
  · intro n
    have hresult := result_execute hs hp hrows ⟨n, perPage, path⟩
    have hdata : pageSlice perPage (max n 1) (s.listing e p) = _ :=
      pageSlice_eq_extract (Nat.le_max_right n 1) (s.listing e p)
    rw [Store.length_listing] at hdata
    refine ⟨?_, Store.length_listing, ?_, hdata⟩
    · simpa only [hmax] using hresult
    · simp [page, Page.new, hmax]
  · have hpages : ∀ n ∈ List.range' 1 (Page.lastPageOf (s.listing e p).length perPage),
        (page n).data = pageSlice perPage n (s.listing e p) := by
      intro n hn
      have hone : 1 ≤ n := (List.mem_range'_1.mp hn).1
      simp [page, Page.new, Nat.max_eq_left hone]
    rw [List.flatMap_congr hpages]
    exact flatMap_slices hk (s.listing e p)
  · intro n hn
    have hone : 1 ≤ n := by
      have : 1 ≤ Page.lastPageOf (s.listing e p).length perPage := Nat.le_max_right ..
      omega
    have hempty := slice_past_last hk hn
    simpa [page, Page.new, Nat.max_eq_left hone] using hempty

/-! ### Five rows, two to a page -/

namespace Sample

def users : Entity :=
  ((Entity.new "user" "users").withQueryable ["name", "age"]).withHidden ["password"]

def integer (i : Int) : Json := .number (.integer i)

def row (id : Json) (name : String) (age : Json) : Json :=
  .object [("id", id), ("name", .string name), ("age", age), ("password", .string "secret")]

/-- Four users with a key, two of them of one age and one of no age, and one without a key. -/
def store : Store :=
  Store.empty.insertRows "users"
    [row (integer 5) "Max" .null, row .null "Cal" (integer 40), row (integer 1) "Ann" (integer 30),
      row (integer 4) "Dana" (integer 30), row (integer 2) "" (integer 20)]

def plan : Plan :=
  { Plan.empty with
    predicates := [⟨"name", .like, .text "_%"⟩]
    sort := [⟨"age", .descending⟩] }

/-- The user of no age is the oldest, and of the two of one age the one with the smaller key comes
first; so the other is alone on the second page. -/
theorem second_page_of_users :
    store.broken = false ∧ plan.largePattern? = none
      ∧ (store.rows users.table).length < UInt64.size
      ∧ ∃ page, (store.backend.execute plan users ⟨2, 2, "/users"⟩).result = .ok page
        ∧ page.total = 3
        ∧ page.data.map (fun row => (row.field? "name").bind Json.scalarText?) = [some "Dana"]
        ∧ page.data.map (·.field? "password" |>.isNone) = [true] := by
  have hs : store.broken = false := rfl
  have hp : plan.largePattern? = none := by decide +kernel
  have hrows : (store.rows users.table).length < UInt64.size := by decide
  obtain ⟨sorted, hsorted, hpages⟩ := pages_tile_listing (e := users) hs hp hrows
  have hlist : sorted
      = (store.rows users.table).filter (Query.resolve users plan).selects := by
    rw [isStableSort_iff.mp hsorted]
    exact List.mergeSort_of_pairwise (by decide +kernel)
  obtain ⟨page, _, hpage, -⟩ := hpages 2 "/users" (by decide)
  obtain ⟨hresult, htotal, -, hdata⟩ := hpage 2
  rw [hlist] at htotal hdata
  refine ⟨hs, hp, hrows, page 2, hresult, ?_, ?_, ?_⟩
  · rw [htotal]
    decide +kernel
  · rw [hdata]
    decide +kernel
  · rw [hdata]
    decide +kernel

end Sample

end Sift
