import Sift.Json.Basic
import Sift.Page.Links
import Sift.Query

/-!
# Pages

A page of a result: its rows, where it stands among the pages, and the addresses of the others.
Page numbers and sizes are at least one; an offset that does not fit 64 bits is the largest that
does.

Main statements: `PageRequest.offset_le`, `Page.total_le_of_lastPage` and `Page.lt_lastPageOf_iff`.
-/

namespace Sift

def maxCount : Nat := UInt64.size - 1

/-- The page parameters of a request, as far as it has them. -/
structure SearchParams where
  page : Option Nat
  perPage : Option Nat
  deriving DecidableEq

namespace SearchParams

def pageNumber (p : SearchParams) : Nat := max (p.page.getD 1) 1

/-- The page size asked for, or the default, between one and the limit. -/
def pageSize (p : SearchParams) (default limit : Nat) : Nat :=
  max 1 (min (p.perPage.getD default) (max limit 1))

end SearchParams

/-- Which page to make, and the address its links start from. -/
structure PageRequest where
  page : Nat
  perPage : Nat
  path : String
  deriving DecidableEq

namespace PageRequest

/-- A request with its page and its size at least one. -/
def new (page perPage : Nat) (path : String) : PageRequest := ⟨max page 1, max perPage 1, path⟩

def offset (r : PageRequest) : Nat := min ((max r.page 1 - 1) * max r.perPage 1) maxCount

def window (r : PageRequest) : Window := ⟨r.offset, max r.perPage 1⟩

/-- The offset fits the word that holds it, however large the page number is. -/
theorem offset_le (r : PageRequest) : r.offset ≤ maxCount := Nat.min_le_right ..

end PageRequest

structure Page where
  data : List Json
  currentPage : Nat
  firstPageUrl : String
  from? : Option Nat
  lastPage : Nat
  lastPageUrl : String
  links : List Page.Link
  nextPageUrl : Option String
  path : String
  perPage : Nat
  prevPageUrl : Option String
  to? : Option Nat
  total : Nat

namespace Page

/-- How many pages of a size it takes, at least one. -/
def lastPageOf (total perPage : Nat) : Nat := max ((total + perPage - 1) / perPage) 1

/-- The page of a request, from its rows and the number of all matching rows. -/
def new (data : List Json) (total : Nat) (r : PageRequest) : Page :=
  let current := max r.page 1
  let perPage := max r.perPage 1
  let last := lastPageOf total perPage
  let previous := if 1 < current then some (url r.path (current - 1)) else none
  let next := if current < last then some (url r.path (current + 1)) else none
  { data
    currentPage := current
    firstPageUrl := url r.path 1
    from? := if data.isEmpty then none else some (r.offset + 1)
    lastPage := last
    lastPageUrl := url r.path last
    links := linkRow r.path current last previous next
    nextPageUrl := next
    path := r.path
    perPage
    prevPageUrl := previous
    to? := if data.isEmpty then none else some (r.offset + data.length)
    total }

/-- The pages hold all rows. -/
theorem total_le_of_lastPage (total : Nat) {perPage : Nat} (h : 0 < perPage) :
    total ≤ lastPageOf total perPage * perPage := by
  have hd := Nat.div_add_mod (total + perPage - 1) perPage
  have hm := Nat.mod_lt (total + perPage - 1) h
  have hle : (total + perPage - 1) / perPage * perPage ≤ lastPageOf total perPage * perPage :=
    Nat.mul_le_mul_right _ (Nat.le_max_left ..)
  have hc : (total + perPage - 1) / perPage * perPage
      = perPage * ((total + perPage - 1) / perPage) := Nat.mul_comm ..
  omega

/-- A page has a next one exactly if rows are left after it. -/
theorem lt_lastPageOf_iff {total perPage n : Nat} (h : 1 ≤ perPage) (hn : 1 ≤ n) :
    n < lastPageOf total perPage ↔ n * perPage < total := by
  have hquotient : n < lastPageOf total perPage ↔ n + 1 ≤ (total + perPage - 1) / perPage := by
    unfold lastPageOf
    omega
  have hstep : (n + 1) * perPage = n * perPage + perPage := Nat.succ_mul ..
  rw [hquotient, Nat.le_div_iff_mul_le h, hstep]
  omega

/-- There are no more pages than rows, apart from the page without rows. -/
theorem lastPageOf_le {total perPage : Nat} (h : 1 ≤ perPage) :
    lastPageOf total perPage ≤ max total 1 := by
  apply Nat.le_of_not_lt
  intro hlt
  have hrows := (lt_lastPageOf_iff h (Nat.le_max_right total 1)).mp hlt
  have hle : max total 1 ≤ max total 1 * perPage := Nat.le_mul_of_pos_right _ h
  omega

/-! ### The page as JSON -/

def count (n : Nat) : Json := .number (.integer n)

def optional {α : Type} (f : α → Json) : Option α → Json
  | some a => f a
  | none => .null

def Link.toJson (l : Link) : Json :=
  .object [("url", optional .string l.url), ("label", .string l.label), ("active", .bool l.active)]

/-- The fields of a page, in the order in which an answer holds them. -/
def fields (p : Page) : Fields :=
  [("data", .array p.data), ("current_page", count p.currentPage),
    ("first_page_url", .string p.firstPageUrl), ("from", optional count p.from?),
    ("last_page", count p.lastPage), ("last_page_url", .string p.lastPageUrl),
    ("links", .array (p.links.map Link.toJson)), ("next_page_url", optional .string p.nextPageUrl),
    ("path", .string p.path), ("per_page", count p.perPage),
    ("prev_page_url", optional .string p.prevPageUrl), ("to", optional count p.to?),
    ("total", count p.total)]

def toJson (p : Page) : Json := .object p.fields

end Page

end Sift
