import Sift.Search

/-!
# Pages in words of 64 bits

The numbers of a page are counts, and a machine keeps counts in words of 64 bits. Here a page is
worked out once more, in checked arithmetic: a sum that does not fit a word is no result, and
neither is a difference below zero or a division by zero. Only the product of an offset is cut off
at the largest word, as it is for every page. Sums and differences of constants are left as they
are.

Where the checked computation has a result, it is the page itself. It has one whenever the total
fits a word and the rows of the page end within it (`new?_eq_new`), and a backend sees to that if it
gives no more rows than there are behind the offset (`execute?_eq_execute`).

Main statements: `slots?_eq_slots`, `new?_eq_new` and `execute?_eq_execute`.
-/

namespace Sift

/-! ## Checked arithmetic -/

namespace Word

def plus? (a b : Nat) : Option Nat := if a + b ≤ maxCount then some (a + b) else none

def minus? (a b : Nat) : Option Nat := if b ≤ a then some (a - b) else none

def quotientUp? (a b : Nat) : Option Nat :=
  if b = 0 then none
  else if a % b = 0 then some (a / b)
  else plus? (a / b) 1

/-- A sum that fits the word is the sum. -/
theorem plus?_eq_some {a b : Nat} (h : a + b ≤ maxCount) : plus? a b = some (a + b) := if_pos h

theorem minus?_eq_some {a b : Nat} (h : b ≤ a) : minus? a b = some (a - b) := if_pos h

/-- Rounding up fits a word if the dividend does. -/
theorem quotientUp?_eq_some {a b : Nat} (hb : 0 < b) (ha : a ≤ maxCount) :
    quotientUp? a b = some ((a + b - 1) / b) := by
  have hdivide : b * (a / b) + a % b = a := Nat.div_add_mod a b
  have hmod : a % b < b := Nat.mod_lt a hb
  unfold quotientUp?
  rw [if_neg (Nat.ne_of_gt hb)]
  split
  · next hzero =>
    have hsum : a + b - 1 = b * (a / b) + (b - 1) := by omega
    have hrest : (b - 1) / b = 0 := Nat.div_eq_of_lt (Nat.sub_one_lt_of_lt hb)
    rw [hsum, Nat.mul_add_div hb, hrest, Nat.add_zero]
  · next hpos =>
    -- Something is left of the dividend, so the quotient lies below it and one more still fits.
    have hle : a / b ≤ b * (a / b) := Nat.le_mul_of_pos_left _ hb
    have hsum : a + b - 1 = b * (a / b + 1) + (a % b - 1) := by
      rw [Nat.mul_add]
      omega
    have hrest : (a % b - 1) / b = 0 := Nat.div_eq_of_lt (by omega)
    have hfits : a / b + 1 ≤ maxCount := by omega
    rw [plus?_eq_some hfits, hsum, Nat.mul_add_div hb, hrest, Nat.add_zero]

end Word

open Word

/-! ## Pages -/

namespace Page

def slots? (current last : Nat) : Option (List Slot) :=
  if last < 2 * onEachSide + 8 then
    some (pages 1 last)
  else do
    let finish := pages (← minus? last 1) last
    if current ≤ clinging then
      return pages 1 (clinging + onEachSide) ++ none :: finish
    else
      let brink ← minus? last clinging
      if brink < current then
        return pages 1 2 ++ none :: pages (← minus? last (clinging + onEachSide - 1)) last
      else
        let before ← minus? current onEachSide
        let after ← plus? current onEachSide
        return pages 1 2 ++ none :: pages before after ++ none :: finish

/-- No step of the layout leaves the word, not even near its end. -/
theorem slots?_eq_slots {current last : Nat} (hlast : last ≤ maxCount) :
    slots? current last = some (slots current last) := by
  unfold slots? slots
  split
  · rfl
  · next hmany =>
    have hmany : 14 ≤ last := by simpa [onEachSide] using hmany
    have hclinging : clinging = 7 := rfl
    have hside : onEachSide = 3 := rfl
    -- Each subtraction is made where the tests before it keep it from going below zero.
    rw [minus?_eq_some (show 1 ≤ last by omega)]
    show (if current ≤ clinging then _ else _) = _
    split
    · rfl
    · next hstart =>
      rw [minus?_eq_some (show clinging ≤ last by omega)]
      show (if last - clinging < current then _ else _) = _
      split
      · rw [minus?_eq_some (show clinging + onEachSide - 1 ≤ last by omega)]
        rfl
      · next hend =>
        -- The current page is away from both ends here, so there is room on either side.
        rw [minus?_eq_some (show onEachSide ≤ current by omega),
          plus?_eq_some (show current + onEachSide ≤ maxCount by omega)]
        rfl

end Page

/-- How many rows come before the page, in checked arithmetic. -/
def PageRequest.offset? (r : PageRequest) : Option Nat := do
  let before ← minus? (max r.page 1) 1
  return min (before * max r.perPage 1) maxCount

/-- The offset saturates where the product would leave the word. -/
theorem PageRequest.offset?_eq_offset (r : PageRequest) : r.offset? = some r.offset := by
  unfold offset?
  rw [minus?_eq_some (Nat.le_max_right ..)]
  rfl

namespace Page

/-- The places of the first and the last row of a page that has any. -/
def ends? (data : List Json) (offset : Nat) : Option (Option (Nat × Nat)) :=
  if data.isEmpty then some none
  else do
    let first ← plus? offset 1
    let last ← plus? offset data.length
    return some (first, last)

def previousUrl? (path : String) (current : Nat) : Option (Option String) :=
  if 1 < current then do
    let previous ← minus? current 1
    return some (url path previous)
  else some none

def nextUrl? (path : String) (current last : Nat) : Option (Option String) :=
  if current < last then do
    let next ← plus? current 1
    return some (url path next)
  else some none

/-- The page of a request, in checked arithmetic. -/
def new? (data : List Json) (total : Nat) (r : PageRequest) : Option Page := do
  let current := max r.page 1
  let perPage := max r.perPage 1
  let last := max (← quotientUp? total perPage) 1
  let offset ← r.offset?
  let ends ← ends? data offset
  let previous ← previousUrl? r.path current
  let next ← nextUrl? r.path current last
  let places ← slots? current last
  return {
    data
    currentPage := current
    firstPageUrl := url r.path 1
    from? := ends.map (·.1)
    lastPage := last
    lastPageUrl := url r.path last
    links := ⟨previous, "&laquo; Previous", false⟩ :: places.map (slotLink r.path current)
      ++ [⟨next, "Next &raquo;", false⟩]
    nextPageUrl := next
    path := r.path
    perPage
    prevPageUrl := previous
    to? := ends.map (·.2)
    total }

/-- The rows of a page are numbered within the word if the last of them is. -/
theorem ends?_eq_some {data : List Json} {offset : Nat}
    (hdata : data = [] ∨ offset + data.length ≤ maxCount) : ends? data offset
      = some (if data.isEmpty then none else some (offset + 1, offset + data.length)) := by
  cases data with
  | nil => rfl
  | cons row rows =>
    have hlast : offset + (row :: rows).length ≤ maxCount := hdata.resolve_left nofun
    have hfirst : offset + 1 ≤ maxCount := by
      rw [List.length_cons] at hlast
      omega
    show (plus? offset 1).bind (fun first =>
      (plus? offset (row :: rows).length).bind fun last => _) = _
    rw [plus?_eq_some hfirst, plus?_eq_some hlast]
    rfl

theorem previousUrl?_eq_some (path : String) (current : Nat) : previousUrl? path current
    = some (if 1 < current then some (url path (current - 1)) else none) := by
  unfold previousUrl?
  split
  · next h =>
    rw [minus?_eq_some (Nat.le_of_lt h)]
    rfl
  · rfl

/-- There is a page after the current one only below the last, so its number fits. -/
theorem nextUrl?_eq_some {path : String} {current last : Nat} (hlast : last ≤ maxCount) :
    nextUrl? path current last
      = some (if current < last then some (url path (current + 1)) else none) := by
  unfold nextUrl?
  split
  · next h =>
    rw [plus?_eq_some (show current + 1 ≤ maxCount by omega)]
    rfl
  · rfl

/-- A page whose total and whose last place fit a word is worked out without leaving the words. -/
theorem new?_eq_new {data : List Json} {total : Nat} {r : PageRequest} (htotal : total ≤ maxCount)
    (hdata : data = [] ∨ r.offset + data.length ≤ maxCount) :
    new? data total r = some (new data total r) := by
  have hsize : 1 ≤ max r.perPage 1 := Nat.le_max_right ..
  -- There are no more pages than rows, or one page if there is no row.
  have hlast : lastPageOf total (max r.perPage 1) ≤ maxCount := by
    have hone : 1 ≤ maxCount := by decide
    have hbound : lastPageOf total (max r.perPage 1) ≤ max total 1 := lastPageOf_le hsize
    omega
  show (quotientUp? total (max r.perPage 1)).bind _ = _
  rw [quotientUp?_eq_some hsize htotal]
  show r.offset?.bind _ = _
  rw [r.offset?_eq_offset]
  show (ends? data r.offset).bind _ = _
  rw [ends?_eq_some hdata]
  show (previousUrl? r.path (max r.page 1)).bind _ = _
  rw [previousUrl?_eq_some]
  show (nextUrl? r.path (max r.page 1) (lastPageOf total (max r.perPage 1))).bind _ = _
  rw [nextUrl?_eq_some hlast]
  show (slots? (max r.page 1) (lastPageOf total (max r.perPage 1))).bind _ = _
  rw [slots?_eq_slots hlast]
  cases data <;> rfl

end Page

/-! ## Searches -/

namespace Backend

/-- How an execution ends with the rows of the page, in checked arithmetic. -/
def finished? (b : Backend) (e : Entity) (r : PageRequest) (calls : List Call) (total : Nat)
    (rows : List Json) : Option Execution := do
  let page ← Page.new? (rows.map e.project) total r
  return ⟨.ok page, calls, [.executed e.name b.name r.page r.perPage total rows.length]⟩

/-- Executes a plan for an entity and makes the page of a request, in checked arithmetic. -/
def execute? (b : Backend) (p : Plan) (e : Entity) (r : PageRequest) : Option Execution :=
  let q := Query.resolve e p
  match b.count q with
  | .error s => some (b.failed e [.count] s)
  | .ok total => do
    let window : Window := ⟨← r.offset?, max r.perPage 1⟩
    if total ≤ window.offset then
      b.finished? e r [.count] total []
    else
      let calls := [.count, .fetch window]
      match b.fetch q window with
      | .error s => some (b.failed e calls s)
      | .ok rows => b.finished? e r calls total rows

variable {b : Backend} {p : Plan} {e : Entity} {r : PageRequest}

/-- Checked arithmetic makes the same page wherever the count and the rows fit the word. -/
theorem finished?_eq_finished {calls : List Call} {total : Nat} {rows : List Json}
    (htotal : total ≤ maxCount) (hrows : rows = [] ∨ r.offset + rows.length ≤ maxCount) :
    b.finished? e r calls total rows = some (b.finished e r calls total rows) := by
  have hdata : rows.map e.project = [] ∨ r.offset + (rows.map e.project).length ≤ maxCount := by
    rwa [List.map_eq_nil_iff, List.length_map]
  unfold finished?
  rw [Page.new?_eq_new htotal hdata]
  rfl

/-- A search of a backend whose counts fit a word, and that never gives more rows than there are
behind the offset, is executed without leaving the words. -/
theorem execute?_eq_execute
    (hcount : ∀ total, b.count (.resolve e p) = .ok total → total ≤ maxCount)
    (hfetch : ∀ total rows, b.count (.resolve e p) = .ok total →
      b.fetch (.resolve e p) r.window = .ok rows → rows.length ≤ total - r.offset) :
    b.execute? p e r = some (b.execute p e r) := by
  have hoffset := r.offset?_eq_offset
  have hwindow : (⟨r.offset, max r.perPage 1⟩ : Window) = r.window := rfl
  cases hc : b.count (.resolve e p) with
  | error s =>
    rw [execute_of_count_error hc]
    simp only [execute?, hc]
  | ok total =>
    have htotal := hcount total hc
    simp only [execute?, hc, hoffset, Option.bind_eq_bind, Option.bind_some, hwindow]
    rcases Nat.lt_or_ge r.offset total with hwithin | hpast
    · rw [if_neg (Nat.not_le.mpr hwithin)]
      cases hf : b.fetch (.resolve e p) r.window with
      | error s => rw [execute_of_fetch_error hc hwithin hf]
      | ok rows =>
        have hlength := hfetch total rows hc hf
        -- The rows of the page are among those that were counted.
        have hend : r.offset + rows.length ≤ maxCount := by omega
        rw [execute_of_fetch hc hwithin hf]
        exact finished?_eq_finished htotal (.inr hend)
    · rw [if_pos hpast, execute_of_past_end hc hpast]
      exact finished?_eq_finished htotal (.inl rfl)

end Backend

end Sift
