import Sift.Proofs.Page.Words
import Sift.Proofs.Search.Pagination

/-!
# What a page says of itself

A page says how many rows there are, which page of how many it is, from which row to which it goes
and where its neighbours are. The offset of a page is cut off at the largest word, and the places of
its rows are counted from that offset; but a search shows rows only where the offset lies below the
total, and there it was not cut off. So all that a page says is true in exact arithmetic
(`isExact_new`).

A backend has to do its part: its count fits a word, and it gives no more rows than the slice has
room for and the total leaves behind the offset.

Main statement: `execute_isExact`.
-/

namespace Sift

/-- The number of the page that is asked for, where page zero stands for page one. -/
def PageRequest.number (r : PageRequest) : Nat := max r.page 1

def PageRequest.size (r : PageRequest) : Nat := max r.perPage 1

namespace Page

/-- What a page says of itself is true of the page that was asked for, out of `total` rows. -/
structure IsExact (page : Page) (r : PageRequest) (total : Nat) : Prop where
  currentPage_eq : page.currentPage = r.number
  perPage_eq : page.perPage = r.size
  total_eq : page.total = total
  path_eq : page.path = r.path
  lastPage_pos : 1 ≤ page.lastPage
  /-- One page less does not hold all rows, or no page would be left. -/
  lastPage_needed : (page.lastPage - 1) * r.size < max total 1
  lastPage_enough : max total 1 ≤ page.lastPage * r.size
  shown : page.data ≠ [] → r.number ≤ page.lastPage ∧ ∃ first last, page.from? = some first
    ∧ page.to? = some last ∧ first = (r.number - 1) * r.size + 1
    ∧ last = first + page.data.length - 1 ∧ last ≤ min total (r.number * r.size)
  empty : page.data = [] → page.from? = none ∧ page.to? = none
  previous : page.prevPageUrl = if 1 < r.number then some (url r.path (r.number - 1)) else none
  next : page.nextPageUrl
    = if r.number < page.lastPage then some (url r.path (r.number + 1)) else none

/-- The rows of all pages but the last are fewer than all rows. -/
theorem lastPageOf_needed {total perPage : Nat} (h : 1 ≤ perPage) :
    (lastPageOf total perPage - 1) * perPage < max total 1 := by
  have hpos : 1 ≤ lastPageOf total perPage := Nat.le_max_right ..
  rcases Nat.eq_or_lt_of_le hpos with hone | hmore
  · rw [← hone, Nat.sub_self, Nat.zero_mul]
    exact Nat.le_max_right ..
  · have hbefore : 1 ≤ lastPageOf total perPage - 1 := Nat.le_sub_one_of_lt hmore
    have hrows := (lt_lastPageOf_iff h hbefore).mp (Nat.sub_one_lt_of_lt hpos)
    exact Nat.lt_of_lt_of_le hrows (Nat.le_max_left ..)

/-- The pages up to the last have room for all rows, and for one row if there is none. -/
theorem lastPageOf_enough {total perPage : Nat} (h : 1 ≤ perPage) :
    max total 1 ≤ lastPageOf total perPage * perPage := by
  have hpos : 1 ≤ lastPageOf total perPage := Nat.le_max_right ..
  exact Nat.max_le.mpr ⟨total_le_of_lastPage total h, Nat.mul_pos hpos h⟩

/-- A page that has rows before it left over is not past the last one. -/
theorem le_lastPageOf {total perPage n : Nat} (h : 1 ≤ perPage)
    (hrows : (n - 1) * perPage < total) : n ≤ lastPageOf total perPage := by
  have hpos : 1 ≤ lastPageOf total perPage := Nat.le_max_right ..
  rcases Nat.lt_or_ge 1 n with hn | hn
  · have hlt := (lt_lastPageOf_iff h (Nat.le_sub_one_of_lt hn)).mpr hrows
    omega
  · exact Nat.le_trans hn hpos

/-- A page of rows from behind its offset, none of them past the total, is exact. -/
theorem isExact_new {data : List Json} {total : Nat} {r : PageRequest} (htotal : total ≤ maxCount)
    (hdata : data = [] ∨ r.offset < total ∧ data.length ≤ min r.size (total - r.offset)) :
    (new data total r).IsExact r total := by
  have hsize : 1 ≤ r.size := Nat.le_max_right ..
  refine ⟨rfl, rfl, rfl, rfl, Nat.le_max_right .., lastPageOf_needed hsize,
    lastPageOf_enough hsize, ?_, ?_, rfl, rfl⟩
  · intro hrows
    obtain ⟨hwithin, hlength⟩ := hdata.resolve_left hrows
    -- Below the total the offset was not cut off, so from here on all is exact.
    have hoffset : r.offset = (r.number - 1) * r.size :=
      PageRequest.offset_eq_of_lt (Nat.lt_succ_of_le htotal) hwithin
    have hend : r.number * r.size = (r.number - 1) * r.size + r.size := by
      obtain ⟨n, hn⟩ : ∃ n, r.number = n + 1 := Nat.exists_eq_add_of_le' (Nat.le_max_right ..)
      rw [hn, Nat.succ_mul, Nat.add_sub_cancel]
    have hdata : ¬ data.isEmpty := mt List.isEmpty_iff.mp hrows
    refine ⟨le_lastPageOf hsize (hoffset ▸ hwithin), r.offset + 1, r.offset + data.length, ?_, ?_,
      by rw [hoffset], ?_, ?_⟩
    · exact if_neg hdata
    · exact if_neg hdata
    · show r.offset + data.length = r.offset + 1 + data.length - 1
      omega
    · rw [hend, ← hoffset]
      omega
  · rintro rfl
    exact ⟨rfl, rfl⟩

end Page

/-- **What a page says of itself is exact, and no word overflows.** Over any backend whose count of
the rows fits a word, and which gives no more rows than the slice has room for and than there are
behind its offset, a search is executed without leaving the words of 64 bits, whatever page and page
size are asked for. It makes a page unless the backend fails to give the rows of one, and what that
page says is exact. -/
theorem execute_isExact {b : Backend} {p : Plan} {e : Entity} {r : PageRequest} {total : Nat}
    (hcount : b.count (.resolve e p) = .ok total) (htotal : total ≤ maxCount)
    (hfetch : ∀ rows, b.fetch (.resolve e p) r.window = .ok rows →
      rows.length ≤ min r.window.limit (total - r.window.offset)) :
    b.execute? p e r = some (b.execute p e r)
      ∧ ((∃ page, (b.execute p e r).result = .ok page)
        ↔ total ≤ r.offset ∨ ∃ rows, b.fetch (.resolve e p) r.window = .ok rows)
      ∧ ∀ page, (b.execute p e r).result = .ok page → page.IsExact r total := by
  have hrows : ∀ rows, b.fetch (.resolve e p) r.window = .ok rows →
      rows.length ≤ min r.size (total - r.offset) := hfetch
  refine ⟨?_, ?_⟩
  · apply Backend.execute?_eq_execute
    · intro total' hcount'
      rwa [← Except.ok.inj (hcount.symm.trans hcount')]
    · intro total' rows hcount' hfetch'
      rw [← Except.ok.inj (hcount.symm.trans hcount')]
      exact Nat.le_trans (hrows rows hfetch') (Nat.min_le_right ..)
  -- The rows are only asked for if the page begins before the last row.
  · rcases Nat.lt_or_ge r.offset total with hwithin | hpast
    · cases hf : b.fetch (.resolve e p) r.window with
      | error s =>
        rw [Backend.execute_of_fetch_error hcount hwithin hf]
        refine ⟨⟨nofun, ?_⟩, nofun⟩
        rintro (hpast | ⟨rows, hnone⟩)
        · exact absurd hpast (Nat.not_le.mpr hwithin)
        · cases hnone
      | ok rows =>
        rw [Backend.execute_of_fetch hcount hwithin hf]
        refine ⟨⟨fun _ => .inr ⟨rows, rfl⟩, fun _ => ⟨_, rfl⟩⟩, ?_⟩
        rintro page ⟨⟩
        apply Page.isExact_new htotal
        right
        rw [List.length_map]
        exact ⟨hwithin, hrows rows hf⟩
    · rw [Backend.execute_of_past_end hcount hpast]
      refine ⟨⟨fun _ => .inl hpast, fun _ => ⟨_, rfl⟩⟩, ?_⟩
      rintro page ⟨⟩
      exact Page.isExact_new htotal (.inl rfl)

/-! ### As many rows as a word can count -/

namespace Sample

def endless : Backend where
  name := "endless"
  count _ := .ok maxCount
  fetch _ w := .ok (List.replicate (min w.limit (maxCount - w.offset)) (row .null "Ann" .null))

/-- The last page of tens is half full, and it ends with the last row that has a number. -/
theorem last_page_of_endless :
    endless.count (.resolve users .empty) = .ok maxCount ∧ maxCount ≤ maxCount
      ∧ (∀ rows, endless.fetch (.resolve users .empty) ⟨18446744073709551610, 10⟩ = .ok rows →
        rows.length ≤ min 10 (maxCount - 18446744073709551610))
      ∧ ∃ page,
        (endless.execute .empty users ⟨1844674407370955162, 10, "/users"⟩).result = .ok page
        ∧ page.from? = some 18446744073709551611 ∧ page.to? = some maxCount
        ∧ page.nextPageUrl = none := by
  have hmax : maxCount ≤ maxCount := Nat.le_refl maxCount
  have hfetch : ∀ rows,
      endless.fetch (.resolve users .empty) ⟨18446744073709551610, 10⟩ = .ok rows →
      rows.length ≤ min 10 (maxCount - 18446744073709551610) := by
    rintro rows ⟨⟩
    exact Nat.le_of_eq List.length_replicate
  refine ⟨rfl, hmax, hfetch, ?_⟩
  obtain ⟨-, -, hexact⟩ := execute_isExact (b := endless) (p := .empty) (e := users)
    (r := ⟨1844674407370955162, 10, "/users"⟩) rfl hmax hfetch
  have hresult : (endless.execute .empty users ⟨1844674407370955162, 10, "/users"⟩).result
      = .ok (Page.new (List.replicate 5 (users.project (row .null "Ann" .null))) maxCount
          ⟨1844674407370955162, 10, "/users"⟩) := rfl
  have hpage := hexact _ hresult
  obtain ⟨-, first, last, hfirst, hlast, rfl, rfl, -⟩ := hpage.shown nofun
  exact ⟨_, hresult, hfirst, hlast, hpage.next.trans (if_neg (by decide))⟩

end Sample

end Sift
