import Sift.Proofs.Page.Words

/-!
# The row of links

A row of links reads like a table of contents. It goes from the first page to the last, and from
each page that it names on to the next one, unless it passes over two pages or more with a gap
(`Contents`). Runs of pages are of this kind, and so are two rows with a gap between them that is
large enough; `slots` puts every row together in this way, whatever the page that it is made for.

`ListsPages` says in full what a reader of a row can rely on. That a row is worked out without
leaving the words of 64 bits is part of the main statement.

Main statement: `slots_listsPages`.
-/

namespace Sift.Page

/-! ## Tables of contents -/

/-- The slots from one page to another. A gap stands for at least two pages. -/
inductive Contents : Nat → Nat → List Slot → Prop
  | last {n : Nat} : Contents n n [some n]
  | next {n m : Nat} {l : List Slot} (h : Contents (n + 1) m l) : Contents n m (some n :: l)
  | gap {n k m : Nat} {l : List Slot} (hk : n + 2 < k) (h : Contents k m l) :
      Contents n m (some n :: none :: l)

def named (row : List Slot) : List Nat := row.filterMap id

theorem mem_named_iff {row : List Slot} {n : Nat} : n ∈ named row ↔ some n ∈ row := by
  simp [named]

namespace Contents

variable {a b c d n : Nat} {l m : List Slot}

/-- Two rows are one with a gap between them, if the gap stands for two pages or more. -/
theorem cross (h : Contents a b l) (hgap : b + 2 < c) (h' : Contents c d m) :
    Contents a d (l ++ none :: m) := by
  -- The gap is at the end of the first row, so the induction goes along that row.
  induction h with
  | last => exact .gap hgap h'
  | next _ ih => exact .next (ih hgap)
  | gap hk _ ih => exact .gap hk (ih hgap)

theorem exists_eq_cons (h : Contents a b l) : ∃ rest, l = some a :: rest := by
  cases h <;> exact ⟨_, rfl⟩

theorem getLast?_eq (h : Contents a b l) : l.getLast? = some (some b) := by
  induction h with
  | last => rfl
  | next h ih =>
    obtain ⟨rest, rfl⟩ := h.exists_eq_cons
    exact ih
  | gap hk h ih =>
    obtain ⟨rest, rfl⟩ := h.exists_eq_cons
    exact ih

/-- No page before the first one is named. -/
theorem le_of_mem (h : Contents a b l) (hn : some n ∈ l) : a ≤ n := by
  induction h with
  | last => exact Nat.le_of_eq (Option.some.inj (List.mem_singleton.mp hn)).symm
  | next _ ih =>
    rcases List.mem_cons.mp hn with heq | hn
    · exact Nat.le_of_eq (Option.some.inj heq).symm
    · exact Nat.le_of_succ_le (ih hn)
  | gap hk _ ih =>
    rcases List.mem_cons.mp hn with heq | hn
    · exact Nat.le_of_eq (Option.some.inj heq).symm
    · have hle := ih ((List.mem_cons.mp hn).resolve_left nofun)
      omega

theorem not_mem_of_lt (h : Contents a b l) (hn : n < a) : some n ∉ l := by
  intro hmem
  exact Nat.not_le_of_lt hn (h.le_of_mem hmem)

/-- The pages are named in ascending order, each once. -/
theorem named_increasing (h : Contents a b l) : (named l).Pairwise (· < ·) := by
  induction h with
  | last => exact List.pairwise_singleton ..
  | next h ih =>
    refine List.pairwise_cons.mpr ⟨?_, ih⟩
    intro n hn
    exact h.le_of_mem (mem_named_iff.mp hn)
  | gap hk h ih =>
    refine List.pairwise_cons.mpr ⟨?_, ih⟩
    intro n hn
    have hle := h.le_of_mem (mem_named_iff.mp hn)
    omega

/-- The last page is the greatest. -/
theorem le_last (h : Contents a b l) (hn : some n ∈ l) : n ≤ b := by
  obtain ⟨front, rfl⟩ := List.getLast?_eq_some_iff.mp h.getLast?_eq
  have hincreasing := h.named_increasing
  rw [named, List.filterMap_append] at hincreasing
  rcases List.mem_append.mp hn with hn | hn
  · have hlt := (List.pairwise_append.mp hincreasing).2.2 n (mem_named_iff.mpr hn) b (.head _)
    exact Nat.le_of_lt hlt
  · exact Nat.le_of_eq (Option.some.inj (List.mem_singleton.mp hn))

/-- A row that begins with gaps does not have any there. -/
theorem start (h : Contents a b (List.replicate c none ++ some d :: l)) : c = 0 ∧ d = a := by
  obtain ⟨rest, hrest⟩ := h.exists_eq_cons
  cases c with
  | zero => exact ⟨rfl, Option.some.inj (List.cons.inj hrest).1⟩
  | succ c => cases (List.cons.inj hrest).1

/-- What stands between two pages that follow on each other in a row: nothing if they also do so in
the whole, and otherwise one gap that stands for two pages or more. -/
theorem between (h : Contents a b l) {before after : List Slot} {x y k : Nat}
    (hl : l = before ++ some x :: (List.replicate k none ++ some y :: after)) :
    if y = x + 1 then k = 0 else k = 1 ∧ x + 2 < y := by
  induction h generalizing before with
  | last =>
    have hlength := congrArg List.length hl
    simp at hlength
    omega
  | next h ih =>
    cases before with
    -- The first of the two pages is where the row begins; then the rest begins with the second.
    | nil =>
      obtain ⟨hx, rfl⟩ := List.cons.inj hl
      obtain ⟨rfl, rfl⟩ := h.start
      simp_all
    | cons s before => exact ih (List.cons.inj hl).2
  | gap hk h ih =>
    cases before with
    | nil =>
      obtain ⟨hx, hrest⟩ := List.cons.inj hl
      cases k with
      | zero => cases (List.cons.inj hrest).1
      | succ k =>
        obtain ⟨-, rfl⟩ := List.cons.inj hrest
        obtain ⟨rfl, rfl⟩ := h.start
        obtain rfl := Option.some.inj hx
        rw [if_neg (by omega)]
        exact ⟨rfl, hk⟩
    | cons s before =>
      obtain ⟨-, hrest⟩ := List.cons.inj hl
      cases before with
      | nil => cases (List.cons.inj hrest).1
      | cons t before => exact ih (List.cons.inj hrest).2

/-- A row names a page once or not at all. -/
theorem filter_eq (h : Contents a b l) (n : Nat) :
    l.filter (· == some n) = if some n ∈ l then [some n] else [] := by
  induction h with
  | @last a =>
    by_cases heq : a = n
    · simp [heq]
    · simp [heq, Ne.symm heq]
  | @next a m l h ih =>
    by_cases heq : a = n
    -- The page is at the front, and all that comes later is larger.
    · have hnot : some n ∉ l := h.not_mem_of_lt (by omega)
      simp [heq, ih, hnot]
    · simp [heq, Ne.symm heq, ih]
  | @gap a c m l hc h ih =>
    by_cases heq : a = n
    · have hnot : some n ∉ l := h.not_mem_of_lt (by omega)
      simp [heq, ih, hnot]
    · simp [heq, Ne.symm heq, ih]

end Contents

/-! ## How a row is put together -/

theorem pages_eq_cons {first last : Nat} (h : first ≤ last) :
    pages first last = some first :: pages (first + 1) last := by
  have hlength : last + 1 - first = (last - first) + 1 := by omega
  have hrest : last + 1 - (first + 1) = last - first := by omega
  rw [pages, pages, hlength, hrest, List.range'_succ]
  rfl

/-- Consecutive pages make a row without gaps. -/
theorem contents_pages {first last : Nat} (h : first ≤ last) :
    Contents first last (pages first last) := by
  obtain ⟨count, rfl⟩ := Nat.exists_eq_add_of_le h
  induction count generalizing first with
  | zero =>
    show Contents first first (pages first first)
    rw [pages, Nat.add_sub_cancel_left]
    exact .last
  | succ count ih =>
    have hstep : first + (count + 1) = first + 1 + count := by omega
    rw [pages_eq_cons h, hstep]
    exact .next (ih (Nat.le_add_right ..))

theorem length_pages (first last : Nat) : (pages first last).length = last + 1 - first := by
  simp [pages]

theorem mem_pages_iff {first last n : Nat} :
    some n ∈ pages first last ↔ first ≤ n ∧ n ≤ last := by
  simp [pages, List.mem_range'_1]
  omega

inductive Layout (current last : Nat) : List Slot → Prop
  | whole (hfew : last < 14) : Layout current last (pages 1 last)
  | atStart (hmany : 14 ≤ last) (hnear : current ≤ 7) :
      Layout current last (pages 1 10 ++ none :: pages (last - 1) last)
  | atEnd (hmany : 14 ≤ last) (hfar : 7 < current) (hnear : last < current + 7) :
      Layout current last (pages 1 2 ++ none :: pages (last - 9) last)
  | inside (hstart : 8 ≤ current) (hend : current + 7 ≤ last) :
      Layout current last (pages 1 2 ++ none :: pages (current - 3) (current + 3)
        ++ none :: pages (last - 1) last)

/-- The row of slots is laid out in one of four ways, by where the current page is. -/
theorem slots_layout (current last : Nat) : Layout current last (slots current last) := by
  have hside : onEachSide = 3 := rfl
  have hclinging : clinging = 7 := rfl
  unfold slots
  split
  · exact .whole (by omega)
  · split
    · exact .atStart (by omega) (by omega)
    · split
      · exact .atEnd (by omega) (by omega) (by omega)
      · exact .inside (by omega) (by omega)

namespace Layout

variable {current last n : Nat} {row : List Slot}

/-- Every row is a table of contents, from the first page to the last. -/
theorem contents (h : Layout current last row) (hlast : 1 ≤ last) : Contents 1 last row := by
  have hfinish : Contents (last - 1) last (pages (last - 1) last) :=
    contents_pages (Nat.sub_le last 1)
  cases h with
  | whole hfew => exact contents_pages hlast
  | atStart hmany hnear => exact (contents_pages (by omega)).cross (by omega) hfinish
  | atEnd hmany hfar hnear =>
    exact (contents_pages (by omega)).cross (by omega) (contents_pages (by omega))
  | inside hstart hend =>
    have hmiddle : Contents (current - 3) (current + 3) (pages (current - 3) (current + 3)) :=
      contents_pages (by omega)
    exact ((contents_pages (by omega)).cross (by omega) hmiddle).cross (by omega) hfinish

/-- A row names the pages next to either end and those around the page that it is made for. -/
theorem mem (h : Layout current last row) (hn : 1 ≤ n) (hle : n ≤ last)
    (hnear : n ≤ 2 ∨ last ≤ n + 1 ∨ current ≤ n + 3 ∧ n ≤ current + 3) : some n ∈ row := by
  cases h with
  | whole hfew => exact mem_pages_iff.mpr ⟨hn, hle⟩
  | _ =>
    simp only [List.mem_append, List.mem_cons, mem_pages_iff]
    omega

/-- A row of many pages has thirteen slots. -/
theorem length (h : Layout current last row) (hmany : 14 ≤ last) : row.length = 13 := by
  cases h with
  | whole hfew => omega
  | _ =>
    simp only [List.length_append, List.length_cons, length_pages]
    omega

end Layout

/-! ## What a reader can rely on -/

/-- What the row of links of page `current` says about the pages up to `last`. -/
structure ListsPages (current last : Nat) (row : List Slot) : Prop where
  starts : row.head? = some (some 1)
  ends : row.getLast? = some (some last)
  increasing : (named row).Pairwise (· < ·)
  /-- The two pages at either end are there, and so are the three on each side of the page. -/
  near : ∀ {n}, 1 ≤ n → n ≤ last →
    n ≤ 2 ∨ last ≤ n + 1 ∨ current ≤ n + 3 ∧ n ≤ current + 3 → some n ∈ row
  /-- Between two pages there is a gap exactly if the second is not the one after the first. Then
  there is one gap, and it stands for two pages or more. -/
  between : ∀ {before after x y k},
    row = before ++ some x :: (List.replicate k none ++ some y :: after) →
      if y = x + 1 then k = 0 else k = 1 ∧ x + 2 < y
  whole : last < 14 → none ∉ row
  length : 14 ≤ last → row.length = 13

theorem none_not_mem_pages (first last : Nat) : none ∉ pages first last := by
  simp [pages]

/-- Each of the four layouts lists the pages as it should. -/
theorem listsPages_slots {current last : Nat} (hlast : 1 ≤ last) :
    ListsPages current last (slots current last) := by
  have hlayout := slots_layout current last
  have hcontents := hlayout.contents hlast
  obtain ⟨rest, hrest⟩ := hcontents.exists_eq_cons
  refine ⟨?_, hcontents.getLast?_eq, hcontents.named_increasing, hlayout.mem, hcontents.between,
    ?_, hlayout.length⟩
  · rw [hrest]
    rfl
  · intro hfew
    rw [slots_of_few hfew]
    exact none_not_mem_pages 1 last

/-- The active links of a row: the one of the page that it is made for, if that is a page. -/
theorem filter_active_linkRow {path : String} {current last : Nat} {previous next : Option String}
    (hcurrent : 1 ≤ current) (hlast : 1 ≤ last) :
    (linkRow path current last previous next).filter (·.active)
      = if current ≤ last then [⟨some (url path current), toString current, true⟩] else [] := by
  have hlayout := slots_layout current last
  have hactive : (fun s => (slotLink path current s).active) = (· == some current) := by
    funext s
    cases s <;> rfl
  -- The current page always has a slot of its own, if there is such a page.
  have hmem : some current ∈ slots current last ↔ current ≤ last := by
    constructor
    · exact (hlayout.contents hlast).le_last
    · intro hle
      exact hlayout.mem hcurrent hle (.inr (.inr ⟨by omega, by omega⟩))
  have hslots : ((slots current last).map (slotLink path current)).filter (·.active)
      = if current ≤ last then [slotLink path current (some current)] else [] := by
    rw [List.filter_map]
    show ((slots current last).filter fun s => (slotLink path current s).active).map _ = _
    rw [hactive, (hlayout.contents hlast).filter_eq]
    simp only [hmem]
    split <;> rfl
  have hself : slotLink path current (some current)
      = ⟨some (url path current), toString current, true⟩ := by
    simp [slotLink]
  -- The links at both ends are never active.
  rw [linkRow, List.filter_append, List.filter_cons_of_neg (by simp), hslots, hself]
  simp

/-- **The row of links is a faithful table of contents.** It is worked out without leaving the words
of 64 bits, it is in order from the first page to the last, it names the pages near either end and
near its own, and it has a gap exactly where it passes over pages, which are then two or more. Of up
to thirteen pages none is left out, and of more a row has thirteen slots.

So of the links of a page exactly one is active, that of the page itself, as long as it is not past
the last one; then none is. -/
theorem slots_listsPages :
    (∀ current last : Nat, 1 ≤ last → last ≤ maxCount →
        slots? current last = some (slots current last)
          ∧ ListsPages current last (slots current last))
      ∧ ∀ (data : List Json) (total : Nat) (r : PageRequest),
        (new data total r).links.filter (·.active)
          = if (new data total r).currentPage ≤ (new data total r).lastPage then
              [⟨some (url r.path (new data total r).currentPage),
                toString (new data total r).currentPage, true⟩]
            else [] := by
  constructor
  · intro current last hlast hmax
    exact ⟨slots?_eq_slots hmax, listsPages_slots hlast⟩
  · intro data total r
    exact filter_active_linkRow (Nat.le_max_right ..) (Nat.le_max_right ..)

end Sift.Page

/-! ### As many pages as a word can count -/

namespace Sift.Sample

open Page

/-- The row of links in the middle of them has a gap on either side. -/
theorem row_amid_words :
    1 ≤ maxCount ∧ maxCount ≤ maxCount
      ∧ ListsPages 9223372036854775808 maxCount
        [some 1, some 2, none, some 9223372036854775805, some 9223372036854775806,
          some 9223372036854775807, some 9223372036854775808, some 9223372036854775809,
          some 9223372036854775810, some 9223372036854775811, none,
          some 18446744073709551614, some 18446744073709551615]
      ∧ (slots? 9223372036854775808 maxCount).map List.length = some 13 := by
  have hone : 1 ≤ maxCount := by decide
  have hmax : maxCount ≤ maxCount := Nat.le_refl maxCount
  obtain ⟨hchecked, hlists⟩ := slots_listsPages.1 9223372036854775808 maxCount hone hmax
  refine ⟨hone, hmax, hlists, ?_⟩
  rw [hchecked]
  decide +kernel

end Sift.Sample
