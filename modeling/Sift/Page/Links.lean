/-!
# Page links

Which page numbers a page links to, and how a link is written. Up to thirteen pages are all linked.
Of more, the first two and the last two are, and ten at one end or seven around the current page;
what is left out in between shows as a gap.

Main statement: `slots_of_few`.
-/

namespace Sift.Page

/-- How many pages on either side of the current one are linked. -/
def onEachSide : Nat := 3

/-- How near to an end of the pages the window clings to it. -/
def clinging : Nat := onEachSide + 4

abbrev Slot := Option Nat

def pages (first last : Nat) : List Slot :=
  (List.range' first (last + 1 - first)).map some

def slots (current last : Nat) : List Slot :=
  if last < 2 * onEachSide + 8 then
    pages 1 last
  else if current ≤ clinging then
    pages 1 (clinging + onEachSide) ++ none :: pages (last - 1) last
  -- Ten pages at the end, as there are at the start.
  else if last - clinging < current then
    pages 1 2 ++ none :: pages (last - (clinging + onEachSide - 1)) last
  else
    pages 1 2 ++ none :: pages (current - onEachSide) (current + onEachSide)
      ++ none :: pages (last - 1) last

/-- The address of a page: a query parameter on `path`. -/
def url (path : String) (page : Nat) : String :=
  path ++ (if path.toList.contains '?' then "&" else "?") ++ "page=" ++ toString page

structure Link where
  url : Option String
  label : String
  active : Bool
  deriving DecidableEq

def slotLink (path : String) (current : Nat) : Slot → Link
  | some n => ⟨some (url path n), toString n, n == current⟩
  | none => ⟨none, "...", false⟩

/-- The links on page `current` of `last`, given the addresses of its neighbours. -/
def linkRow (path : String) (current last : Nat) (previous next : Option String) : List Link :=
  ⟨previous, "&laquo; Previous", false⟩ :: (slots current last).map (slotLink path current)
    ++ [⟨next, "Next &raquo;", false⟩]

/-- Up to thirteen pages are listed without a gap. -/
theorem slots_of_few {current last : Nat} (h : last < 14) : slots current last = pages 1 last := by
  simp [slots, onEachSide, h]

end Sift.Page
