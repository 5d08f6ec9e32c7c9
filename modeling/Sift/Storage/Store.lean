import Sift.Row.Filter
import Sift.Row.Order
import Sift.Storage.Backend

/-!
# The in-memory store

A store holds the rows of named tables, in the order of their insertion. A table that was never
written to, or was cleared, has no rows. Once a writer has failed in the middle of its work the
store is broken: its rows stay, but nobody gets at them any more.

Main statements: `rows_insertRows`, `rows_dropTable`, and what an unbroken store answers
(`count_eq`, `fetch_eq`).
-/

namespace Sift

/-- The rows of named tables, and whether a writer has failed among them. -/
structure Store where
  tables : List (String × List Json)
  broken : Bool

namespace Store

def name : String := "in-memory"

def empty : Store := ⟨[], false⟩

def rows (s : Store) (table : String) : List Json := (s.tables.lookup table).getD []

def append (table : String) (more : List Json) :
    List (String × List Json) → List (String × List Json)
  | [] => [(table, more)]
  | (t, rows) :: rest =>
    if t == table then (t, rows ++ more) :: rest else (t, rows) :: append table more rest

/-- The store with more rows at the end of a table, whether it is broken or not. -/
def insertRows (s : Store) (table : String) (more : List Json) : Store :=
  { s with tables := append table more s.tables }

/-- The store without the rows of a table, whether it is broken or not. -/
def dropTable (s : Store) (table : String) : Store :=
  { s with tables := s.tables.filter (·.1 != table) }

def access (s : Store) : Except StorageError Unit :=
  if s.broken then .error (.unavailable name "poisoned lock: another task failed inside")
  else .ok ()

/-! ### Writing -/

def insertMany (s : Store) (table : String) (more : List Json) : Except StorageError Store := do
  s.access
  return s.insertRows table more

def insert (s : Store) (table : String) (row : Json) : Except StorageError Store :=
  s.insertMany table [row]

def clear (s : Store) (table : String) : Except StorageError Store := do
  s.access
  return s.dropTable table

/-- A writer that fails after it has added some rows. The store is broken from then on. -/
def insertInterrupted (s : Store) (table : String) (more : List Json) :
    Except StorageError Store := do
  s.access
  return { s.insertRows table more with broken := true }

/-! ### Reading -/

def size (s : Store) (table : String) : Except StorageError Nat := do
  s.access
  return (s.rows table).length

/-- The failure of a query with a pattern too large to be built. -/
def patternError (pattern : String) : StorageError :=
  .query name ("invalid LIKE pattern '" ++ pattern ++ "': Compiled regex exceeds size limit of "
    ++ toString Like.sizeLimit ++ " bytes.")

/-- The rows that a query selects, in order of insertion. Patterns are built before the store is
looked at. -/
def matching (s : Store) (q : Query) : Except StorageError (List Json) :=
  match q.plan.largePattern? with
  | some pattern => .error (patternError pattern)
  | none => do
    s.access
    return (s.rows q.entity.table).filter q.selects

def count (s : Store) (q : Query) : Except StorageError Nat := (s.matching q).map List.length

def fetch (s : Store) (q : Query) (w : Window) : Except StorageError (List Json) :=
  (s.matching q).map fun rows => ((sortRows q.sort rows).drop w.offset).take w.limit

def backend (s : Store) : Backend := ⟨name, s.count, s.fetch⟩

/-! ### What the operations do to the rows -/

/-- Inserted rows come last in their table; the other tables keep theirs. -/
theorem rows_insertRows (s : Store) (table other : String) (more : List Json) :
    (s.insertRows table more).rows other
      = if other = table then s.rows other ++ more else s.rows other := by
  obtain ⟨tables, _⟩ := s
  show ((append table more tables).lookup other).getD [] = _
  unfold rows
  -- The rows go to the first table of the name; the induction goes up to it.
  induction tables with
  | nil =>
    by_cases h : other = table
    · simp [append, h]
    · have h' : (other == table) = false := by simpa using h
      simp [append, List.lookup_cons, h, h']
  | cons t rest ih =>
    obtain ⟨n, r⟩ := t
    by_cases hn : n = table
    · subst hn
      by_cases h : other = n
      · simp [append, h]
      · have h' : (other == n) = false := by simpa using h
        simp [append, List.lookup_cons, h, h']
    · by_cases h : other = n
      · subst h; simp [append, hn]
      · have h' : (other == n) = false := by simpa using h
        simpa [append, hn, List.lookup_cons, h'] using ih

/-- Dropping a table leaves it empty and the others as they are. -/
theorem rows_dropTable (s : Store) (table other : String) :
    (s.dropTable table).rows other = if other = table then [] else s.rows other := by
  obtain ⟨tables, _⟩ := s
  show ((tables.filter (·.1 != table)).lookup other).getD [] = _
  unfold rows
  induction tables with
  | nil => simp
  | cons t rest ih =>
    obtain ⟨n, r⟩ := t
    by_cases hn : n = table
    · subst hn
      by_cases h : other = n
      · simpa [h] using ih
      · have h' : (other == n) = false := by simpa using h
        simpa [List.lookup_cons, h, h'] using ih
    · by_cases h : other = n
      · subst h; simp [hn]
      · have h' : (other == n) = false := by simpa using h
        simpa [hn, List.lookup_cons, h'] using ih

/-- A store that works counts the rows that the query selects. -/
theorem count_eq {s : Store} {q : Query} (hs : s.broken = false)
    (hq : q.plan.largePattern? = none) :
    s.count q = .ok ((s.rows q.entity.table).filter q.selects).length := by
  simp [count, matching, hq, access, hs, bind, Except.bind, Except.map, pure, Except.pure]

/-- A store that works fetches a slice of the selected rows in the order of the query. -/
theorem fetch_eq {s : Store} {q : Query} (w : Window) (hs : s.broken = false)
    (hq : q.plan.largePattern? = none) :
    s.fetch q w = .ok (((sortRows q.sort ((s.rows q.entity.table).filter q.selects)).drop
      w.offset).take w.limit) := by
  simp [fetch, matching, hq, access, hs, bind, Except.bind, Except.map, pure, Except.pure]

end Store

end Sift
