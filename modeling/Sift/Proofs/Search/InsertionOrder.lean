import Sift.Proofs.Search.Pagination

/-!
# Pages do not depend on the order of insertion

The settled sort of a query always has the primary key among its keys, wherever it stands and
whatever the other keys are. So rows with different primary keys never tie
(`untied_of_distinctKeys`), and a search of rows whose primary keys differ is the same whatever the
order in which they were inserted.

Main statement: `pages_eq_of_perm`.
-/

namespace Sift

/-- The rows have primary keys no two of which tie. -/
def Entity.DistinctKeys (e : Entity) (rows : List Json) : Prop :=
  rows.Pairwise fun a b =>
    compareValues (a.field? e.primaryKey) (b.field? e.primaryKey) ≠ .eq

/-! ## Rows with distinct primary keys do not tie -/

/-- Under either direction, rows tie exactly if their values do. -/
theorem SortKey.compare_eq_eq_iff {k : SortKey} {a b : Json} :
    k.compare a b = .eq ↔ compareValues (a.field? k.field) (b.field? k.field) = .eq := by
  unfold SortKey.compare
  cases k.direction with
  | ascending => exact Iff.rfl
  | descending => exact Ordering.swap_eq_eq

/-- Rows that tie under the sort of a query tie in their primary keys. -/
theorem Query.compare_primaryKey_of_tie {e : Entity} {p : Plan} {a b : Json}
    (h : compareRows (resolve e p).sort a b = .eq) :
    compareValues (a.field? e.primaryKey) (b.field? e.primaryKey) = .eq := by
  obtain ⟨k, hk, hfield⟩ := primaryKey_mem_sort e p
  have hkey := SortKey.compare_eq_eq_iff.mp (compareRows_eq_eq_iff.mp h k hk)
  rwa [hfield] at hkey

/-- With distinct primary keys, no two rows tie under any query. -/
theorem untied_of_distinctKeys {e : Entity} {rows : List Json} (h : e.DistinctKeys rows)
    (p : Plan) : Untied (Query.resolve e p).sort rows :=
  h.imp fun hkeys htie => hkeys (Query.compare_primaryKey_of_tie htie)

/-! ## Two stores with the same rows -/

/-- An execution depends on what the backend says of its query, and on the backend's name. -/
theorem Backend.execute_congr {b b' : Backend} {e : Entity} {p : Plan} (hname : b.name = b'.name)
    (hcount : b.count (.resolve e p) = b'.count (.resolve e p))
    (hfetch : ∀ w, b.fetch (.resolve e p) w = b'.fetch (.resolve e p) w) (r : PageRequest) :
    b.execute p e r = b'.execute p e r := by
  simp only [execute, failed, finished, hname, hcount, hfetch]

/-- The rows that a plan selects are the same, in the same order. -/
theorem Store.selection_eq_of_perm {s t : Store} {e : Entity} {p : Plan}
    (hperm : (s.rows e.table).Perm (t.rows e.table))
    (hkeys : e.DistinctKeys ((s.rows e.table).filter (Query.resolve e p).selects)) :
    s.selection e p = t.selection e p :=
  (untied_of_distinctKeys hkeys p).sortRows_eq_of_perm (hperm.filter _)

/-- A search of either store makes the same page, by the same calls and with the same events. -/
theorem Store.execute_eq_of_perm {s t : Store} {e : Entity} {p : Plan} (hs : s.broken = false)
    (ht : t.broken = false) (hp : p.largePattern? = none)
    (hperm : (s.rows e.table).Perm (t.rows e.table))
    (hkeys : e.DistinctKeys ((s.rows e.table).filter (Query.resolve e p).selects))
    (r : PageRequest) : s.backend.execute p e r = t.backend.execute p e r := by
  have hselection := selection_eq_of_perm hperm hkeys
  have hname : s.backend.name = t.backend.name := rfl
  refine Backend.execute_congr hname ?_ ?_ r
  · rw [count_resolve hs hp, count_resolve ht hp, hselection]
  · intro w
    rw [fetch_resolve hs hp, fetch_resolve ht hp, hselection]

/-- **Pages do not depend on the order of insertion.** Let two stores hold the same rows of an
entity, in whatever orders, and let the primary keys of the rows that a plan selects be pairwise
distinct. Then the settled sort orders these rows strictly, whichever keys the plan or the entity
sorts by, and every page of one store is the page of the other. -/
theorem pages_eq_of_perm {s t : Store} {e : Entity} {p : Plan} (hs : s.broken = false)
    (ht : t.broken = false) (hp : p.largePattern? = none)
    (hperm : (s.rows e.table).Perm (t.rows e.table))
    (hkeys : e.DistinctKeys ((s.rows e.table).filter (Query.resolve e p).selects)) :
    (s.selection e p).Pairwise (fun a b => compareRows (Query.resolve e p).sort a b = .lt)
      ∧ ∀ r, ∃ page, (s.backend.execute p e r).result = .ok page
        ∧ (t.backend.execute p e r).result = .ok page := by
  refine ⟨(untied_of_distinctKeys hkeys p).sortRows_strict, ?_⟩
  intro r
  obtain ⟨page, hpage⟩ := Store.exists_page hs hp r
  exact ⟨page, hpage, Store.execute_eq_of_perm hs ht hp hperm hkeys r ▸ hpage⟩

/-! ### Three users in two orders -/

namespace Sample

def keyed (id name : String) : Json := row (.string id) name (integer 30)

def early : List Json := [keyed "u1" "Ann", keyed "u2" "Max"]

def late : List Json := [keyed "u3" "Dana", row .null "Cal" (integer 30)]

def chronicle : Store := Store.empty.insertRows "users" (early ++ late)

def annals : Store := Store.empty.insertRows "users" (late ++ early)

/-- Sorts by one column twice and by a column that no row has. -/
def indecisive : Plan :=
  { Plan.empty with
    sort := [⟨"age", .descending⟩, ⟨"age", .ascending⟩, ⟨"nickname", .ascending⟩] }

/-- All users tie under the keys of the plan; and yet the user on the second page is the same. -/
theorem second_page_of_annals :
    chronicle.broken = false ∧ annals.broken = false ∧ indecisive.largePattern? = none
      ∧ (chronicle.rows users.table).Perm (annals.rows users.table)
      ∧ users.DistinctKeys
          ((chronicle.rows users.table).filter (Query.resolve users indecisive).selects)
      ∧ ∃ page, (chronicle.backend.execute indecisive users ⟨2, 1, "/users"⟩).result = .ok page
        ∧ (annals.backend.execute indecisive users ⟨2, 1, "/users"⟩).result = .ok page
        ∧ page.data.map (fun row => (row.field? "name").bind Json.scalarText?) = [some "Max"] := by
  have hperm : (chronicle.rows users.table).Perm (annals.rows users.table) :=
    List.perm_append_comm
  have hkeys : users.DistinctKeys
      ((chronicle.rows users.table).filter (Query.resolve users indecisive).selects) := by
    unfold Entity.DistinctKeys
    decide +kernel
  obtain ⟨-, hpages⟩ := pages_eq_of_perm rfl rfl rfl hperm hkeys
  obtain ⟨page, hpage, hpage'⟩ := hpages ⟨2, 1, "/users"⟩
  refine ⟨rfl, rfl, rfl, hperm, hkeys, page, hpage, hpage', ?_⟩
  have hselection : chronicle.selection users indecisive
      = (chronicle.rows users.table).filter (Query.resolve users indecisive).selects :=
    List.mergeSort_of_pairwise (by decide +kernel)
  have hresult := result_execute (s := chronicle) (e := users) (p := indecisive) rfl rfl
    (by decide) ⟨2, 1, "/users"⟩
  rw [hpage] at hresult
  rw [Except.ok.inj hresult, Page.new, Store.listing, hselection]
  decide +kernel

end Sample

end Sift
