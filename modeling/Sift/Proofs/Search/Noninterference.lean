import Sift.Proofs.Compile.Columns
import Sift.Proofs.Entity.Building
import Sift.Proofs.Row.Agreement
import Sift.Proofs.Row.Sorting
import Sift.Search
import Sift.Storage.Store

/-!
# Hidden columns leave no trace

Two stores whose rows differ in nothing but hidden columns answer every search alike, provided no
hidden column may be named in a document or is sorted by when a document does not say. A search
reads a row in the tests of the plan and of the primary key, in the comparisons of the sort and in
the projection. All but the last read columns that may be named, so they cannot tell related rows
apart: related tables have related selections (`matching_sameOutcome`), and related rows have alike
projections, so that the pages are alike (`execute_sameOutcome`).

Main statement: `search_sameOutcome`.
-/

namespace Sift

open List (Forall₂)
open Json (AgreeOn)

/-! ## Outcomes -/

/-- Two computations fail for the same reason or have related results. -/
inductive SameOutcome {ε α β : Type} (R : α → β → Prop) : Except ε α → Except ε β → Prop where
  | ok {a : α} {b : β} : R a b → SameOutcome R (.ok a) (.ok b)
  | error (e : ε) : SameOutcome R (.error e) (.error e)

namespace SameOutcome

variable {ε ε' α β α' β' : Type} {R : α → β → Prop} {S : α' → β' → Prop} {x : Except ε α}
  {y : Except ε β}

/-- Outcomes that are the same stay so when both are mapped in ways that keep what relates them. -/
theorem map {f : α → α'} {g : β → β'} (h : SameOutcome R x y)
    (hfg : ∀ {a b}, R a b → S (f a) (g b)) : SameOutcome S (x.map f) (y.map g) := by
  cases h with
  | ok hab => exact .ok (hfg hab)
  | error e => exact .error e

theorem mapError (h : SameOutcome R x y) (f : ε → ε') :
    SameOutcome R (x.mapError f) (y.mapError f) := by
  cases h with
  | ok hab => exact .ok hab
  | error e => exact .error (f e)

/-- The same outcome is either two related results or one error. -/
theorem both_ok_or_error (h : SameOutcome R x y) :
    (∃ a b, x = .ok a ∧ y = .ok b ∧ R a b) ∨ ∃ e, x = .error e ∧ y = .error e := by
  cases h with
  | ok hab => exact .inl ⟨_, _, rfl, rfl, hab⟩
  | error e => exact .inr ⟨e, rfl, rfl⟩

theorem eq {x y : Except ε α} (h : SameOutcome Eq x y) : x = y := by
  cases h with
  | ok hab => rw [hab]
  | error e => rfl

end SameOutcome

/-- Compiles a document for an entity and makes the page of a request. -/
def Backend.search (b : Backend) (e : Entity) (d : Document) (r : PageRequest) :
    Except SearchError Page :=
  match e.compile d with
  | .error c => .error (.compile c)
  | .ok p => (b.execute p e r).result.mapError .execution

/-- The stores hold the same rows of an entity as far as its hidden columns do not matter. -/
structure Store.AgreeFor (e : Entity) (s t : Store) : Prop where
  broken : s.broken = t.broken
  rows : Forall₂ (AgreeOn (· ∉ e.hidden)) (s.rows e.table) (t.rows e.table)

/-! ## The columns of a query -/

/-- The settled sort is by columns of the plan or the default sort, and by the primary key. -/
theorem Query.sort_resolve {seen : String → Prop} {e : Entity} {p : Plan}
    (hkey : seen e.primaryKey) (hdefault : ∀ k ∈ e.defaultSort, seen k.field)
    (hplan : ∀ c ∈ p.columns, seen c) : ∀ k ∈ (Query.resolve e p).sort, seen k.field := by
  have hrequested : ∀ k ∈ Query.requestedSort e p, seen k.field := by
    intro k hk
    unfold Query.requestedSort at hk
    split at hk
    · exact hdefault k hk
    · exact hplan _ (List.mem_append_right _ (List.mem_map_of_mem hk))
  intro k hk
  unfold Query.resolve Query.settledSort at hk
  split at hk
  · exact hrequested k hk
  · rcases List.mem_append.mp hk with hk | hk
    · exact hrequested k hk
    · rw [List.mem_singleton.mp hk]
      exact hkey

/-- A query cannot tell rows apart that agree in the columns it mentions. -/
theorem Query.selects_congr {seen : String → Prop} {q : Query} {a b : Json}
    (hkey : seen q.entity.primaryKey) (hplan : ∀ c ∈ q.plan.columns, seen c)
    (h : AgreeOn seen a b) : q.selects a = q.selects b := by
  simp only [Plan.columns, List.forall_mem_append, List.forall_mem_map] at hplan
  obtain ⟨⟨⟨⟨⟨hpredicates, hdates⟩, hnulls⟩, hranges⟩, -⟩, -⟩ := hplan
  have hp : (∀ p ∈ q.plan.predicates, p.holds a = true)
      ↔ ∀ p ∈ q.plan.predicates, p.holds b = true :=
    forall₂_congr fun p hp => by rw [predicate_holds_congr (h.alikeAt (hpredicates p hp))]
  have hd : (∀ p ∈ q.plan.datePredicates, p.holds a = true)
      ↔ ∀ p ∈ q.plan.datePredicates, p.holds b = true :=
    forall₂_congr fun p hp => by rw [datePredicate_holds_congr (h.alikeAt (hdates p hp))]
  have hn : (∀ c ∈ q.plan.nullChecks, c.holds a = true)
      ↔ ∀ c ∈ q.plan.nullChecks, c.holds b = true :=
    forall₂_congr fun c hc => by rw [nullCheck_holds_congr (h.alikeAt (hnulls c hc))]
  have hr : (∃ r ∈ q.plan.ranges, r.holds a = true) ↔ ∃ r ∈ q.plan.ranges, r.holds b = true :=
    exists_congr fun r => and_congr_right fun hr => by
      rw [range_holds_congr (h.alikeAt (hranges r hr))]
  -- Test by test, the two rows pass or fail together.
  rw [Bool.eq_iff_iff, selects_iff, selects_iff]
  rw [isNullColumn_congr (h.alikeAt hkey), hp, hd, hn, hr]

/-! ## Executing a search -/

/-- Pages of alike rows are alike. -/
theorem Page.new_alike {xs ys : List Json} (h : Forall₂ Json.Alike xs ys) (total : Nat)
    (r : PageRequest) : (Page.new xs total r).toJson.Alike (Page.new ys total r).toJson := by
  have hempty : xs.isEmpty = ys.isEmpty := by
    cases h <;> rfl
  -- Apart from its rows, a page depends on how many they are.
  have hpage : Page.new ys total r = { Page.new xs total r with data := ys } := by
    simp [Page.new, h.length_eq, hempty]
  rw [hpage]
  exact (Json.Alike.array h).object_cons "data" _

/-- Backends that count alike and fetch related rows make alike pages. -/
theorem Backend.execute_sameOutcome {b b' : Backend} {e : Entity} {p : Plan}
    (hcount : b.count (.resolve e p) = b'.count (.resolve e p))
    (hfetch : ∀ w, SameOutcome (Forall₂ (AgreeOn (· ∉ e.hidden))) (b.fetch (.resolve e p) w)
      (b'.fetch (.resolve e p) w)) (r : PageRequest) :
    SameOutcome (fun x y => x.toJson.Alike y.toJson) (b.execute p e r).result
      (b'.execute p e r).result := by
  cases hc : b.count (.resolve e p) with
  | error f =>
    rw [execute_of_count_error hc, execute_of_count_error (hcount ▸ hc)]
    exact .error _
  | ok total =>
    have hc' : b'.count (.resolve e p) = .ok total := hcount ▸ hc
    rcases Nat.lt_or_ge r.offset total with hw | hw
    · rcases (hfetch r.window).both_ok_or_error with ⟨rows, rows', hf, hf', hrows⟩ | ⟨f, hf, hf'⟩
      · rw [execute_of_fetch hc hw hf, execute_of_fetch hc' hw hf']
        apply SameOutcome.ok
        -- The hidden columns, where the rows may differ, are gone once they are projected.
        apply Page.new_alike
        rw [List.forall₂_map_left_iff, List.forall₂_map_right_iff]
        exact hrows.imp fun _ _ h => h.project_alike
      · rw [execute_of_fetch_error hc hw hf, execute_of_fetch_error hc' hw hf']
        exact .error _
    · rw [execute_of_past_end hc hw, execute_of_past_end hc' hw]
      exact .ok (.refl _)

/-! ## Searching a store -/

namespace Store

variable {e : Entity} {s t : Store} {p : Plan}

/-- Stores that agree are broken together. -/
theorem access_eq_of_agreeFor (hst : AgreeFor e s t) : s.access = t.access := by
  rw [access, access, hst.broken]

/-- The rows that a query selects are related, in the order of their insertion. -/
theorem matching_sameOutcome (hst : AgreeFor e s t) (hkey : e.primaryKey ∉ e.hidden)
    (hplan : ∀ c ∈ p.columns, c ∉ e.hidden) :
    SameOutcome (Forall₂ (AgreeOn (· ∉ e.hidden))) (s.matching (.resolve e p))
      (t.matching (.resolve e p)) := by
  unfold matching
  cases (Query.resolve e p).plan.largePattern? with
  -- A pattern is refused before the store is looked at.
  | some pattern => exact .error _
  | none =>
    have hfilter : Forall₂ (AgreeOn (· ∉ e.hidden))
        ((s.rows e.table).filter (Query.resolve e p).selects)
        ((t.rows e.table).filter (Query.resolve e p).selects) := by
      refine List.rel_filter ?_ hst.rows
      intro a b hab
      have hselects := Query.selects_congr (q := Query.resolve e p) hkey hplan hab
      show _ = true ↔ _ = true
      rw [hselects]
    show SameOutcome _ (s.access >>= _) (t.access >>= _)
    rw [access_eq_of_agreeFor hst]
    cases t.access with
    | error f => exact .error f
    | ok _ => exact .ok hfilter

/-- The count does not tell two stores apart that agree outside the hidden columns. -/
theorem count_eq_of_agreeFor (hst : AgreeFor e s t) (hkey : e.primaryKey ∉ e.hidden)
    (hplan : ∀ c ∈ p.columns, c ∉ e.hidden) :
    s.backend.count (.resolve e p) = t.backend.count (.resolve e p) :=
  ((matching_sameOutcome hst hkey hplan).map fun h => h.length_eq).eq

/-- The fetched rows agree one by one outside the hidden columns. -/
theorem fetch_sameOutcome (hst : AgreeFor e s t) (hkey : e.primaryKey ∉ e.hidden)
    (hdefault : ∀ k ∈ e.defaultSort, k.field ∉ e.hidden) (hplan : ∀ c ∈ p.columns, c ∉ e.hidden)
    (w : Window) :
    SameOutcome (Forall₂ (AgreeOn (· ∉ e.hidden))) (s.backend.fetch (.resolve e p) w)
      (t.backend.fetch (.resolve e p) w) := by
  apply (matching_sameOutcome hst hkey hplan).map
  intro rows rows' hrows
  have hkeys := Query.sort_resolve hkey hdefault hplan
  have hsort := forall₂_sortRows (compareRows_congr hkeys) hrows
  exact List.forall₂_take _ (List.forall₂_drop _ hsort)

end Store

/-- **Hidden columns leave no trace.** Let no column of an entity be both hidden and open to
documents, and let the default sort be by columns that are open to documents. Then two stores whose
rows agree in all but the hidden columns, which may hold anything or be missing, answer every
document and every request for a page alike: with the same error, or with pages that are equal as
JSON up to the order of fields. -/
theorem search_sameOutcome {e : Entity} (he : e.Built) (hhidden : ∀ c ∈ e.hidden, c ∉ e.queryable)
    (hdefault : ∀ k ∈ e.defaultSort, k.field ∈ e.queryable) {s t : Store}
    (hst : Store.AgreeFor e s t) (d : Document) (r : PageRequest) :
    SameOutcome (fun x y => x.toJson.Alike y.toJson) (s.backend.search e d r)
      (t.backend.search e d r) := by
  have hseen : ∀ c ∈ e.queryable, c ∉ e.hidden := fun c hc hmem => hhidden c hmem hc
  have hkey := hseen _ he.primaryKey_mem_queryable
  have hsort : ∀ k ∈ e.defaultSort, k.field ∉ e.hidden := fun k hk => hseen _ (hdefault k hk)
  unfold Backend.search
  cases hd : e.compile d with
  | error c => exact .error _
  | ok p =>
    -- This is the only place where it matters that the plan comes from a document.
    have hplan : ∀ c ∈ p.columns, c ∉ e.hidden := by
      intro c hc
      obtain ⟨clause, hnamed⟩ := (mem_columns_iff_of_compile hd c).mp hc
      exact hseen c (mem_allowed_of_compile hd hnamed)
    have hexecute := Backend.execute_sameOutcome (Store.count_eq_of_agreeFor hst hkey hplan)
      (Store.fetch_sameOutcome hst hkey hsort hplan) r
    exact hexecute.mapError _

/-! ### A password and its absence -/

namespace Sample

def accounts : Entity :=
  (((Entity.new "account" "accounts").withQueryable ["name", "joined"]).withHidden
    ["password"]).withDefaultSort [⟨"name", .ascending⟩]

def account (id : Int) (name : String) (password : Fields) : Json :=
  .object (password ++ [("id", .number (.integer id)), ("name", .string name)])

def oneSide : Store :=
  Store.empty.insertRows "accounts"
    [account 1 "Zoe" [("password", .string "abc")], account 2 "Ann" []]

def otherSide : Store :=
  Store.empty.insertRows "accounts" [account 1 "Zoe" [], account 2 "Ann" [("password", .null)]]

theorem account_agreeOn (id : Int) (name : String) {password password' : Fields}
    (h : ∀ c ∉ accounts.hidden, password.lookup c = none ∧ password'.lookup c = none) :
    AgreeOn (· ∉ accounts.hidden) (account id name password) (account id name password') := by
  refine .object fun c hc => ?_
  obtain ⟨h, h'⟩ := h c hc
  rw [List.lookup_append, List.lookup_append, h, h']
  exact Json.relAlike_refl _

theorem sides_agreeFor : Store.AgreeFor accounts oneSide otherSide where
  broken := rfl
  rows := by
    have hpassword (v : Json) : ∀ c ∉ accounts.hidden, List.lookup c [("password", v)] = none := by
      intro c hc
      have hne : (c == "password") = false := by
        rw [beq_eq_false_iff_ne]
        rintro rfl
        exact hc (by decide)
      rw [List.lookup_cons, hne]
      rfl
    refine .cons (account_agreeOn 1 "Zoe" fun c hc => ⟨hpassword _ c hc, rfl⟩)
      (.cons (account_agreeOn 2 "Ann" fun c hc => ⟨rfl, hpassword _ c hc⟩) .nil)

/-- The accounts without a date of joining, one to a page. -/
def unjoined : Document := { Document.empty with nulls := ["joined"] }

theorem unjoined_sameOutcome :
    accounts.Built ∧ (∀ c ∈ accounts.hidden, c ∉ accounts.queryable)
      ∧ (∀ k ∈ accounts.defaultSort, k.field ∈ accounts.queryable)
      ∧ Store.AgreeFor accounts oneSide otherSide
      ∧ (oneSide.backend.search accounts unjoined ⟨2, 1, "/accounts"⟩).map Page.total = .ok 2
      ∧ SameOutcome (fun x y => x.toJson.Alike y.toJson)
          (oneSide.backend.search accounts unjoined ⟨2, 1, "/accounts"⟩)
          (otherSide.backend.search accounts unjoined ⟨2, 1, "/accounts"⟩) := by
  have hbuilt : accounts.Built :=
    ⟨"account", "accounts", [.queryable ["name", "joined"], .hidden ["password"],
      .defaultSort [⟨"name", .ascending⟩]], rfl⟩
  have hhidden : ∀ c ∈ accounts.hidden, c ∉ accounts.queryable := by decide +kernel
  have hdefault : ∀ k ∈ accounts.defaultSort, k.field ∈ accounts.queryable := by decide +kernel
  exact ⟨hbuilt, hhidden, hdefault, sides_agreeFor, by decide +kernel,
    search_sameOutcome hbuilt hhidden hdefault sides_agreeFor unjoined ⟨2, 1, "/accounts"⟩⟩

end Sample

end Sift
