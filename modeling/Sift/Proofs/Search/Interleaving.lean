import Sift.Proofs.Search.Pagination

/-!
# Searches among writers

A search of a store is two calls, and each of them sees the store as it is at that moment: the one
that counts the rows and the one that fetches those of the page. Other clients may write before,
between and after them. `Scene.run` runs a search through any such schedule.

Whatever the schedule, the search ends as `execute` does over a backend that counts in the one
state and fetches in the other (`stage_run`), so its page has the total of the first and the rows of
the second. That is no page of a single state in general, but it is if nobody writes to the
entity's table in between, or if the number of selected rows stays as it was.

Main statement: `search_straddles_writes`.
-/

namespace Sift

/-! ## Writers -/

inductive Write where
  | insert (table : String) (row : Json)
  | insertMany (table : String) (more : List Json)
  | clear (table : String)

namespace Write

def table : Write → String
  | .insert table _ => table
  | .insertMany table _ => table
  | .clear table => table

def attempt (s : Store) : Write → Except StorageError Store
  | .insert table row => s.insert table row
  | .insertMany table more => s.insertMany table more
  | .clear table => s.clear table

def apply (s : Store) : Write → Store
  | .insert table row => s.insertRows table [row]
  | .insertMany table more => s.insertRows table more
  | .clear table => s.dropTable table

end Write

namespace Store

/-- The store after a write. One that is refused changes nothing. -/
def written (s : Store) (w : Write) : Store := (w.attempt s).toOption.getD s

def after (s : Store) (writes : List Write) : Store := writes.foldl written s

theorem written_eq (s : Store) (w : Write) :
    s.written w = if s.broken then s else w.apply s := by
  unfold written
  by_cases hs : s.broken = true <;> cases w <;>
    simp [Write.attempt, Write.apply, insert, insertMany, clear, access, hs, bind, Except.bind,
      pure, Except.pure, Except.toOption]

theorem broken_written (s : Store) (w : Write) : (s.written w).broken = s.broken := by
  rw [written_eq]
  split
  · rfl
  · cases w <;> rfl

/-- A write leaves the other tables alone. -/
theorem rows_written_of_ne {w : Write} {table : String} (h : w.table ≠ table) (s : Store) :
    (s.written w).rows table = s.rows table := by
  rw [written_eq]
  split
  · rfl
  · have hne : table ≠ w.table := h.symm
    cases w with
    | insert t row => exact (rows_insertRows ..).trans (if_neg hne)
    | insertMany t more => exact (rows_insertRows ..).trans (if_neg hne)
    | clear t => exact (rows_dropTable ..).trans (if_neg hne)

theorem broken_after (s : Store) (writes : List Write) : (s.after writes).broken = s.broken := by
  induction writes generalizing s with
  | nil => rfl
  | cons w writes ih => exact (ih (s.written w)).trans (broken_written s w)

/-- Writes to other tables leave the rows of a table alone. -/
theorem rows_after_of_ne {table : String} {writes : List Write}
    (h : ∀ w ∈ writes, w.table ≠ table) (s : Store) :
    (s.after writes).rows table = s.rows table := by
  induction writes generalizing s with
  | nil => rfl
  | cons w writes ih =>
    obtain ⟨hw, hrest⟩ := List.forall_mem_cons.mp h
    exact (ih hrest (s.written w)).trans (rows_written_of_ne hw s)

end Store

/-! ## A search, call by call -/

/-- A backend that counts as the one and fetches as the other does. -/
def Backend.straddling (b b' : Backend) : Backend := { b with fetch := b'.fetch }

inductive Stage where
  | begun
  | counted (total : Nat)
  | answered (x : Execution)

/-- What a search does with the answer of a backend to its next call. -/
def Stage.next (b : Backend) (p : Plan) (e : Entity) (r : PageRequest) : Stage → Stage
  | .begun =>
    match b.count (.resolve e p) with
    | .error err => .answered (b.failed e [.count] err)
    | .ok total =>
      if total ≤ r.window.offset then .answered (b.finished e r [.count] total [])
      else .counted total
  | .counted total =>
    let calls := [.count, .fetch r.window]
    match b.fetch (.resolve e p) r.window with
    | .error err => .answered (b.failed e calls err)
    | .ok rows => .answered (b.finished e r calls total rows)
  | .answered x => .answered x

section Calls

variable {b b' : Backend} {p : Plan} {e : Entity} {r : PageRequest}

/-- The first call may end the search with its failure. -/
theorem next_begun_of_error {err : StorageError} (h : b.count (.resolve e p) = .error err) :
    Stage.begun.next b p e r = .answered (b.failed e [.count] err) := by
  simp [Stage.next, h]

/-- It may also end it with an empty page, from the state that it sees alone. -/
theorem next_begun_of_past_end {total : Nat} (h : b.count (.resolve e p) = .ok total)
    (hw : total ≤ r.offset) :
    Stage.begun.next b p e r = .answered (b.finished e r [.count] total []) := by
  simp [Stage.next, h, PageRequest.window, hw]

/-- Otherwise a count is all that is kept of that state. -/
theorem next_begun_of_counted {total : Nat} (h : b.count (.resolve e p) = .ok total)
    (hw : r.offset < total) : Stage.begun.next b p e r = .counted total := by
  have : ¬ total ≤ r.window.offset := by simpa [PageRequest.window] using hw
  simp [Stage.next, h, this]

/-- The second call ends the search, with the count of one state and the rows of another. -/
theorem next_counted {total : Nat} (hname : b'.name = b.name)
    (h : b.count (.resolve e p) = .ok total) (hw : r.offset < total) :
    (Stage.counted total).next b' p e r = .answered ((b.straddling b').execute p e r) := by
  have hcount : (b.straddling b').count (.resolve e p) = .ok total := h
  -- The rows come from the second state, the name that failures are reported under from either.
  unfold Stage.next
  cases hfetch : b'.fetch (.resolve e p) r.window with
  | error err =>
    rw [Backend.execute_of_fetch_error hcount hw hfetch]
    simp [Backend.failed, Backend.straddling, hname]
  | ok rows =>
    rw [Backend.execute_of_fetch hcount hw hfetch]
    simp [Backend.finished, Backend.straddling, hname]

/-- Two calls are all that `execute` makes. -/
theorem next_next_begun (hname : b'.name = b.name) :
    (Stage.begun.next b p e r).next b' p e r = .answered ((b.straddling b').execute p e r) := by
  cases hcount : b.count (.resolve e p) with
  | error err =>
    rw [next_begun_of_error hcount, Backend.execute_of_count_error (b := b.straddling b') hcount]
    rfl
  | ok total =>
    rcases Nat.lt_or_ge r.offset total with hw | hw
    · rw [next_begun_of_counted hcount hw, next_counted hname hcount hw]
    · rw [next_begun_of_past_end hcount hw,
        Backend.execute_of_past_end (b := b.straddling b') hcount hw]
      rfl

end Calls

/-! ## Schedules -/

/-- What happens next: a write, or the next call of the search. -/
inductive Action where
  | write (w : Write)
  | call

def Action.isCall : Action → Bool
  | .write _ => false
  | .call => true

structure Scene where
  store : Store
  stage : Stage

namespace Scene

variable (p : Plan) (e : Entity) (r : PageRequest)

def step (c : Scene) : Action → Scene
  | .write w => { c with store := c.store.written w }
  | .call => { c with stage := c.stage.next c.store.backend p e r }

def run (c : Scene) (actions : List Action) : Scene := actions.foldl (step p e r) c

theorem run_append (c : Scene) (before after : List Action) :
    run p e r c (before ++ after) = run p e r (run p e r c before) after :=
  List.foldl_append

/-- Between the calls, writes change the store and nothing about the search. -/
theorem run_writes (c : Scene) (writes : List Write) :
    run p e r c (writes.map .write) = { c with store := c.store.after writes } := by
  induction writes generalizing c with
  | nil => rfl
  | cons w writes ih => exact ih (step p e r c (.write w))

/-- A search that has its answer keeps it. -/
theorem stage_run_of_answered {c : Scene} {x : Execution} (h : c.stage = .answered x)
    (actions : List Action) : (run p e r c actions).stage = .answered x := by
  induction actions generalizing c with
  | nil => exact h
  | cons a actions ih =>
    refine ih (c := step p e r c a) ?_
    cases a with
    | write w => exact h
    | call => rw [step, h, Stage.next]

/-- A search ends as it does over a backend that counts in the state at its first call and fetches
in the state at its second. -/
theorem stage_run (s : Store) (before between : List Write) (rest : List Action) :
    (run p e r ⟨s, .begun⟩
        (before.map .write ++ .call :: (between.map .write ++ .call :: rest))).stage
      = .answered (((s.after before).backend.straddling
          ((s.after before).after between).backend).execute p e r) := by
  rw [run_append, run_writes]
  show (run p e r (step p e r ⟨s.after before, .begun⟩ .call) _).stage = _
  rw [run_append, run_writes]
  refine stage_run_of_answered p e r ?_ rest
  exact next_next_begun rfl

end Scene

/-- A schedule with a call in it is some writes, the call, and the rest. -/
theorem exists_first_call {actions : List Action} (h : 0 < actions.countP Action.isCall) :
    ∃ (before : List Write) (rest : List Action), actions = before.map .write ++ .call :: rest
      ∧ actions.countP Action.isCall = rest.countP Action.isCall + 1 := by
  induction actions with
  | nil => cases h
  | cons a actions ih =>
    cases a with
    | call => exact ⟨[], actions, rfl, List.countP_cons_of_pos rfl⟩
    | write w =>
      have hcount : (Action.write w :: actions).countP Action.isCall
          = actions.countP Action.isCall := List.countP_cons_of_neg nofun
      rw [hcount] at h ⊢
      obtain ⟨before, rest, rfl, hrest⟩ := ih h
      exact ⟨w :: before, rest, rfl, hrest⟩

/-- A run with two calls or more is cut at the first two of them. -/
theorem exists_two_calls {actions : List Action} (h : 2 ≤ actions.countP Action.isCall) :
    ∃ (before between : List Write) (rest : List Action),
      actions = before.map .write ++ .call :: (between.map .write ++ .call :: rest) := by
  obtain ⟨before, later, rfl, hcount⟩ := exists_first_call (Nat.lt_of_succ_lt h)
  obtain ⟨between, rest, rfl, -⟩ := exists_first_call (show 0 < later.countP Action.isCall by omega)
  exact ⟨before, between, rest, rfl⟩

/-! ## Pages of two states -/

section Pages

variable {s₁ s₂ t : Store} {p : Plan} {e : Entity} {r : PageRequest} {page : Page}

/-- The rows on the page of a request, of those that a search of the store lists. -/
def Store.slice (s : Store) (e : Entity) (p : Plan) (r : PageRequest) : List Json :=
  ((s.listing e p).drop r.offset).take (max r.perPage 1)

/-- The page that counts the rows of the one state and shows those of the other, if there are any
to be fetched. -/
def Page.ofStates (s₁ s₂ : Store) (e : Entity) (p : Plan) (r : PageRequest) : Page :=
  Page.new (if (s₁.listing e p).length ≤ r.offset then [] else s₂.slice e p r)
    (s₁.listing e p).length r

/-- A page tells the rows and the total that it was made of. -/
theorem Page.new_inj {rows rows' : List Json} {total total' : Nat} :
    Page.new rows total r = Page.new rows' total' r ↔ rows = rows' ∧ total = total' := by
  constructor
  · intro h
    exact ⟨congrArg Page.data h, congrArg Page.total h⟩
  · rintro ⟨rfl, rfl⟩
    rfl

/-- A search over two states that work makes the page of both. -/
theorem result_straddling (h₁ : s₁.broken = false) (h₂ : s₂.broken = false)
    (hp : p.largePattern? = none) (r : PageRequest) :
    ((s₁.backend.straddling s₂.backend).execute p e r).result
      = .ok (Page.ofStates s₁ s₂ e p r) := by
  have hcount : (s₁.backend.straddling s₂.backend).count (.resolve e p)
      = .ok (s₁.listing e p).length := by
    rw [Store.length_listing]
    exact Store.count_resolve h₁ hp
  have hfetch : (s₁.backend.straddling s₂.backend).fetch (.resolve e p) r.window
      = .ok (((s₂.selection e p).drop r.offset).take (max r.perPage 1)) :=
    Store.fetch_resolve h₂ hp r.window
  rcases Nat.lt_or_ge r.offset (s₁.listing e p).length with hw | hw
  · rw [Backend.execute_of_fetch hcount hw hfetch, Page.ofStates, if_neg (Nat.not_le.mpr hw)]
    simp [Backend.finished, Store.slice, Store.listing]
  · rw [Backend.execute_of_past_end hcount hw, Page.ofStates, if_pos hw]
    rfl

/-- A store that is broken, or a plan that it cannot build, has no rows counted. -/
theorem Store.count_eq_error {s : Store} {q : Query}
    (h : ¬ (s.broken = false ∧ q.plan.largePattern? = none)) : ∃ err, s.count q = .error err := by
  unfold count matching
  cases hq : q.plan.largePattern? with
  | some pattern => exact ⟨_, rfl⟩
  | none =>
    have hs : s.broken = true := by simpa [hq] using h
    exact ⟨_, by simp [access, hs, bind, Except.bind, Except.map]; rfl⟩

/-- A search of one state is one whose calls both see it. -/
theorem result_execute_eq_ofStates (ht : t.broken = false) (hp : p.largePattern? = none)
    (r : PageRequest) : (t.backend.execute p e r).result = .ok (Page.ofStates t t e p r) :=
  result_straddling ht ht hp r

/-- It fails only where a search over one state would. -/
theorem exists_result_straddling_iff (hbroken : s₂.broken = s₁.broken) :
    (∃ page, ((s₁.backend.straddling s₂.backend).execute p e r).result = .ok page)
      ↔ s₁.broken = false ∧ p.largePattern? = none := by
  constructor
  · rintro ⟨page, hpage⟩
    by_contra hno
    obtain ⟨err, herr⟩ := Store.count_eq_error (q := .resolve e p) hno
    rw [Backend.execute_of_count_error (b := s₁.backend.straddling s₂.backend) herr] at hpage
    cases hpage
  · rintro ⟨h₁, hp⟩
    exact ⟨_, result_straddling h₁ (hbroken.trans h₁) hp r⟩

/-- Of which states a page is that counts the rows of one state and shows those of another. -/
theorem result_execute_eq_iff (ht : t.broken = false) (hp : p.largePattern? = none) :
    (t.backend.execute p e r).result = .ok (Page.ofStates s₁ s₂ e p r)
      ↔ (t.listing e p).length = (s₁.listing e p).length
        ∧ (r.offset < (s₁.listing e p).length → t.slice e p r = s₂.slice e p r) := by
  rw [result_execute_eq_ofStates ht hp, Except.ok.injEq, Page.ofStates, Page.ofStates,
    Page.new_inj, and_comm]
  apply and_congr_right
  intro hlength
  rw [hlength]
  -- Behind the last row the page is empty in either state.
  split
  · next hpast => exact iff_of_true rfl fun hw => absurd hpast (Nat.not_le.mpr hw)
  · next hw => exact ⟨fun h _ => h, fun h => h (Nat.not_le.mp hw)⟩

/-- A listing depends on one table only. -/
theorem Store.listing_congr {s t : Store} (h : s.rows e.table = t.rows e.table) :
    s.listing e p = t.listing e p := by
  unfold listing selection
  rw [h]

/-- A page is full unless the listing ends on it or before it. -/
theorem length_slice (s : Store) : (s.slice e p r).length
    = min (max r.perPage 1) ((s.listing e p).length - r.offset) := by
  rw [Store.slice, List.length_take, List.length_drop]

/-- A page shows no more rows than it counts, unless there are more of them once it fetches. -/
theorem length_data_le_total (h : (s₂.listing e p).length ≤ (s₁.listing e p).length) :
    (Page.ofStates s₁ s₂ e p r).data.length ≤ (Page.ofStates s₁ s₂ e p r).total := by
  show (if (s₁.listing e p).length ≤ r.offset then [] else s₂.slice e p r).length
    ≤ (s₁.listing e p).length
  split
  · exact Nat.zero_le _
  · rw [length_slice]
    omega

/-- The place of the last row on a page is past the total exactly if the page was the last one when
the rows were counted and there are more of them to show when they are fetched. -/
theorem to?_exceeds_iff : (∃ n, (Page.ofStates s₁ s₂ e p r).to? = some n
      ∧ (Page.ofStates s₁ s₂ e p r).total < n)
    ↔ r.offset < (s₁.listing e p).length
      ∧ (s₁.listing e p).length < min (r.offset + max r.perPage 1) (s₂.listing e p).length := by
  have hlength := length_slice (e := e) (p := p) (r := r) s₂
  unfold Page.ofStates
  split
  · next hpast => simp [Page.new, Nat.not_lt.mpr hpast]
  · next hw =>
    cases hslice : s₂.slice e p r with
    -- An empty page has no last row to number.
    | nil =>
      rw [hslice] at hlength
      simp only [Page.new, List.isEmpty_nil, if_true]
      constructor
      · rintro ⟨n, hn, -⟩
        cases hn
      · rintro ⟨-, hlt⟩
        simp at hlength
        omega
    | cons row rows =>
      rw [hslice] at hlength
      simp only [Page.new, List.isEmpty_cons, Bool.false_eq_true, if_false, Option.some.injEq,
        exists_eq_left']
      omega

end Pages

/-- **A page may straddle two states of the store.** Whatever other clients write, a search whose
two calls are made ends as it does over a backend that counts in the state at the first call and
fetches in the state at the second; with a page, unless the store is broken or a pattern is too
large. The page has the total of the first state and the rows of the second.

It is the page of every state that has as many rows to list and the same ones in the place of the
page, and of no other. So it is the page of the first state if nobody writes to the entity's table
in between, and that of the second if the number of rows is the same in both. It shows more rows
than its total, or a last row past its total, only if there are more rows in the second state. -/
theorem search_straddles_writes {actions : List Action}
    (hcalls : 2 ≤ actions.countP Action.isCall) (s : Store) (p : Plan) (e : Entity)
    (r : PageRequest) :
    ∃ (x : Execution) (before between : List Write) (rest : List Action) (s₁ s₂ : Store),
      actions = before.map .write ++ .call :: (between.map .write ++ .call :: rest)
        ∧ s₁ = s.after before ∧ s₂ = s₁.after between
        ∧ (Scene.run p e r ⟨s, .begun⟩ actions).stage = .answered x
        ∧ ((∃ page, x.result = .ok page) ↔ s.broken = false ∧ p.largePattern? = none)
        ∧ ∀ page, x.result = .ok page →
          page = Page.ofStates s₁ s₂ e p r
          ∧ (∀ t : Store, t.broken = false → ((t.backend.execute p e r).result = .ok page
            ↔ (t.listing e p).length = (s₁.listing e p).length
              ∧ (r.offset < (s₁.listing e p).length → t.slice e p r = s₂.slice e p r)))
          ∧ ((∀ w ∈ between, w.table ≠ e.table) → (s₁.backend.execute p e r).result = .ok page)
          ∧ ((s₂.listing e p).length = (s₁.listing e p).length →
            (s₂.backend.execute p e r).result = .ok page)
          ∧ ((s₂.listing e p).length ≤ (s₁.listing e p).length → page.data.length ≤ page.total)
          ∧ ((∃ n, page.to? = some n ∧ page.total < n) ↔ r.offset < (s₁.listing e p).length
            ∧ (s₁.listing e p).length
              < min (r.offset + max r.perPage 1) (s₂.listing e p).length) := by
  obtain ⟨before, between, rest, rfl⟩ := exists_two_calls hcalls
  have hstage := Scene.stage_run p e r s before between rest
  have hbroken₁ := Store.broken_after s before
  have hbroken₂ := Store.broken_after (s.after before) between
  have hiff := exists_result_straddling_iff (p := p) (e := e) (r := r) hbroken₂
  refine ⟨_, before, between, rest, _, _, rfl, rfl, rfl, hstage, hbroken₁ ▸ hiff, ?_⟩
  intro page hpage
  -- A page is there, so both states work and all that is left is the page of both.
  obtain ⟨h₁, hp⟩ := hiff.mp ⟨page, hpage⟩
  have h₂ := hbroken₂.trans h₁
  rw [result_straddling h₁ h₂ hp] at hpage
  obtain rfl := Except.ok.inj hpage
  refine ⟨rfl, fun t ht => result_execute_eq_iff ht hp, ?_, ?_, length_data_le_total,
    to?_exceeds_iff⟩
  · intro helsewhere
    have hlisting := Store.listing_congr (p := p)
      (Store.rows_after_of_ne helsewhere (s.after before))
    refine (result_execute_eq_iff h₁ hp).mpr ⟨rfl, fun _ => ?_⟩
    rw [Store.slice, Store.slice, hlisting]
  · intro hlength
    exact (result_execute_eq_iff h₂ hp).mpr ⟨hlength, fun _ => rfl⟩

/-! ### A second user -/

namespace Sample

def lone : Store := Store.empty.insertRows "users" [row (integer 1) "Ann" (integer 30)]

def joining : Write := .insert "users" (row (integer 2) "Max" (integer 30))

def firstTen : PageRequest := ⟨1, 10, "/users"⟩

theorem length_listing_lone : (lone.listing users Plan.empty).length = 1 := by
  rw [Store.length_listing, Store.selection, (sortRows_perm _ _).length_eq]
  decide +kernel

theorem length_listing_joined : ((lone.after [joining]).listing users Plan.empty).length = 2 := by
  rw [Store.length_listing, Store.selection, (sortRows_perm _ _).length_eq]
  decide +kernel

def straddlingPage : Page := Page.ofStates lone (lone.after [joining]) users Plan.empty firstTen

theorem total_straddlingPage : straddlingPage.total = 1 := length_listing_lone

theorem length_data_straddlingPage : straddlingPage.data.length = 2 := by
  show (if _ then [] else _ : List Json).length = 2
  rw [if_neg (by rw [length_listing_lone]; decide), length_slice, length_listing_joined]
  rfl

theorem to?_straddlingPage : straddlingPage.to? = some 2 := by
  have hto : straddlingPage.to? = if straddlingPage.data.isEmpty then none
    else some (firstTen.offset + straddlingPage.data.length) := rfl
  have hne : ¬ straddlingPage.data.isEmpty = true := by
    rw [List.isEmpty_iff_length_eq_zero, length_data_straddlingPage]
    decide
  rw [hto, if_neg hne, length_data_straddlingPage]
  rfl

/-- A user who joins between the two calls is on the page, but not in its total. No store at all
has such a page. -/
theorem joining_user_not_counted :
    ∃ x page, (Scene.run Plan.empty users firstTen ⟨lone, .begun⟩
        [.call, .write joining, .call]).stage = .answered x
      ∧ x.result = .ok page ∧ page.total = 1 ∧ page.data.length = 2 ∧ page.to? = some 2
      ∧ ∀ t : Store, (t.backend.execute Plan.empty users firstTen).result ≠ .ok page := by
  refine ⟨_, straddlingPage, Scene.stage_run Plan.empty users firstTen lone [] [joining] [],
    result_straddling rfl rfl rfl firstTen, total_straddlingPage, length_data_straddlingPage,
    to?_straddlingPage, ?_⟩
  intro t ht
  obtain ⟨hunbroken, -⟩ := (exists_result_straddling_iff (rfl : t.broken = t.broken)).mp ⟨_, ht⟩
  rw [result_execute_eq_ofStates hunbroken rfl] at ht
  -- The page of a single state shows no more rows than it counts.
  have hle := length_data_le_total (e := users) (p := Plan.empty) (r := firstTen)
    (Nat.le_refl (t.listing users Plan.empty).length)
  rw [Except.ok.inj ht, length_data_straddlingPage, total_straddlingPage] at hle
  omega

/-- A user who joins before the first call is counted and shown. That the guests are written to
between the calls makes no difference. -/
theorem joined_user_counted :
    2 ≤ [Action.write joining, .call, .write (.clear "guests"), .call].countP Action.isCall
      ∧ ∃ x page, (Scene.run Plan.empty users firstTen ⟨lone, .begun⟩
          [.write joining, .call, .write (.clear "guests"), .call]).stage = .answered x
        ∧ x.result = .ok page ∧ page.total = 2
        ∧ ((lone.after [joining]).backend.execute Plan.empty users firstTen).result = .ok page := by
  have hcalls : 2 ≤ [Action.write joining, .call, .write (.clear "guests"), .call].countP
      Action.isCall := by decide
  obtain ⟨x, before, between, rest, s₁, s₂, hactions, rfl, rfl, hstage, hiff, hpages⟩ :=
    search_straddles_writes hcalls lone Plan.empty users firstTen
  obtain ⟨page, hpage⟩ := hiff.mpr ⟨rfl, rfl⟩
  obtain ⟨rfl, -, helsewhere, -⟩ := hpages page hpage
  -- The schedule says which writes come before the first call and which between the two.
  obtain rfl : before = [joining] := by
    rcases before with _ | ⟨w, _ | ⟨w', before⟩⟩ <;> simp_all
  obtain rfl : between = [.clear "guests"] := by
    rcases between with _ | ⟨w, _ | ⟨w', between⟩⟩ <;> simp_all
  refine ⟨hcalls, x, _, hstage, hpage, length_listing_joined, helsewhere ?_⟩
  intro w hw
  obtain rfl := List.mem_singleton.mp hw
  decide

end Sample

end Sift
