import Mathlib.Data.List.DropRight
import Mathlib.Data.List.Induction
import Sift.Proofs.Search.Interleaving

/-!
# What a store remembers

Clients use a store one after the other: they write to its tables and ask about them. What a table
holds follows from what was done to it since it was last cleared (`rowsSince`), whatever was done to
other tables and whatever was asked in the meantime.

A writer may fail while its rows are being added. It leaves behind those that were added before it
failed, and a store that refuses everybody from then on.

Main statement: `store_follows_uses`.
-/

namespace Sift

/-! ## Uses of a store -/

inductive Question where
  | size (table : String)
  | count (q : Query)
  | fetch (q : Query) (w : Window)

inductive Use where
  | write (w : Write)
  /-- Adds rows until the next one cannot be had, and fails. -/
  | interrupted (table : String) (added : List Json)
  | ask (x : Question)

inductive Outcome where
  | written
  /-- The client has failed. -/
  | failed
  | number (n : Nat)
  | rows (rows : List Json)

def Question.answer (s : Store) : Question → Except StorageError Outcome
  | .size table => (s.size table).map .number
  | .count q => (s.count q).map .number
  | .fetch q w => (s.fetch q w).map .rows

def Question.query? : Question → Option Query
  | .size _ => none
  | .count q => some q
  | .fetch q _ => some q

namespace Use

/-- Lets a store be used: what comes of it, and the store afterwards. -/
def attempt (s : Store) : Use → Except StorageError (Outcome × Store)
  | .write w => (w.attempt s).map fun t => (.written, t)
  | .interrupted table added => (s.insertInterrupted table added).map fun t => (.failed, t)
  | .ask x => (x.answer s).map fun y => (y, s)

def Fails : Use → Prop
  | .interrupted .. => True
  | _ => False

def target? : Use → Option String
  | .write w => some w.table
  | .interrupted table _ => some table
  | .ask _ => none

def clears (table : String) : Use → Bool
  | .write (.clear t) => t == table
  | _ => false

def rowsFor (table : String) : Use → List Json
  | .write (.insert t row) => if t = table then [row] else []
  | .write (.insertMany t more) => if t = table then more else []
  | .interrupted t added => if t = table then added else []
  | _ => []

/-- A use of another table says nothing about this one. -/
theorem of_target?_ne {u : Use} {table : String} (h : u.target? ≠ some table) :
    u.clears table = false ∧ u.rowsFor table = [] := by
  cases u with
  | write w =>
    have hne : w.table ≠ table := fun hw => h (congrArg some hw)
    cases w <;> simp_all [clears, rowsFor, Write.table]
  | interrupted t added => exact ⟨rfl, if_neg fun ht => h (congrArg some ht)⟩
  | ask x => exact ⟨rfl, rfl⟩

end Use

namespace Store

def outcome (s : Store) (u : Use) : Except StorageError Outcome := (u.attempt s).map Prod.fst

/-- The store after a use. One that is refused changes nothing. -/
def used (s : Store) (u : Use) : Store := ((u.attempt s).toOption.map Prod.snd).getD s

def usedBy (s : Store) (uses : List Use) : Store := uses.foldl used s

/-- Nobody gets anything into the store or out of it. The client is told that it is unavailable,
unless it asks for a pattern that is too large to be built anyway. -/
structure Refuses (s : Store) (u : Use) : Prop where
  error : ∃ e, s.outcome u = .error e
  unavailable : (∀ x q, u = .ask x → x.query? = some q → q.plan.largePattern? = none) →
    ∃ message, s.outcome u = .error (.unavailable name message)

/-- The store holds the rows, and tells its clients so. -/
structure Holds (s : Store) (rows : String → List Json) : Prop where
  rows_eq : ∀ table, s.rows table = rows table
  written : ∀ w, s.outcome (.write w) = .ok .written
  size : ∀ table, s.outcome (.ask (.size table)) = .ok (.number (rows table).length)
  count : ∀ q, q.plan.largePattern? = none →
    s.outcome (.ask (.count q)) = .ok (.number ((rows q.entity.table).filter q.selects).length)
  fetch : ∀ q w, q.plan.largePattern? = none →
    s.outcome (.ask (.fetch q w))
      = .ok (.rows (((sortRows q.sort ((rows q.entity.table).filter q.selects)).drop
        w.offset).take w.limit))

end Store

/-- The rows that were added to a table since it was last cleared, in the order in which they were
added. -/
def rowsSince (table : String) (uses : List Use) : List Json :=
  (uses.rtakeWhile fun u => !u.clears table).flatMap (Use.rowsFor table)

/-- One use more clears the rows or adds its own. -/
theorem rowsSince_concat (table : String) (uses : List Use) (u : Use) :
    rowsSince table (uses ++ [u])
      = if u.clears table then [] else rowsSince table uses ++ u.rowsFor table := by
  unfold rowsSince
  rw [List.rtakeWhile_concat]
  cases u.clears table with
  | true => rfl
  | false =>
    show (uses.rtakeWhile (fun u => !u.clears table) ++ [u]).flatMap _ = _
    rw [List.flatMap_append, List.flatMap_singleton]
    rfl

namespace Store

variable {s : Store} {u : Use} {table : String}

/-! ## What a client is told -/

theorem access_of_broken (h : s.broken = true) :
    ∃ message, s.access = .error (.unavailable name message) :=
  ⟨_, if_pos h⟩

theorem access_of_unbroken (h : s.broken = false) : s.access = .ok () := by
  unfold access
  rw [h]
  rfl

/-- A broken store matches no rows, for the pattern or else for the lock. -/
theorem matching_of_broken (h : s.broken = true) (q : Query) :
    (∃ e, s.matching q = .error e) ∧ (q.plan.largePattern? = none →
      ∃ message, s.matching q = .error (.unavailable name message)) := by
  obtain ⟨message, hmessage⟩ := access_of_broken h
  unfold matching
  cases q.plan.largePattern? with
  | some pattern => exact ⟨⟨_, rfl⟩, nofun⟩
  | none =>
    rw [hmessage]
    exact ⟨⟨_, rfl⟩, fun _ => ⟨message, rfl⟩⟩

theorem refuses_of_unavailable (message : String)
    (h : s.outcome u = .error (.unavailable name message)) : s.Refuses u :=
  ⟨⟨_, h⟩, fun _ => ⟨message, h⟩⟩

/-- A question that is answered from the rows that a query selects. -/
theorem refuses_of_matching {x : Question} {q : Query} (h : s.broken = true)
    (hquery : x.query? = some q)
    (hanswer : ∀ e, s.matching q = .error e → x.answer s = .error e) : s.Refuses (.ask x) := by
  have houtcome : ∀ e, s.matching q = .error e → s.outcome (.ask x) = .error e := by
    intro e he
    rw [outcome, Use.attempt, hanswer e he]
    rfl
  obtain ⟨⟨e, he⟩, hunavailable⟩ := matching_of_broken h q
  refine ⟨⟨e, houtcome e he⟩, fun hpattern => ?_⟩
  obtain ⟨message, hmessage⟩ := hunavailable (hpattern x q rfl hquery)
  exact ⟨message, houtcome _ hmessage⟩

/-- A broken store refuses every use. -/
theorem refuses_of_broken (h : s.broken = true) (u : Use) : s.Refuses u := by
  obtain ⟨message, hmessage⟩ := access_of_broken h
  -- Whoever does not ask for rows is stopped before anything else happens.
  have hstopped {α : Type} (f : Unit → Except StorageError α) :
      s.access >>= f = .error (.unavailable name message) := by
    rw [hmessage]
    rfl
  cases u with
  | write w =>
    have hattempt : w.attempt s = .error (.unavailable name message) := by
      cases w <;> exact hstopped _
    apply refuses_of_unavailable message
    rw [outcome, Use.attempt, hattempt]
    rfl
  | interrupted t added =>
    have hattempt : s.insertInterrupted t added = .error (.unavailable name message) := hstopped _
    apply refuses_of_unavailable message
    rw [outcome, Use.attempt, hattempt]
    rfl
  | ask x =>
    cases x with
    | size t =>
      have hsize : s.size t = .error (.unavailable name message) := hstopped _
      apply refuses_of_unavailable message
      rw [outcome, Use.attempt, Question.answer, hsize]
      rfl
    | count q =>
      apply refuses_of_matching h rfl
      intro e he
      rw [Question.answer, count, he]
      rfl
    | fetch q w =>
      apply refuses_of_matching h rfl
      intro e he
      rw [Question.answer, fetch, he]
      rfl

theorem holds_of_unbroken (h : s.broken = false) : s.Holds s.rows where
  rows_eq _ := rfl
  written w := by
    cases w <;>
      simp [outcome, Use.attempt, Write.attempt, insert, insertMany, clear, access_of_unbroken h,
        bind, Except.bind, pure, Except.pure, Except.map]
  size table := by
    simp [outcome, Use.attempt, Question.answer, size, access_of_unbroken h, bind, Except.bind,
      pure, Except.pure, Except.map]
  count q hq := by
    rw [outcome, Use.attempt, Question.answer, count_eq h hq]
    rfl
  fetch q w hq := by
    rw [outcome, Use.attempt, Question.answer, fetch_eq w h hq]
    rfl

/-! ## The store after a use -/

theorem used_of_broken (h : s.broken = true) (u : Use) : s.used u = s := by
  obtain ⟨e, he⟩ := (refuses_of_broken h u).error
  unfold outcome at he
  unfold used
  cases hattempt : u.attempt s with
  | error _ => rfl
  | ok x =>
    rw [hattempt] at he
    cases he

theorem used_write (s : Store) (w : Write) : s.used (.write w) = s.written w := by
  show (((w.attempt s).map fun t => (Outcome.written, t)).toOption.map Prod.snd).getD s = _
  unfold written
  cases w.attempt s <;> rfl

/-- A write that fails halfway leaves what it had done and breaks the store. -/
theorem used_interrupted (h : s.broken = false) (table : String) (added : List Json) :
    s.used (.interrupted table added) = { s.insertRows table added with broken := true } := by
  unfold used Use.attempt insertInterrupted
  rw [access_of_unbroken h]
  rfl

/-- Asking changes nothing. -/
theorem used_ask (s : Store) (x : Question) : s.used (.ask x) = s := by
  show (((x.answer s).map fun y => (y, s)).toOption.map Prod.snd).getD s = s
  cases x.answer s <;> rfl

/-- Nothing but a write that fails breaks a store. -/
theorem broken_used (h : ¬ u.Fails) (s : Store) : (s.used u).broken = s.broken := by
  cases u with
  | write w => rw [used_write, broken_written]
  | interrupted t added => exact absurd trivial h
  | ask x => rw [used_ask]

/-- What is done to one table leaves the rows of all others alone. -/
theorem rows_used_of_ne (h : u.target? ≠ some table) (s : Store) :
    (s.used u).rows table = s.rows table := by
  cases u with
  | write w =>
    rw [used_write]
    exact rows_written_of_ne (fun hw => h (congrArg some hw)) s
  | interrupted t added =>
    have hne : table ≠ t := fun ht => h (congrArg some ht.symm)
    cases hs : s.broken with
    | true => rw [used_of_broken hs]
    | false =>
      rw [used_interrupted hs]
      exact (rows_insertRows s t table added).trans (if_neg hne)
  | ask x => rw [used_ask]

/-- What a use does to the rows of a table. -/
theorem rows_used (h : s.broken = false) (u : Use) (table : String) :
    (s.used u).rows table
      = if u.clears table then [] else s.rows table ++ u.rowsFor table := by
  by_cases htarget : u.target? = some table
  · cases u with
    | write w =>
      obtain rfl : w.table = table := Option.some.inj htarget
      rw [used_write, written_eq, h, if_neg Bool.false_ne_true]
      cases w <;>
        simp [Write.apply, Write.table, Use.clears, Use.rowsFor, rows_insertRows, rows_dropTable]
    | interrupted t added =>
      obtain rfl : t = table := Option.some.inj htarget
      rw [used_interrupted h]
      show (s.insertRows t added).rows t = _
      simp [Use.clears, Use.rowsFor, rows_insertRows]
    | ask x => cases htarget
  · obtain ⟨hclears, hadded⟩ := Use.of_target?_ne htarget
    rw [rows_used_of_ne htarget, hclears, hadded, if_neg Bool.false_ne_true, List.append_nil]

/-! ## All uses -/

theorem usedBy_concat (s : Store) (uses : List Use) (u : Use) :
    s.usedBy (uses ++ [u]) = (s.usedBy uses).used u := by
  simp [usedBy]

theorem usedBy_of_broken (h : s.broken = true) (uses : List Use) : s.usedBy uses = s := by
  induction uses with
  | nil => rfl
  | cons u uses ih =>
    show (s.used u).usedBy uses = s
    rw [used_of_broken h, ih]

/-- A store stays whole as long as nobody fails. -/
theorem broken_usedBy {uses : List Use} (h : ∀ u ∈ uses, ¬ u.Fails) (s : Store) :
    (s.usedBy uses).broken = s.broken := by
  induction uses generalizing s with
  | nil => rfl
  | cons u uses ih =>
    obtain ⟨hu, huses⟩ := List.forall_mem_cons.mp h
    exact (ih huses (s.used u)).trans (broken_used hu s)

/-- Without failures, a table holds what was inserted since it was last cleared. -/
theorem rows_usedBy {uses : List Use} (h : ∀ u ∈ uses, ¬ u.Fails) (table : String) :
    (empty.usedBy uses).rows table = rowsSince table uses := by
  -- From the right: a use finds the rows as all the uses before it left them.
  induction uses using List.reverseRecOn with
  | nil => rfl
  | append_singleton uses u ih =>
    have huses : ∀ u ∈ uses, ¬ u.Fails := fun u hu => h u (List.mem_append_left _ hu)
    rw [usedBy_concat, rows_used (broken_usedBy huses empty), ih huses, rowsSince_concat]

/-- **A store follows its uses.** Let a new store be used any number of times without a client
failing. It holds, in every table, the rows that were added since the table was last cleared, in
the order in which they were added, and tells its clients so. Whatever is done to one table leaves
the rows of all others as they are, and whatever is asked leaves the whole store as it is.

Let a client then fail while it adds rows. Those added before it failed are kept. From then on
nothing changes any more, whatever is attempted, and everybody is refused. -/
theorem store_follows_uses {uses : List Use} (h : ∀ u ∈ uses, ¬ u.Fails) :
    (empty.usedBy uses).Holds (fun table => rowsSince table uses)
      ∧ (∀ u table, u.target? ≠ some table →
        (empty.usedBy (uses ++ [u])).rows table = (empty.usedBy uses).rows table)
      ∧ (∀ x, empty.usedBy (uses ++ [.ask x]) = empty.usedBy uses)
      ∧ ∀ table added later,
        (∀ other, (empty.usedBy (uses ++ .interrupted table added :: later)).rows other
          = rowsSince other (uses ++ [.interrupted table added]))
        ∧ ∀ u, (empty.usedBy (uses ++ .interrupted table added :: later)).Refuses u := by
  have hwhole : (empty.usedBy uses).broken = false := broken_usedBy h empty
  have hrows : (empty.usedBy uses).rows = fun table => rowsSince table uses :=
    funext (rows_usedBy h)
  refine ⟨hrows ▸ holds_of_unbroken hwhole, fun u table hne => ?_, fun x => ?_,
    fun table added later => ?_⟩
  · rw [usedBy_concat, rows_used_of_ne hne]
  · rw [usedBy_concat, used_ask]
  · have hbroken : ((empty.usedBy uses).used (.interrupted table added)).broken = true := by
      rw [used_interrupted hwhole]
    -- Whatever comes after the failure finds the store broken and leaves it so.
    have hlater : empty.usedBy (uses ++ .interrupted table added :: later)
        = (empty.usedBy uses).used (.interrupted table added) := by
      rw [List.append_cons, usedBy, List.foldl_append]
      show (empty.usedBy (uses ++ [_])).usedBy later = _
      rw [usedBy_concat, usedBy_of_broken hbroken]
    rw [hlater]
    refine ⟨fun other => ?_, fun u => refuses_of_broken hbroken u⟩
    rw [rows_used hwhole, rows_usedBy h, rowsSince_concat]

end Store

/-! ### Guests who never finish to arrive -/

namespace Sample

def visits : List Use :=
  [.write (.insertMany "users" [row (integer 1) "Ann" (integer 30)]),
    .write (.insert "guests" .null), .write (.clear "users"), .ask (.size "users"),
    .write (.insert "users" (row (integer 1) "Ann" (integer 31)))]

theorem guests_never_arrive :
    (∀ u ∈ visits, ¬ u.Fails)
      ∧ (Store.empty.usedBy visits).outcome (.ask (.size "users")) = .ok (.number 1)
      ∧ (Store.empty.usedBy (visits ++ [.interrupted "guests" [.null]])).Refuses
        (.ask (.size "users")) := by
  have hnobody : ∀ u ∈ visits, ¬ u.Fails := by simp [visits, Use.Fails]
  obtain ⟨hholds, -, -, hfailed⟩ := Store.store_follows_uses hnobody
  exact ⟨hnobody, hholds.size "users", (hfailed "guests" [.null] []).2 _⟩

end Sample

end Sift
