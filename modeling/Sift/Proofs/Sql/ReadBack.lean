import Sift.Proofs.Compile.WellFormed
import Sift.Proofs.Sql.Requirement

/-!
# Statements read back

What the database makes of the statements of a compiled plan: the condition that it reads between
`WHERE` and the rest is the formula of the query, with each of its requirements as one test. No name
of a table or a column can change that, since a name is one token whatever it holds, and neither can
the type of a column if it is plain.

Most tests consist of items that a condition is not divided at, so they are read as they stand. Only
a range has an `AND` of its own (`solid_between`).

Main statement: `statements_read_back`.
-/

namespace Sift

open List (Forall₂)

namespace Sql

variable {types : ColumnTypes}

/-! ## Reading terms -/

/-- An operand is read back at the front of items, whatever follows. -/
theorem primaryTerm?_operand {o : Operand} (h : o.IsPlain) (rest : List Item) :
    primaryTerm? (o.items ++ rest) = some (o.term, rest) := by
  cases o with
  | null => rfl
  | bound p => rfl
  | cast p type =>
    show some (Term.cast (.param p) (tokensOf (typeItems type)), rest) = _
    rw [(tokensOf_typeItems h).1]
    rfl

/-- A term with no cast behind it. -/
theorem term?_of_primaryTerm? {items rest : List Item} {t : Term}
    (h : primaryTerm? items = some (t, rest)) (hrest : ∀ r, rest ≠ .token (.symbol "::") :: r) :
    term? items = some (t, rest) := by
  unfold term?
  rw [h]
  split
  · next heq => cases heq; exact absurd rfl (hrest _)
  · rfl

theorem wholeTerm?_operand {o : Operand} (h : o.IsPlain) : wholeTerm? o.items = some o.term := by
  have hterm : term? o.items = some (o.term, []) := by
    apply term?_of_primaryTerm?
    · simpa using primaryTerm?_operand h []
    · simp
  rw [wholeTerm?, hterm]

/-! ## Reading tests -/

/-- The item is none of the words that a condition is divided at. -/
def Item.IsOrdinary (i : Item) : Prop :=
  ∀ w ∈ ["and", "between", "or", "order", "limit"], i.isWord w = false

/-- Ordinary items do not end a conjunct. -/
theorem conjuncts_ordinary {b : Bool} {items : List Item} (h : ∀ i ∈ items, i.IsOrdinary)
    (rest : List Item) :
    conjuncts b (items ++ rest) = (conjuncts b rest).modifyHead (items ++ ·) :=
  conjuncts_append (fun i hi => ⟨h i hi "and" (by simp), h i hi "between" (by simp)⟩) rest

theorem inside_of_isOrdinary {i : Item} (h : i.IsOrdinary) :
    i.isWord "or" = false ∧ i.endsCondition = false := by
  have horder : i.isWord "order" = false := h "order" (by simp)
  have hlimit : i.isWord "limit" = false := h "limit" (by simp)
  exact ⟨h "or" (by simp), by simp [Item.endsCondition, horder, hlimit]⟩

/-- A test without `BETWEEN`. -/
theorem readsAs_atom {t : Token Param} {rest : List Item} {a : Atom}
    (h : ∀ i ∈ Item.token t :: rest, i.IsOrdinary) (ha : atom? (.token t :: rest) = some a) :
    ReadsAs (.token t :: rest) (.atom a) where
  solid := conjuncts_ordinary h
  inside := fun i hi => inside_of_isOrdinary (h i hi)
  reads := by
    rw [primary?, ha]
    · rfl
    · simp

theorem isOrdinary_column (field : String) : ∀ i ∈ columnItems field, i.IsOrdinary := by
  simp [columnItems, Item.IsOrdinary, Item.isWord]

theorem isOrdinary_operand (o : Operand) : ∀ i ∈ o.items, i.IsOrdinary := by
  cases o <;> simp [Operand.items, Item.IsOrdinary, Item.isWord, Item.ofGroup]

theorem atom?_compare {items : List Item} {t : Term} {op : Operator} {o : Operand}
    (hop : op ≠ .like) (ho : o.IsPlain)
    (h : primaryTerm? items = some (t, .token (operatorToken op) :: o.items)) :
    atom? items = some (.compare op t o.term) := by
  have hterm : term? items = some (t, .token (operatorToken op) :: o.items) := by
    -- No operator is written as two colons, so there is no cast here.
    apply term?_of_primaryTerm? h
    intro r
    cases op <;> simp [operatorToken, Operator.sql, Operator.text]
  unfold atom?
  rw [hterm]
  cases op with
  | like => exact absurd rfl hop
  | _ => simp [operatorToken, Operator.sql, Operator.text, operatorOf?, wholeTerm?_operand ho]

theorem isOrdinary_operator (op : Operator) : (Item.token (operatorToken op)).IsOrdinary := by
  cases op <;> simp [operatorToken, Item.IsOrdinary, Item.isWord]

theorem readsAs_isNull (field : String) :
    ReadsAs (Test.isNull field).items (.atom (.isNull (.column field))) := by
  apply readsAs_atom _ rfl
  simp [Item.IsOrdinary, Item.isWord]

theorem readsAs_notNull (field : String) :
    ReadsAs (Test.notNull field).items (.atom (.notNull (.column field))) := by
  apply readsAs_atom _ rfl
  simp [Item.IsOrdinary, Item.isWord]

theorem readsAs_compare {field : String} {op : Operator} {o : Operand} (hop : op ≠ .like)
    (ho : o.IsPlain) :
    ReadsAs (Test.compare field op o).items (.atom (.compare op (.column field) o.term)) := by
  apply readsAs_atom
  · show ∀ i ∈ columnItems field ++ .token (operatorToken op) :: o.items, i.IsOrdinary
    rw [List.forall_mem_append, List.forall_mem_cons]
    exact ⟨isOrdinary_column field, isOrdinary_operator op, isOrdinary_operand o⟩
  · exact atom?_compare hop ho rfl

/-- A match of a column is read back as one of its text. -/
theorem readsAs_like {field : String} {o : Operand} (ho : o.IsPlain) :
    ReadsAs (Test.like field o).items
      (.atom (.like (.cast (.column field) [.word "text"]) o.term)) := by
  apply readsAs_atom
  · show ∀ i ∈ columnItems field ++ .token (.symbol "::") :: .token (.word "text")
      :: .token (.word "ilike") :: o.items, i.IsOrdinary
    simp only [List.forall_mem_append, List.forall_mem_cons]
    refine ⟨isOrdinary_column field, ?_, ?_, ?_, isOrdinary_operand o⟩ <;>
      simp [Item.IsOrdinary, Item.isWord]
  · show (wholeTerm? o.items).map (Atom.like _) = _
    rw [wholeTerm?_operand ho]
    rfl

theorem readsAs_compareDay {field : String} {op : Operator} (day : Date) (hop : op ≠ .like) :
    ReadsAs (Test.compareDay field op day).items
      (.atom (.compare op (dayTerm field) (.param (.date day)))) := by
  apply readsAs_atom
  · show ∀ i ∈ dayItems field ++ [.token (operatorToken op), .token (.operand (.date day))],
      i.IsOrdinary
    simp only [List.forall_mem_append, List.forall_mem_cons]
    refine ⟨?_, isOrdinary_operator op, ?_, ?_⟩ <;>
      simp [dayItems, Item.ofGroup, Item.IsOrdinary, Item.isWord]
  · exact atom?_compare (o := .bound (.date day)) hop trivial rfl

theorem readsAs_likeDay (field pattern : String) :
    ReadsAs (Test.likeDay field pattern).items
      (.atom (.like (.cast (dayTerm field) [.word "text"]) (.param (.text pattern)))) := by
  apply readsAs_atom _ rfl
  simp [Item.ofGroup, Item.IsOrdinary, Item.isWord]

/-- The `AND` of a `BETWEEN` does not divide it. -/
theorem solid_between (b : Between) : Solid b.items := by
  intro rest
  have hitems : b.items ++ rest = columnItems b.field ++ .token (.word "between")
      :: (b.low.items ++ .token (.word "and") :: (b.high.items ++ rest)) := by
    simp [Between.items]
  have hbetween : ∀ r, conjuncts false (.token (.word "between") :: r)
      = (conjuncts true r).modifyHead (.token (.word "between") :: ·) := fun _ => rfl
  have hand : ∀ r, conjuncts true (.token (.word "and") :: r)
      = (conjuncts false r).modifyHead (.token (.word "and") :: ·) := fun _ => rfl
  -- From the `BETWEEN` on the reader waits for an `AND`, which the lower bound does not have.
  rw [hitems, conjuncts_ordinary (isOrdinary_column b.field), hbetween,
    conjuncts_ordinary (isOrdinary_operand b.low), hand,
    conjuncts_ordinary (isOrdinary_operand b.high)]
  simp only [List.modifyHead_modifyHead, Between.items, List.append_assoc, List.cons_append,
    Function.comp_def]

/-- The `and` of a range is not taken for one between conjuncts. -/
theorem readsAs_between {b : Between} (hlow : b.low.IsPlain) (hhigh : b.high.IsPlain) :
    ReadsAs b.items (.atom (.between (.column b.field) b.low.term b.high.term)) where
  solid := solid_between b
  inside := by
    have hbetween : (Item.token (.word "between")).isWord "or" = false
        ∧ (Item.token (.word "between")).endsCondition = false := by decide
    have hand : (Item.token (.word "and")).isWord "or" = false
        ∧ (Item.token (.word "and")).endsCondition = false := by decide
    simp only [Between.items, List.forall_mem_append, List.forall_mem_cons]
    exact ⟨⟨fun i hi => inside_of_isOrdinary (isOrdinary_column _ i hi), hbetween,
      fun i hi => inside_of_isOrdinary (isOrdinary_operand _ i hi)⟩, hand,
      fun i hi => inside_of_isOrdinary (isOrdinary_operand _ i hi)⟩
  reads := by
    have hterm : term? (b.low.items ++ .token (.word "and") :: b.high.items)
        = some (b.low.term, .token (.word "and") :: b.high.items) := by
      apply term?_of_primaryTerm? (primaryTerm?_operand hlow _)
      simp
    have hcolumn : term? b.items = some (.column b.field, .token (.word "between")
        :: (b.low.items ++ .token (.word "and") :: b.high.items)) := by
      rw [Between.items, List.append_assoc, List.cons_append]
      rfl
    have hatom : atom? b.items = some (.between (.column b.field) b.low.term b.high.term) := by
      unfold atom?
      simp [hcolumn, hterm, wholeTerm?_operand hhigh]
    show (atom? b.items).map Formula.atom = _
    rw [hatom]
    rfl

/-- Several ranges are read back as their disjunction. -/
theorem readsAs_anyOf {b : Between} {bs : List Between}
    (h : ∀ x ∈ b :: bs, x.low.IsPlain ∧ x.high.IsPlain) :
    ReadsAs (Test.anyOf (b :: bs)).items
      (.chain .or (.atom (.between (.column b.field) b.low.term b.high.term))
        (bs.map fun x => .atom (.between (.column x.field) x.low.term x.high.term))) := by
  apply readsAs_ofGroup
  exact condition?_or (forall₂_map_map fun x hx => readsAs_between (h x hx).1 (h x hx).2)

/-! ## Reading the condition of a query -/

/-- A predicate is read back as the requirement that it makes. -/
theorem readsAs_predicate (htypes : types.IsPlain) (p : Predicate) :
    ReadsAs (Test.ofPredicate types p).items (.atom (Requirement.inSql types (.predicate p))) := by
  obtain ⟨field, op, value⟩ := p
  cases op with
  | like => exact readsAs_like (isPlain_plain value)
  | _ => exact readsAs_compare (by simp) (isPlain_against htypes field value)

theorem readsAs_date {p : DatePredicate} (h : (Test.ofDatePredicate p).IsDirect) :
    ReadsAs (Test.ofDatePredicate p).items (.atom (Requirement.inSql types (.date p))) := by
  obtain ⟨field, op, value⟩ := p
  cases value with
  | day day => exact readsAs_compareDay day h
  | pattern pattern => exact readsAs_likeDay field pattern

theorem readsAs_nullCheck (c : NullCheck) :
    ReadsAs (Test.ofNullCheck c).items (.atom (Requirement.inSql types (.nullCheck c))) := by
  obtain ⟨field, isNull⟩ := c
  cases isNull with
  | true => exact readsAs_isNull field
  | false => exact readsAs_notNull field

theorem readsAs_ranges (htypes : types.IsPlain) (r : RangeCheck) (rs : List RangeCheck) :
    ReadsAs (Test.anyOf ((r :: rs).map (Between.ofRange types))).items
      ((Formula.chain .or (.atom (.range r)) (rs.map fun r => .atom (.range r))).map
        (Requirement.inSql types)) := by
  have hplain : ∀ b ∈ (r :: rs).map (Between.ofRange types), b.low.IsPlain ∧ b.high.IsPlain := by
    intro b hb
    obtain ⟨r, -, rfl⟩ := List.mem_map.mp hb
    exact ⟨isPlain_against htypes _ _, isPlain_against htypes _ _⟩
  have hranges := readsAs_anyOf hplain
  rw [List.map_map] at hranges
  rw [Formula.map_chain fun _ _ => rfl, List.map_map]
  exact hranges

/-- Test by test, a query is read back as what it restricts. -/
theorem readsAs_tests (htypes : types.IsPlain) {q : Query}
    (h : ∀ t ∈ tests types q, t.IsDirect) :
    Forall₂ ReadsAs ((tests types q).map Test.items)
      (.atom (.notNull (.column q.entity.primaryKey))
        :: q.restrictions.map (·.map (Requirement.inSql types))) := by
  have hdirect : ∀ p ∈ q.plan.datePredicates, (Test.ofDatePredicate p).IsDirect := by
    intro p hp
    apply h
    simp only [tests, List.cons_append, List.mem_cons, List.mem_append, List.mem_map]
    exact .inr (.inl (.inl (.inr ⟨p, hp, rfl⟩)))
  unfold tests Query.restrictions
  simp only [List.cons_append, List.map_cons, List.map_append, List.map_map]
  refine .cons (readsAs_notNull _) (List.rel_append (List.rel_append (List.rel_append ?_ ?_) ?_) ?_)
  · exact forall₂_map_map fun p _ => readsAs_predicate htypes p
  · exact forall₂_map_map fun p hp => readsAs_date (hdirect p hp)
  · exact forall₂_map_map fun c _ => readsAs_nullCheck c
  -- Without ranges there is no test for them and no member of the formula.
  · cases q.plan.ranges with
    | nil => exact .nil
    | cons r rs => exact .cons (readsAs_ranges htypes r rs) .nil

/-- The items of a condition are read back as the formula of the query. -/
theorem condition?_conditionItems (htypes : types.IsPlain) {q : Query}
    (h : ∀ t ∈ tests types q, t.IsDirect) :
    condition? (conditionItems types q) = some (q.formula.map (Requirement.inSql types)) := by
  rw [Query.formula, Formula.map_chain fun _ _ => rfl]
  -- The items of a condition are those of the tests, joined by `and`.
  exact condition?_and (readsAs_tests htypes h)

/-! ## Statements -/

/-- A statement is read through its tokens, their nesting and the part behind `WHERE`. -/
theorem condition?_ofPieces {pieces : List Piece} {items body : List Item} {f : Formula Atom}
    (h : Spells pieces (tokensOf items)) (hbuilt : ∀ i ∈ items, i.Built)
    (hwhere : whereBody? items = some body) (hf : condition? body = some f) :
    (Statement.ofPieces pieces).condition? = some f := by
  have htokens : tokens? (Statement.ofPieces pieces).text.toList
      = some (number 1 (tokensOf items)) := h.text 1
  have hresolve : resolve (Statement.ofPieces pieces).params (number 1 (tokensOf items))
      = some (tokensOf items) := by
    show resolve (paramsOf pieces) _ = _
    rw [h.params]
    simpa using resolve_number [] (tokensOf items) []
  have hnest : nest? (tokensOf items) = some items := nest?_eq_some_iff.mpr ⟨rfl, hbuilt⟩
  simp [Statement.condition?, htokens, hresolve, hnest, hwhere, hf]

/-- The placeholders of a statement are numbered from one, without a gap. -/
theorem placeholders?_ofPieces {pieces : List Piece} {ts : List (Token Param)}
    (h : Spells pieces ts) :
    (Statement.ofPieces pieces).placeholders?
      = some (List.range' 1 (Statement.ofPieces pieces).params.length) := by
  have htokens : tokens? (Statement.ofPieces pieces).text.toList = some (number 1 ts) := h.text 1
  have hparams : (Statement.ofPieces pieces).params = operandsOf ts := h.params
  rw [Statement.placeholders?, htokens, Option.map_some, operandsOf_number, hparams]

/-- Nothing within a condition ends it. -/
theorem endsCondition_conditionItems (htypes : types.IsPlain) {q : Query}
    (h : ∀ t ∈ tests types q, t.IsDirect) :
    ∀ i ∈ conditionItems types q, i.endsCondition = false := by
  apply forall_mem_intercalate
  · simp [Item.endsCondition, Item.isWord]
  · exact forall_mem_of_forall₂ (readsAs_tests htypes h) fun hreads i hi => (hreads.inside i hi).2

theorem condition?_renderCount (htypes : types.IsPlain) {q : Query}
    (h : ∀ t ∈ tests types q, t.IsDirect) :
    (renderCount types q).condition? = some (q.formula.map (Requirement.inSql types)) := by
  apply condition?_ofPieces (spells_count htypes q) _ _ (condition?_conditionItems htypes h)
  · rw [List.forall_mem_append, List.forall_mem_cons]
    exact ⟨built_countHead _, by simp, built_condition htypes q⟩
  · have hnothing : ∀ i ∈ ([] : List Item).head?, i.endsCondition := by simp
    have hwhere := whereBody?_eq (not_where_countHead q.entity.table)
      (endsCondition_conditionItems htypes h) hnothing
    rwa [List.append_nil] at hwhere

/-- The condition of the statement that selects is read back, with the sort and the window behind
it. -/
theorem condition?_renderSelect (htypes : types.IsPlain) {q : Query}
    (h : ∀ t ∈ tests types q, t.IsDirect) (w : Window) :
    (renderSelect types q w).condition? = some (q.formula.map (Requirement.inSql types)) := by
  apply condition?_ofPieces (spells_select htypes q w) _ _ (condition?_conditionItems htypes h)
  · rw [List.forall_mem_append, List.forall_mem_cons, List.forall_mem_append]
    exact ⟨built_selectHead _, by simp, built_condition htypes q, built_selectTail _ w⟩
  · exact whereBody?_eq (not_where_selectHead q.entity.table)
      (endsCondition_conditionItems htypes h) (endsCondition_selectTail q.sort w)

theorem params_renderSelect (q : Query) (w : Window) :
    (renderSelect types q w).params
      = (renderCount types q).params ++ [boundParam w.limit, boundParam w.offset] := by
  show paramsOf (selectPieces types q w) = paramsOf (condition types q) ++ _
  rw [selectPieces, List.cons_append, paramsOf_text, paramsOf_append]
  rfl

/-- **Statements are read back as what they were made from.** Whatever the tables and columns of a
compiled plan are called, the condition that both of its statements put on rows is the formula of
the query, one test for each of its requirements, and a row is selected in memory when this formula
holds. The placeholders are `$1` to `$n`, in this order, one for each parameter; these are the
values that the requirements compare with, in the order of the formula, and then the bounds of the
slice. -/
theorem statements_read_back {allowed : FieldSet} {d : Document} {q : Query}
    (h : d.compile allowed = .ok q.plan) (htypes : types.IsPlain) (w : Window) :
    (∀ s ∈ [renderCount types q, renderSelect types q w],
        s.condition? = some (q.formula.map (Requirement.inSql types))
          ∧ s.placeholders? = some (List.range' 1 s.params.length))
      ∧ (renderCount types q).params = q.formula.atoms.flatMap Requirement.params
      ∧ (renderSelect types q w).params
        = (renderCount types q).params ++ [boundParam w.limit, boundParam w.offset]
      ∧ ∀ row, q.formula.eval (·.holds row) = q.selects row := by
  obtain ⟨x, hx, hplan⟩ := compile_eq_ok_iff.mp h
  have hdirect : ∀ t ∈ tests types q, t.IsDirect :=
    isDirect_of_wellFormed (hplan ▸ hx.wellFormed) types
  refine ⟨?_, paramsOf_condition q, params_renderSelect q w, q.eval_formula⟩
  rw [List.forall_mem_cons, List.forall_mem_singleton]
  constructor
  · exact ⟨condition?_renderCount htypes hdirect, placeholders?_ofPieces (spells_count htypes q)⟩
  · exact ⟨condition?_renderSelect htypes hdirect w,
      placeholders?_ofPieces (spells_select htypes q w)⟩

end Sql

/-! ### Names that look like SQL -/

namespace Sample

def traps : Entity :=
  ((Entity.new "trap" "shop.\"x\" WHERE $1").withPrimaryKey "id\" OR \"1").withQueryable
    ["a\" AND b", "$1", "between"]

/-- Comparisons on all of the columns, two of them with ranges. -/
def pitfalls : Document where
  conditions := [⟨"a\" AND b", some "like", .string "x"⟩, ⟨"$1", some ">", .string "5"⟩]
  dates := [⟨"$1", none, .string "2024-02-29"⟩]
  nulls := ["between"]
  notNulls := []
  between := [[("between", .array [.string "1", .string "2"]),
    ("$1", .array [.number (.integer 3), .number (.integer 4)])]]
  order := [⟨"a\" AND b", none⟩]

def pitfallsPlan : Plan where
  predicates := [⟨"a\" AND b", .like, .text "%x%"⟩, ⟨"$1", .greater, .text "5"⟩]
  datePredicates := [⟨"$1", .equal, .day ⟨2024, 2, 29, by decide⟩⟩]
  nullChecks := [⟨"between", true⟩]
  ranges := [⟨"between", .text "1", .text "2"⟩, ⟨"$1", .integer 3, .integer 4⟩]
  sort := [⟨"a\" AND b", .descending⟩]
  skipped := []

def trapTypes : Sql.ColumnTypes :=
  .ofList [("$1", "numeric(10,2)"), ("between", "timestamp without time zone")]

def pitfallsCondition : Formula Sql.Atom :=
  let like := .cast (.column "a\" AND b") [.word "text"]
  let number := [.word "numeric", .opening, .word "10", .symbol ",", .word "2", .closing]
  let day := .cast (.column "$1") [.word "date"]
  let bound := fun s => .cast (.param (.text s))
    [.word "timestamp", .word "without", .word "time", .word "zone"]
  .chain .and (.atom (.notNull (.column "id\" OR \"1")))
    [.atom (.like like (.param (.text "%x%"))),
      .atom (.compare .greater (.column "$1") (.cast (.param (.text "5")) number)),
      .atom (.compare .equal day (.param (.date ⟨2024, 2, 29, by decide⟩))),
      .atom (.isNull (.column "between")),
      .or (.atom (.between (.column "between") (bound "1") (bound "2")))
        (.atom (.between (.column "$1") (.param (.integer 3)) (.param (.integer 4))))]

theorem pitfalls_read_back :
    let s := Sql.renderSelect trapTypes (.resolve traps pitfallsPlan) ⟨20, 10⟩
    traps.compile pitfalls = .ok pitfallsPlan ∧ trapTypes.IsPlain
      ∧ s.condition? = some pitfallsCondition ∧ s.placeholders? = some (List.range' 1 9) := by
  intro s
  have hcompile : traps.compile pitfalls = .ok pitfallsPlan := by decide +kernel
  have htypes : trapTypes.IsPlain := by
    apply Sql.ColumnTypes.isPlain_of_forall
    show ∀ e ∈ [("between", "timestamp without time zone"), ("$1", "numeric(10,2)")], _
    rw [List.forall_mem_cons, List.forall_mem_singleton]
    exact ⟨by decide +kernel, by decide +kernel⟩
  have hread := (Sql.statements_read_back (q := .resolve traps pitfallsPlan) hcompile htypes
    ⟨20, 10⟩).1
  obtain ⟨hcondition, hplaceholders⟩ := hread s (.tail _ (.head _))
  refine ⟨hcompile, htypes, hcondition.trans ?_, hplaceholders.trans ?_⟩
  · decide +kernel
  · decide +kernel

end Sample

end Sift
