import Sift.Proofs.Sql.TypeName
import Sift.Sql.Render

/-!
# Items of conditions and statements

The items that every part of a statement is made of. That its pieces spell these items, and what
they are read as, is shown elsewhere. Here it is shown that they are what parentheses nest into
(`Item.Built`), which they are if the types of casts are plain.

Main statements: `isPlain_tests`, `built_test` and `built_condition`.
-/

namespace Sift.Sql

/-! ## Operands and tests -/

def columnItems (field : String) : List Item :=
  [.token (.word "t"), .token (.symbol "."), .token (.name field)]

namespace Operand

/-- The type of a cast can be told apart from what is around it. -/
def IsPlain : Operand → Prop
  | .null | .bound _ => True
  | .cast _ type => Sql.IsPlain type

def items : Operand → List Item
  | .null => [.token (.word "null")]
  | .bound p => [.token (.operand p)]
  | .cast p type =>
    [.token (.word "cast"), .ofGroup (.token (.operand p) :: .token (.word "as") :: typeItems type)]

end Operand

def Between.items (b : Between) : List Item :=
  columnItems b.field ++ .token (.word "between") :: b.low.items
    ++ .token (.word "and") :: b.high.items

def dayItems (field : String) : List Item :=
  [.token (.word "cast"),
    .ofGroup (columnItems field ++ [.token (.word "as"), .token (.word "date")])]

def operatorToken (op : Operator) : Token Param :=
  match op with
  | .like => .word "like"
  | op => .symbol op.sql

namespace Test

def IsPlain : Test → Prop
  | .compare _ _ operand => operand.IsPlain
  | .like _ pattern => pattern.IsPlain
  | .anyOf ranges => ∀ b ∈ ranges, b.low.IsPlain ∧ b.high.IsPlain
  | _ => True

def items : Test → List Item
  | .isNull field => columnItems field ++ [.token (.word "is"), .token (.word "null")]
  | .notNull field =>
    columnItems field ++ [.token (.word "is"), .token (.word "not"), .token (.word "null")]
  | .compare field op operand => columnItems field ++ .token (operatorToken op) :: operand.items
  | .like field pattern =>
    columnItems field
      ++ .token (.symbol "::") :: .token (.word "text") :: .token (.word "ilike") :: pattern.items
  | .compareDay field op day =>
    dayItems field ++ [.token (operatorToken op), .token (.operand (.date day))]
  | .likeDay field pattern =>
    [.token (.word "cast"),
      .ofGroup (dayItems field ++ [.token (.word "as"), .token (.word "text")]),
      .token (.word "ilike"), .token (.operand (.text pattern))]
  | .anyOf ranges => [.ofGroup ([.token (.word "or")].intercalate (ranges.map Between.items))]

end Test

/-! ## Types of casts -/

variable {types : ColumnTypes}

theorem isPlain_against (h : types.IsPlain) (field : String) (s : Scalar) :
    (Operand.against types field s).IsPlain := by
  cases s with
  | text s =>
    simp only [Operand.against]
    cases htype : types.castTarget? field with
    | none => trivial
    | some type =>
      obtain ⟨hget, -⟩ := Option.filter_eq_some_iff.mp htype
      exact h field type hget
  | _ => trivial

theorem isPlain_plain (s : Scalar) : (Operand.plain s).IsPlain := by
  cases s <;> trivial

/-- Under plain column types, every test casts to a plain type. -/
theorem isPlain_tests (h : types.IsPlain) (q : Query) : ∀ t ∈ tests types q, t.IsPlain := by
  have hpredicate : ∀ p : Predicate, (Test.ofPredicate types p).IsPlain := by
    rintro ⟨field, op, value⟩
    cases op with
    | like => exact isPlain_plain value
    | _ => exact isPlain_against h field value
  have hdate : ∀ p : DatePredicate, (Test.ofDatePredicate p).IsPlain := by
    rintro ⟨field, op, value⟩
    cases value <;> trivial
  have hcheck : ∀ c : NullCheck, (Test.ofNullCheck c).IsPlain := by
    rintro ⟨field, isNull⟩
    cases isNull <;> trivial
  unfold tests
  simp only [List.cons_append, List.forall_mem_cons, List.forall_mem_append, List.forall_mem_map]
  refine ⟨trivial, ⟨⟨fun p _ => hpredicate p, fun p _ => hdate p⟩, fun c _ => hcheck c⟩, ?_⟩
  split
  · simp
  · rw [List.forall_mem_singleton]
    intro b hb
    obtain ⟨r, -, rfl⟩ := List.mem_map.mp hb
    exact ⟨isPlain_against h _ _, isPlain_against h _ _⟩

/-! ## Statements -/

def tableItems (name : String) : List Item :=
  [.token (.symbol ".")].intercalate
    ((splitDots name.toList).map fun part => [.token (.name (String.ofList part))])

def conditionItems (types : ColumnTypes) (q : Query) : List Item :=
  [.token (.word "and")].intercalate ((tests types q).map Test.items)

def directionWord : SortDirection → String
  | .ascending => "asc"
  | .descending => "desc"

def keyItems (k : SortKey) : List Item :=
  columnItems k.field ++ [.token (.word (directionWord k.direction))]

def orderItems (keys : List SortKey) : List Item :=
  if keys.isEmpty then []
  else
    .token (.word "order") :: .token (.word "by")
      :: [.token (.symbol ",")].intercalate (keys.map keyItems)

def boundParam (n : Nat) : Param := .integer (min n maxSigned : Nat)

/-- What comes before `WHERE` in the statement that counts rows. -/
def countHead (table : String) : List Item :=
  .token (.word "select") :: .token (.word "count") :: .ofGroup [.token (.symbol "*")]
    :: .token (.word "from") :: tableItems table ++ [.token (.word "as"), .token (.word "t")]

def selectHead (table : String) : List Item :=
  .token (.word "select") :: .token (.word "to_jsonb") :: .ofGroup [.token (.word "t")]
    :: .token (.word "as") :: .token (.word "row") :: .token (.word "from") :: tableItems table
    ++ [.token (.word "as"), .token (.word "t")]

/-- What comes after the condition of the statement that selects rows. -/
def selectTail (keys : List SortKey) (w : Window) : List Item :=
  orderItems keys ++ [.token (.word "limit"), .token (.operand (boundParam w.limit)),
    .token (.word "offset"), .token (.operand (boundParam w.offset))]

/-! ## What parentheses nest into -/

theorem built_column (field : String) : ∀ i ∈ columnItems field, i.Built := by
  simp [columnItems]

theorem built_operand {o : Operand} (h : o.IsPlain) : ∀ i ∈ o.items, i.Built := by
  cases o with
  | null => simp [Operand.items]
  | bound p => simp [Operand.items]
  | cast p type =>
    have hinside : ∀ i ∈ Item.token (.operand p) :: .token (.word "as") :: typeItems type,
        i.Built := by
      simpa using (tokensOf_typeItems h).2
    simpa [Operand.items] using Item.Built.group hinside

theorem built_between {b : Between} (hlow : b.low.IsPlain) (hhigh : b.high.IsPlain) :
    ∀ i ∈ b.items, i.Built := by
  simp only [Between.items, List.forall_mem_append, List.forall_mem_cons, built_token]
  exact ⟨⟨built_column _, by simp, built_operand hlow⟩, by simp, built_operand hhigh⟩

theorem built_day (field : String) : ∀ i ∈ dayItems field, i.Built := by
  have hinside : ∀ i ∈ columnItems field ++ [.token (.word "as"), .token (.word "date")],
      i.Built := by
    simp [columnItems]
  simpa [dayItems] using Item.Built.group hinside

theorem built_test {t : Test} (h : t.IsPlain) : ∀ i ∈ t.items, i.Built := by
  have hoperator : ∀ op, (Item.token (operatorToken op)).Built := by
    intro op
    cases op <;> simp [operatorToken]
  cases t with
  | isNull field => simp [Test.items, columnItems]
  | notNull field => simp [Test.items, columnItems]
  | compare field op operand =>
    simp only [Test.items, List.forall_mem_append, List.forall_mem_cons]
    exact ⟨built_column field, hoperator op, built_operand h⟩
  | like field pattern =>
    simp only [Test.items, List.forall_mem_append, List.forall_mem_cons, built_token]
    exact ⟨built_column field, by simp, by simp, by simp, built_operand h⟩
  | compareDay field op day =>
    simp only [Test.items, List.forall_mem_append, List.forall_mem_cons]
    exact ⟨built_day field, hoperator op, by simp⟩
  -- What stands in parentheses must be built by itself first.
  | likeDay field pattern =>
    have hinside : ∀ i ∈ dayItems field ++ [.token (.word "as"), .token (.word "text")],
        i.Built := by
      rw [List.forall_mem_append]
      exact ⟨built_day field, by simp⟩
    simpa [Test.items] using Item.Built.group hinside
  | anyOf ranges =>
    have hinside : ∀ i ∈ [Item.token (.word "or")].intercalate (ranges.map Between.items),
        i.Built := by
      refine forall_mem_intercalate (by simp) (List.forall_mem_map.mpr ?_)
      exact fun b hb => built_between (h b hb).1 (h b hb).2
    simpa [Test.items] using Item.Built.group hinside

/-- Every item of a condition is one that reading its tokens can build. -/
theorem built_condition (h : types.IsPlain) (q : Query) :
    ∀ i ∈ conditionItems types q, i.Built := by
  refine forall_mem_intercalate (by simp) (List.forall_mem_map.mpr ?_)
  exact fun t ht => built_test (isPlain_tests h q t ht)

theorem built_table (name : String) : ∀ i ∈ tableItems name, i.Built := by
  refine forall_mem_intercalate (by simp) (List.forall_mem_map.mpr ?_)
  simp

theorem built_order (keys : List SortKey) : ∀ i ∈ orderItems keys, i.Built := by
  have hkeys : ∀ i ∈ [Item.token (.symbol ",")].intercalate (keys.map keyItems), i.Built := by
    refine forall_mem_intercalate (by simp) (List.forall_mem_map.mpr ?_)
    simp [keyItems, columnItems]
  unfold orderItems
  split
  · simp
  · simpa using hkeys

theorem not_where_table (name : String) : ∀ i ∈ tableItems name, i.isWord "where" = false := by
  refine forall_mem_intercalate (by simp [Item.isWord]) (List.forall_mem_map.mpr ?_)
  simp [Item.isWord]

theorem built_countHead (table : String) : ∀ i ∈ countHead table, i.Built := by
  have hgroup : (Item.ofGroup [.token (.symbol "*")]).Built := .group (by simp)
  simpa [countHead, hgroup, or_imp, forall_and] using built_table table

theorem built_selectHead (table : String) : ∀ i ∈ selectHead table, i.Built := by
  have hgroup : (Item.ofGroup [.token (.word "t")]).Built := .group (by simp)
  simpa [selectHead, hgroup, or_imp, forall_and] using built_table table

theorem not_where_countHead (table : String) :
    ∀ i ∈ countHead table, i.isWord "where" = false := by
  simpa [countHead, Item.isWord, Item.ofGroup, or_imp, forall_and] using not_where_table table

theorem not_where_selectHead (table : String) :
    ∀ i ∈ selectHead table, i.isWord "where" = false := by
  simpa [selectHead, Item.isWord, Item.ofGroup, or_imp, forall_and] using not_where_table table

theorem built_selectTail (keys : List SortKey) (w : Window) :
    ∀ i ∈ selectTail keys w, i.Built := by
  simpa [selectTail, or_imp, forall_and] using built_order keys

/-- What follows the condition begins with a word that ends it. -/
theorem endsCondition_selectTail (keys : List SortKey) (w : Window) :
    ∀ i ∈ (selectTail keys w).head?, i.endsCondition := by
  cases keys with
  | nil => simp [selectTail, orderItems, Item.endsCondition, Item.isWord]
  | cons k keys => simp [selectTail, orderItems, Item.endsCondition, Item.isWord]

end Sift.Sql
