import Sift.Proofs.Sql.Independence
import Sift.Proofs.Sql.Requirement

/-!
# Which values are cast

A placeholder of a statement stands for a value that the query compares with, or for a bound of the
slice. Whether it is cast is for a rule to say, which gives it a type or none. A statement follows a
rule (`Casts`) if it is the statement that is written without types, where every placeholder stands
behind a blank, but for the casts around the placeholders that have got a type.

A text is to be cast if the type of its column is known and is no character type (`CastsByType`).
But the character types are not told apart from types whose names begin like theirs, such as arrays
of texts, and a text that is compared with a column of such a type stays as it is (`CastsByStart`).
The two rules agree where no type of this kind is known.

Main statement: `castsByType_iff`.
-/

namespace Sift.Sql

/-! ## Types -/

inductive CharacterType : String → Prop where
  | text : CharacterType "text"
  | citext : CharacterType "citext"
  | name : CharacterType "name"
  | character : CharacterType "character"
  | varying : CharacterType "character varying"
  | characterOf (n : Nat) : CharacterType ("character(" ++ toString n ++ ")")
  | varyingOf (n : Nat) : CharacterType ("character varying(" ++ toString n ++ ")")

/-- The name of the type begins like that of a character type. -/
def BeginsAsCharacterType (type : String) : Prop :=
  ∃ start ∈ ["text", "character", "citext", "name"], start.toList <+: type.toList

theorem CharacterType.begins {type : String} (h : CharacterType type) :
    BeginsAsCharacterType type := by
  cases h with
  | text => exact ⟨"text", by decide, by decide⟩
  | citext => exact ⟨"citext", by decide, by decide⟩
  | name => exact ⟨"name", by decide, by decide⟩
  | character | varying => exact ⟨"character", by decide, by decide⟩
  | characterOf n | varyingOf n => exact ⟨"character", by decide, by simp⟩

/-- A column has its type as the target unless the name begins like that of a character type. -/
theorem ColumnTypes.castTarget?_eq_some_iff {types : ColumnTypes} {field type : String} :
    types.castTarget? field = some type
      ↔ types.get? field = some type ∧ ¬ BeginsAsCharacterType type := by
  have hbegins : isCharacterType type = true ↔ BeginsAsCharacterType type := by
    rw [isCharacterType, List.any_eq_true, BeginsAsCharacterType]
    simp only [List.isPrefixOf_iff_prefix]
  rw [castTarget?, Option.filter_eq_some_iff, ← hbegins]
  simp

/-- The name of the type begins like that of a character type, but the type is none. -/
def Lookalike (type : String) : Prop := BeginsAsCharacterType type ∧ ¬ CharacterType type

/-! ## Placeholders -/

/-- A value that a statement binds. If it is compared with a column as it is, by an operator other
than `LIKE` or as a bound of a range, this is the column. -/
structure Placeholder where
  param : Param
  comparand? : Option String

/-- Nothing is bound for null. -/
def Placeholder.ofScalar (comparand? : Option String) (s : Scalar) : List Placeholder :=
  (param? s).toList.map (⟨·, comparand?⟩)

end Sql

def Requirement.placeholders : Requirement → List Sql.Placeholder
  | .key _ | .nullCheck _ => []
  | .predicate p =>
    Sql.Placeholder.ofScalar (if p.operator = .like then none else some p.field) p.value
  | .date ⟨_, _, .day day⟩ => [⟨.date day, none⟩]
  | .date ⟨_, _, .pattern pattern⟩ => [⟨.text pattern, none⟩]
  | .range r => Sql.Placeholder.ofScalar (some r.field) r.low
    ++ Sql.Placeholder.ofScalar (some r.field) r.high

/-- The values that a query compares with, in the order of their placeholders. -/
def Query.placeholders (q : Query) : List Sql.Placeholder :=
  q.formula.atoms.flatMap Requirement.placeholders

def Window.placeholders (w : Window) : List Sql.Placeholder :=
  [⟨Sql.boundParam w.limit, none⟩, ⟨Sql.boundParam w.offset, none⟩]

namespace Sql

/-- The placeholder stands for a text that is compared with a column of this type. -/
def Placeholder.HoldsTextFor (x : Placeholder) (types : ColumnTypes) (type : String) : Prop :=
  ∃ s field, x = ⟨.text s, some field⟩ ∧ types.get? field = some type

/-- Texts are cast to the types of their columns, except to character types. -/
def CastsByType (types : ColumnTypes) (x : Placeholder) (type : String) : Prop :=
  x.HoldsTextFor types type ∧ ¬ CharacterType type

/-- Texts are cast to the types of their columns, but not to those that begin like character
types. -/
def CastsByStart (types : ColumnTypes) (x : Placeholder) (type : String) : Prop :=
  x.HoldsTextFor types type ∧ ¬ BeginsAsCharacterType type

/-! ## Pieces with casts -/

def EndsBlank (s : String) : Prop := s.toList.getLast? = some ' '

instance : DecidablePred EndsBlank := fun _ => inferInstanceAs (Decidable (_ = _))

theorem endsBlank_append (a : String) {b : String} (h : EndsBlank b) : EndsBlank (a ++ b) := by
  rw [EndsBlank, String.toList_append, List.getLast?_append, h]
  rfl

/-- The last pieces are the first ones, cast by a rule. The placeholders are the same in both. In
the first pieces each of them stands behind a blank; in the last ones it is in a cast to the type
that the rule gives it, or stands as it did if it is given none. -/
inductive Casts (rule : Placeholder → String → Prop) :
    List Placeholder → List Piece → List Piece → Prop where
  | nil : Casts rule [] [] []
  | text {xs : List Placeholder} {bare pieces : List Piece} (s : String)
      (h : Casts rule xs bare pieces) : Casts rule xs (.text s :: bare) (.text s :: pieces)
  | plain {xs : List Placeholder} {bare pieces : List Piece} {s : String} {x : Placeholder}
      (hs : EndsBlank s) (hx : ∀ type, ¬ rule x type) (h : Casts rule xs bare pieces) :
      Casts rule (x :: xs) (.text s :: .param x.param :: bare)
        (.text s :: .param x.param :: pieces)
  | cast {xs : List Placeholder} {bare pieces : List Piece} {s type : String} {x : Placeholder}
      (hs : EndsBlank s) (hx : rule x type) (h : Casts rule xs bare pieces) :
      Casts rule (x :: xs) (.text s :: .param x.param :: bare)
        (.text s :: .text "CAST(" :: .param x.param :: .text (" AS " ++ type ++ ")") :: pieces)

namespace Casts

variable {rule rule' : Placeholder → String → Prop} {xs xs' : List Placeholder}
  {bare bare' pieces pieces' : List Piece}

/-- Two runs of pieces that are cast make one. -/
theorem append (h : Casts rule xs bare pieces) (h' : Casts rule xs' bare' pieces') :
    Casts rule (xs ++ xs') (bare ++ bare') (pieces ++ pieces') := by
  induction h with
  | nil => exact h'
  | text s _ ih => exact .text s ih
  | plain hs hx _ ih => exact .plain hs hx ih
  | cast hs hx _ ih => exact .cast hs hx ih

/-- Many such runs make one, with a separator between them. -/
theorem join {α : Type} {placeholders : α → List Placeholder} {bare pieces : α → List Piece}
    {l : List α} (h : ∀ a ∈ l, Casts rule (placeholders a) (bare a) (pieces a))
    (separator : String) :
    Casts rule (l.flatMap placeholders) (Sql.join separator (l.map bare))
      (Sql.join separator (l.map pieces)) := by
  induction l with
  | nil => exact .nil
  | cons a l ih =>
    obtain ⟨ha, hl⟩ := List.forall_mem_cons.mp h
    cases l with
    | nil => simpa [Sql.join] using ha
    | cons b l => exact ha.append (.text separator (ih hl))

/-- The rule only matters on the placeholders that are there. -/
theorem congr (h : Casts rule xs bare pieces)
    (hrule : ∀ x ∈ xs, ∀ type, rule x type ↔ rule' x type) : Casts rule' xs bare pieces := by
  induction h with
  | nil => exact .nil
  | text s _ ih => exact .text s (ih hrule)
  | plain hs hx _ ih =>
    obtain ⟨hfirst, hrest⟩ := List.forall_mem_cons.mp hrule
    exact .plain hs (fun type h => hx type ((hfirst type).mpr h)) (ih hrest)
  | cast hs hx _ ih =>
    obtain ⟨hfirst, hrest⟩ := List.forall_mem_cons.mp hrule
    exact .cast hs ((hfirst _).mp hx) (ih hrest)

/-- Of two rules, one of which gives types only where the other gives the same ones, the other makes
the text longer unless it gives no types besides. -/
theorem length_text (hsub : ∀ x type, rule x type → rule' x type)
    (hone : ∀ x type type', rule' x type → rule' x type' → type = type')
    (h : Casts rule xs bare pieces) (h' : Casts rule' xs bare pieces') (n : Nat) :
    (textFrom n pieces).length ≤ (textFrom n pieces').length
      ∧ ((textFrom n pieces).length = (textFrom n pieces').length →
        ∀ x ∈ xs, ∀ type, rule' x type → rule x type) := by
  -- Both run along the same pieces; the induction goes placeholder by placeholder.
  induction h generalizing pieces' n with
  | nil =>
    cases h'
    simp
  | text s h ih =>
    cases h' with
    | text _ h' =>
      obtain ⟨hle, heq⟩ := ih h' n
      simp only [textFrom, String.length_append]
      exact ⟨by omega, fun hlength => heq (by omega)⟩
    | plain | cast => cases h
  | plain hs hx h ih =>
    cases h' with
    | text _ h' => cases h'
    | plain _ hx' h' =>
      obtain ⟨hle, heq⟩ := ih h' (n + 1)
      simp only [textFrom, String.length_append, List.forall_mem_cons]
      exact ⟨by omega, fun hlength =>
        ⟨fun type htype => absurd htype (hx' type), heq (by omega)⟩⟩
    | cast _ hx' h' =>
      have hle := (ih h' (n + 1)).1
      -- A cast on one side alone makes that side longer, whatever follows.
      have hopening : "CAST(".length = 5 := rfl
      simp only [textFrom, String.length_append]
      exact ⟨by omega, fun hlength => by omega⟩
  | cast hs hx h ih =>
    cases h' with
    | text _ h' => cases h'
    | plain _ hx' => exact absurd (hsub _ _ hx) (hx' _)
    | cast _ hx' h' =>
      obtain ⟨hle, heq⟩ := ih h' (n + 1)
      obtain rfl := hone _ _ _ (hsub _ _ hx) hx'
      simp only [textFrom, String.length_append, List.forall_mem_cons]
      refine ⟨by omega, fun hlength => ⟨fun type htype => ?_, heq (by omega)⟩⟩
      exact hone _ _ _ htype hx' ▸ hx

end Casts

/-! ## Operands and tests -/

variable {types : ColumnTypes} {s : String}

theorem not_castsByStart (p : Param) (type : String) : ¬ CastsByStart types ⟨p, none⟩ type := by
  rintro ⟨⟨_, _, hx, -⟩, -⟩
  cases hx

/-- An operand that is held against no column is never cast. -/
theorem casts_plain (hs : EndsBlank s) (v : Scalar) :
    Casts (CastsByStart types) (Placeholder.ofScalar none v) (.text s :: (Operand.plain v).pieces)
      (.text s :: (Operand.plain v).pieces) := by
  cases v with
  | null => exact .text s (.text _ .nil)
  | _ => exact .plain hs (not_castsByStart _) .nil

/-- An operand held against a column is cast to the type of the column if the rule says so. -/
theorem casts_against (hs : EndsBlank s) (field : String) (v : Scalar) :
    Casts (CastsByStart types) (Placeholder.ofScalar (some field) v)
      (.text s :: (Operand.against .empty field v).pieces)
      (.text s :: (Operand.against types field v).pieces) := by
  cases v with
  | null => exact .text s (.text _ .nil)
  | text t =>
    cases htype : types.castTarget? field with
    | none =>
      have hpieces : (Operand.against types field (.text t)).pieces = [.param (.text t)] := by
        simp only [Operand.against, htype, Operand.pieces]
      rw [hpieces]
      refine .plain hs (fun type hx => ?_) .nil
      -- If the rule gave a type, the column would have a target.
      obtain ⟨⟨_, _, hx, hget⟩, hbegins⟩ := hx
      cases hx
      rw [ColumnTypes.castTarget?_eq_some_iff.mpr ⟨hget, hbegins⟩] at htype
      cases htype
    | some type =>
      have hpieces : (Operand.against types field (.text t)).pieces
          = [.text "CAST(", .param (.text t), .text (" AS " ++ type ++ ")")] := by
        simp only [Operand.against, htype, Operand.pieces]
      rw [hpieces]
      obtain ⟨hget, hbegins⟩ := ColumnTypes.castTarget?_eq_some_iff.mp htype
      exact .cast hs ⟨⟨t, field, rfl, hget⟩, hbegins⟩ .nil
  | _ =>
    -- Only texts are cast.
    refine .plain hs (fun type hx => ?_) .nil
    obtain ⟨⟨_, _, hx, -⟩, -⟩ := hx
    cases hx

theorem casts_predicate (p : Predicate) :
    Casts (CastsByStart types) (Requirement.predicate p).placeholders
      (Test.ofPredicate .empty p).pieces (Test.ofPredicate types p).pieces := by
  obtain ⟨field, op, v⟩ := p
  cases op with
  | like => exact casts_plain (endsBlank_append _ (by decide)) v
  | _ => exact casts_against (endsBlank_append _ (by decide)) field v

theorem casts_date (p : DatePredicate) :
    Casts (CastsByStart types) (Requirement.date p).placeholders (Test.ofDatePredicate p).pieces
      (Test.ofDatePredicate p).pieces := by
  obtain ⟨field, op, operand⟩ := p
  cases operand with
  | day => exact .plain (endsBlank_append _ (by decide)) (not_castsByStart _) .nil
  | pattern => exact .plain (endsBlank_append _ (by decide)) (not_castsByStart _) .nil

theorem casts_nullCheck (c : NullCheck) :
    Casts (CastsByStart types) (Requirement.nullCheck c).placeholders (Test.ofNullCheck c).pieces
      (Test.ofNullCheck c).pieces := by
  obtain ⟨field, isNull⟩ := c
  cases isNull <;> exact .text _ .nil

theorem casts_range (r : RangeCheck) :
    Casts (CastsByStart types) (Requirement.range r).placeholders
      (Between.ofRange .empty r).pieces (Between.ofRange types r).pieces :=
  (casts_against (endsBlank_append _ (by decide)) r.field r.low).append
    (casts_against (by decide) r.field r.high)

theorem casts_ranges (rs : List RangeCheck) :
    Casts (CastsByStart types) (rs.flatMap fun r => (Requirement.range r).placeholders)
      (Test.anyOf (rs.map (Between.ofRange .empty))).pieces
      (Test.anyOf (rs.map (Between.ofRange types))).pieces := by
  have hranges : ∀ r ∈ rs, Casts (CastsByStart types) (Requirement.range r).placeholders
      (Between.ofRange .empty r).pieces (Between.ofRange types r).pieces := fun r _ => casts_range r
  have hclosed := (Casts.text "(" (.join hranges " OR ")).append (.text ")" .nil)
  rw [List.append_nil] at hclosed
  simpa only [Test.pieces, List.map_map, Function.comp_def] using hclosed

/-! ## Conditions -/

/-- A test of a condition: what it binds, and its pieces without types and with them. -/
structure CastTest where
  placeholders : List Placeholder
  bare : List Piece
  pieces : List Piece

/-- The tests of a query. The ranges, if there are any, are one test. -/
def castTests (types : ColumnTypes) (q : Query) : List CastTest :=
  ⟨[], (Test.notNull q.entity.primaryKey).pieces, (Test.notNull q.entity.primaryKey).pieces⟩
    :: q.plan.predicates.map (fun p => ⟨(Requirement.predicate p).placeholders,
        (Test.ofPredicate .empty p).pieces, (Test.ofPredicate types p).pieces⟩)
    ++ q.plan.datePredicates.map (fun p => ⟨(Requirement.date p).placeholders,
        (Test.ofDatePredicate p).pieces, (Test.ofDatePredicate p).pieces⟩)
    ++ q.plan.nullChecks.map (fun c => ⟨(Requirement.nullCheck c).placeholders,
        (Test.ofNullCheck c).pieces, (Test.ofNullCheck c).pieces⟩)
    ++ if q.plan.ranges.isEmpty then []
      else [⟨q.plan.ranges.flatMap fun r => (Requirement.range r).placeholders,
        (Test.anyOf (q.plan.ranges.map (Between.ofRange .empty))).pieces,
        (Test.anyOf (q.plan.ranges.map (Between.ofRange types))).pieces⟩]

theorem bare_castTests (types : ColumnTypes) (q : Query) :
    (castTests types q).map CastTest.bare = (tests .empty q).map Test.pieces := by
  unfold castTests tests
  simp only [List.cons_append, List.map_cons, List.map_append, List.map_map, Function.comp_def]
  split <;> rfl

theorem pieces_castTests (q : Query) :
    (castTests types q).map CastTest.pieces = (tests types q).map Test.pieces := by
  unfold castTests tests
  simp only [List.cons_append, List.map_cons, List.map_append, List.map_map, Function.comp_def]
  split <;> rfl

theorem placeholders_castTests (types : ColumnTypes) (q : Query) :
    (castTests types q).flatMap CastTest.placeholders = q.placeholders := by
  have hranges : (if q.plan.ranges.isEmpty then []
      else [CastTest.mk (q.plan.ranges.flatMap fun r => (Requirement.range r).placeholders)
        (Test.anyOf (q.plan.ranges.map (Between.ofRange .empty))).pieces
        (Test.anyOf (q.plan.ranges.map (Between.ofRange types))).pieces]).flatMap
          CastTest.placeholders
      = q.plan.ranges.flatMap fun r => (Requirement.range r).placeholders := by
    cases q.plan.ranges with
    | nil => rfl
    | cons r rs => exact List.flatMap_singleton ..
  rw [Query.placeholders, q.atoms_formula, castTests]
  simp only [List.flatMap_append, List.cons_append, List.flatMap_cons, List.flatMap_map, hranges]
  rfl

/-- The whole condition is cast by the rule that goes by how type names begin. -/
theorem casts_condition (q : Query) :
    Casts (CastsByStart types) q.placeholders (condition .empty q) (condition types q) := by
  have htests : ∀ t ∈ castTests types q,
      Casts (CastsByStart types) t.placeholders t.bare t.pieces := by
    unfold castTests
    simp only [List.cons_append, List.forall_mem_cons, List.forall_mem_append,
      List.forall_mem_map]
    refine ⟨.text _ .nil, ⟨⟨fun p _ => casts_predicate p, fun p _ => casts_date p⟩,
      fun c _ => casts_nullCheck c⟩, ?_⟩
    split
    · simp
    · rw [List.forall_mem_singleton]
      exact casts_ranges q.plan.ranges
  rw [condition, condition, ← placeholders_castTests types, ← bare_castTests types,
    ← pieces_castTests]
  exact Casts.join htests " AND "

/-! ## Statements -/

/-- The statement is the one of these pieces and placeholders, cast by a rule. -/
def Statement.CastsBy (rule : Placeholder → String → Prop) (xs : List Placeholder)
    (bare : List Piece) (statement : Statement) : Prop :=
  ∃ pieces, statement = .ofPieces pieces ∧ Casts rule xs bare pieces

end Sql

/-- Both statements of a query are those that are written without types, cast by a rule. -/
structure Query.CastsBy (q : Query) (w : Window) (types : Sql.ColumnTypes)
    (rule : Sql.Placeholder → String → Prop) : Prop where
  count : (Sql.renderCount types q).CastsBy rule q.placeholders (Sql.countPieces .empty q)
  select : (Sql.renderSelect types q w).CastsBy rule (q.placeholders ++ w.placeholders)
    (Sql.selectPieces .empty q w)

namespace Sql

/-- Nothing else in the two statements is cast. -/
theorem castsBy_start (types : ColumnTypes) (q : Query) (w : Window) :
    q.CastsBy w types (CastsByStart types) where
  count := ⟨_, rfl, .text _ (casts_condition q)⟩
  select := by
    refine ⟨_, rfl, .text _ ((casts_condition q).append (.text _ ?_))⟩
    exact .plain (by decide) (not_castsByStart _) (.plain (by decide) (not_castsByStart _) .nil)

/-- What is cast by the start of the name is cast by the type as well. -/
theorem castsByType_of_start {x : Placeholder} {type : String} (h : CastsByStart types x type) :
    CastsByType types x type :=
  ⟨h.1, fun hcharacter => h.2 hcharacter.begins⟩

theorem castsByType_unique (x : Placeholder) (type type' : String) (h : CastsByType types x type)
    (h' : CastsByType types x type') : type = type' := by
  obtain ⟨⟨_, field, rfl, hget⟩, -⟩ := h
  obtain ⟨⟨_, _, hx, hget'⟩, -⟩ := h'
  cases hx
  exact Option.some.inj (hget.symm.trans hget')

/-- A statement that follows both rules holds no text for a column that they treat differently. -/
theorem not_lookalike_of_castsBy {statement : Statement} {xs : List Placeholder}
    {bare : List Piece} (h : statement.CastsBy (CastsByStart types) xs bare)
    (h' : statement.CastsBy (CastsByType types) xs bare) {x : Placeholder} (hx : x ∈ xs)
    {type : String} (hholds : x.HoldsTextFor types type) : ¬ Lookalike type := by
  obtain ⟨pieces, rfl, hcasts⟩ := h
  obtain ⟨pieces', htext, hcasts'⟩ := h'
  have hlength : (textFrom 1 pieces).length = (textFrom 1 pieces').length :=
    congrArg (·.text.length) htext
  have hsame := (hcasts.length_text (fun _ _ => castsByType_of_start) castsByType_unique hcasts'
    1).2 hlength
  rintro ⟨hbegins, hcharacter⟩
  exact (hsame x hx type ⟨hholds, hcharacter⟩).2 hbegins

/-- The two rules agree unless a type looks like a character type without being one. -/
theorem castsByStart_iff_of_not_lookalike {x : Placeholder}
    (h : ∀ type, x.HoldsTextFor types type → ¬ Lookalike type) (type : String) :
    CastsByStart types x type ↔ CastsByType types x type := by
  refine ⟨castsByType_of_start, fun htype => ⟨htype.1, fun hbegins => ?_⟩⟩
  exact h type htype.1 ⟨hbegins, htype.2⟩

/-- So the statements are cast by the type exactly if no text of the query has such a type. -/
theorem castsByType_query_iff (q : Query) (w : Window) :
    q.CastsBy w types (CastsByType types)
      ↔ ∀ x ∈ q.placeholders, ∀ type, x.HoldsTextFor types type → ¬ Lookalike type := by
  obtain ⟨hcount, hselect⟩ := castsBy_start types q w
  constructor
  · intro h x hx type hholds
    exact not_lookalike_of_castsBy hcount h.count hx hholds
  · intro h
    have hbounds : ∀ x ∈ q.placeholders ++ w.placeholders, ∀ type,
        x.HoldsTextFor types type → ¬ Lookalike type := by
      rw [List.forall_mem_append]
      refine ⟨h, fun x hx type hholds => ?_⟩
      obtain ⟨_, _, rfl, -⟩ := hholds
      simp [Window.placeholders] at hx
    obtain ⟨pieces, hpieces, hcasts⟩ := hcount
    obtain ⟨pieces', hpieces', hcasts'⟩ := hselect
    exact ⟨⟨pieces, hpieces, hcasts.congr fun x hx => castsByStart_iff_of_not_lookalike (h x hx)⟩,
      ⟨pieces', hpieces',
        hcasts'.congr fun x hx => castsByStart_iff_of_not_lookalike (hbounds x hx)⟩⟩

def blankQuery (field : String) : Query :=
  .resolve (.new "" "") { Plan.empty with predicates := [⟨field, .equal, .text ""⟩] }

/-- **Which values are cast.** In both statements of every query, a placeholder is cast exactly if
it stands for a text, is compared with its column as it is, and the type of the column is known and
does not begin like a character type; then it is cast to this type. So a statement casts texts to
all types but the character types exactly if its query compares no text with a column of a type that
only looks like one, and every statement does exactly if no column has such a type. -/
theorem castsByType_iff (types : ColumnTypes) :
    (∀ q w, Query.CastsBy q w types (CastsByStart types))
      ∧ (∀ q w, Query.CastsBy q w types (CastsByType types)
        ↔ ∀ x ∈ q.placeholders, ∀ type, x.HoldsTextFor types type → ¬ Lookalike type)
      ∧ ((∀ q w, Query.CastsBy q w types (CastsByType types))
        ↔ ∀ field type, types.get? field = some type → ¬ Lookalike type) := by
  refine ⟨castsBy_start types, castsByType_query_iff, fun h field type hget => ?_,
    fun h q w => (castsByType_query_iff q w).mpr fun x _ type hholds => ?_⟩
  · have hmem : ⟨.text "", some field⟩ ∈ (blankQuery field).placeholders :=
      List.mem_singleton_self _
    exact (castsByType_query_iff _ ⟨0, 0⟩).mp (h (blankQuery field) ⟨0, 0⟩) _ hmem type
      ⟨"", field, rfl, hget⟩
  · obtain ⟨_, field, -, hget⟩ := hholds
    exact h field type hget

end Sql

/-! ### Names of a limited length, and tags in an array -/

namespace Sample

open Sql

def guestTypes : ColumnTypes := ⟨[("joined", "timestamp"), ("name", "character varying(40)")]⟩

/-- The types of the guests' columns are all told apart. -/
theorem guests_cast_by_type :
    (∀ q w, Query.CastsBy q w guestTypes (CastsByType guestTypes))
      ∧ (renderCount guestTypes (guestsNamed "Ann" ⟨2024, 1, 31, by decide⟩ "2024" "2025")).text
        = "SELECT COUNT(*) FROM \"guests\" AS t WHERE t.\"id\" IS NOT NULL AND t.\"name\" = $1"
          ++ " AND t.\"age\" <> NULL AND CAST(t.\"joined\" AS DATE) < $2"
          ++ " AND (t.\"joined\" BETWEEN CAST($3 AS timestamp) AND CAST($4 AS timestamp))" := by
  refine ⟨(castsByType_iff guestTypes).2.2.mpr fun field type hget => ?_, by decide +kernel⟩
  obtain ⟨before, after, hentries, -⟩ := List.lookup_eq_some_iff.mp hget
  have hmem : (field, type) ∈ guestTypes.entries := hentries ▸ by simp
  rcases List.mem_cons.mp hmem with heq | hmem
  · obtain ⟨-, rfl⟩ := Prod.mk.inj heq
    rintro ⟨hbegins, -⟩
    revert hbegins
    unfold BeginsAsCharacterType
    decide
  · obtain ⟨-, rfl⟩ := Prod.mk.inj (List.mem_singleton.mp hmem)
    have hforty : "character varying(" ++ toString 40 ++ ")" = "character varying(40)" := by
      decide +kernel
    exact fun h => h.2 (hforty ▸ .varyingOf 40)

def post : Entity := (Entity.new "post" "posts").withQueryable ["tags", "posted"]

/-- The posts with these tags, of a day. -/
def tagged : Query :=
  .resolve post
    { Plan.empty with
      predicates := [⟨"tags", .equal, .text "\x7ba,b\x7d"⟩]
      ranges := [⟨"posted", .text "2024-01-01", .text "2024-01-02"⟩] }

def postTypes : ColumnTypes := .ofList [("tags", "text[]"), ("posted", "timestamp")]

theorem not_characterType_textArray : ¬ CharacterType "text[]" := by
  intro h
  generalize htype : "text[]" = type at h
  cases h <;> simp [← String.toList_inj] at htype

/-- Bounds are cast to a timestamp, and the text that is compared with an array of texts is not. -/
theorem tags_not_cast :
    postTypes.get? "tags" = some "text[]" ∧ ¬ CharacterType "text[]"
      ∧ (renderCount postTypes tagged).text
        = "SELECT COUNT(*) FROM \"posts\" AS t WHERE t.\"id\" IS NOT NULL AND t.\"tags\" = $1"
          ++ " AND (t.\"posted\" BETWEEN CAST($2 AS timestamp) AND CAST($3 AS timestamp))"
      ∧ ∀ w, ¬ tagged.CastsBy w postTypes (CastsByType postTypes) := by
  have hget : postTypes.get? "tags" = some "text[]" := by decide +kernel
  have hlookalike : Lookalike "text[]" :=
    ⟨⟨"text", by decide, by decide⟩, not_characterType_textArray⟩
  refine ⟨hget, hlookalike.2, by decide +kernel, fun w h => ?_⟩
  have hmem : ⟨.text "\x7ba,b\x7d", some "tags"⟩ ∈ tagged.placeholders := List.mem_cons_self
  exact (castsByType_query_iff tagged w).mp h _ hmem "text[]" ⟨_, _, rfl, hget⟩ hlookalike

end Sample

end Sift
