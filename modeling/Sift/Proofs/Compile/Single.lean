import Sift.Proofs.Compile.Composition

/-!
# Documents with one entry

What a client asks for with a single comparison, a single range or a single sort entry. Such a
document compiles as soon as its column is allowed and its entry makes sense by itself. Then it
selects a row by how the value in the column lies to the operands (`selects_comparing_iff`,
`selects_ranging_iff`), or sorts rows by the values in the column (`sortsBefore_ascending_iff`).

Put behind another document, such an entry is one more condition on its rows
(`admits_append_comparing_iff`, `admits_append_dating_iff`, `admits_append_ranging_iff`), and no
pattern has to be built for a comparison or a range.
-/

namespace Sift

/-! ## Operands -/

theorem IsPair.unique {value : Json} {low high low' high' : Scalar} (h : IsPair value low high)
    (h' : IsPair value low' high') : low = low' ∧ high = high' := by
  have hpair := (bounds_eq_ok_iff.mpr h).symm.trans (bounds_eq_ok_iff.mpr h')
  exact Prod.mk.inj (Except.ok.inj hpair)

/-- A row that holds a value compares through that value. -/
theorem compares_iff {row value : Json} {field : String} {op : Operator} {operand : Scalar}
    (h : row.field? field = some value) : Compares row field op operand
      ↔ (compareScalar value operand).any op.accepts = true := by
  simp [Compares, h, Option.any_eq_true]

/-- The entry compares the column with the value by an operator other than `like`, however it is
spelled. -/
structure Condition.Asks (c : Condition) (field : String) (op : Operator) (value : Json) :
    Prop where
  field_eq : c.field = field
  value_eq : c.value = value
  means : c.Means op
  ne_like : op ≠ .like

theorem ofText?_text (op : Operator) : Operator.ofText? op.text = some op := by
  cases op <;> decide +kernel

/-- Written in its own way, an operator is asked for. -/
theorem asks_text (op : Operator) (h : op ≠ .like) (field : String) (value : Json) :
    Condition.Asks ⟨field, some op.text, value⟩ field op value :=
  ⟨rfl, rfl, meantOperator?_eq_some_iff.mp (ofText?_text op), h⟩

/-- The value is neither null nor an array nor an object, and this is its scalar. -/
structure Json.IsOperand (value : Json) (operand : Scalar) : Prop where
  scalar : Scalar.ofJson? value = some operand
  ne_null : operand ≠ .null

theorem Json.IsOperand.value_ne_null {value : Json} {operand : Scalar}
    (h : value.IsOperand operand) : value ≠ .null := by
  rintro rfl
  exact h.ne_null (Option.some.inj h.scalar).symm

theorem Json.IsOperand.isPair {l u : Json} {low high : Scalar} (hl : l.IsOperand low)
    (hu : u.IsOperand high) : IsPair (.array [l, u]) low high :=
  ⟨l, u, rfl, hl.scalar, hu.scalar, hl.ne_null, hu.ne_null⟩

theorem isOperand_string (text : String) : (Json.string text).IsOperand (.text text) :=
  ⟨rfl, nofun⟩

theorem isOperand_number (n : Number) : (Json.number n).IsOperand (.ofNumber n) := by
  refine ⟨rfl, ?_⟩
  cases n with
  | integer i => by_cases h : Scalar.fitsSigned i = true <;> simp [Scalar.ofNumber, h]
  | decimal x => simp [Scalar.ofNumber]

theorem Scalar.toBinary64?_ofNumber (n : Number) :
    (Scalar.ofNumber n).toBinary64? = some n.toBinary64 := by
  cases n with
  | integer i =>
    by_cases h : Scalar.fitsSigned i = true <;>
      simp [Scalar.ofNumber, h, Scalar.toBinary64?, Number.toBinary64]
  | decimal x => rfl

/-- A number that a document holds is compared as the floating-point number next to it, whether or
not it fits the integers of a plan. -/
theorem compareScalar_number (m n : Number) :
    compareScalar (.number m) (.ofNumber n) = m.toBinary64.compare? n.toBinary64 := by
  simp [compareScalar, compareNumeric, Scalar.toBinary64?_ofNumber]

/-- A comparison of an allowed column with a scalar is a valid entry. -/
theorem Condition.Asks.valid {c : Condition} {field : String} {op : Operator} {value : Json}
    {operand : Scalar} {allowed : FieldSet} (h : c.Asks field op value)
    (hfield : field ∈ allowed) (hvalue : value.IsOperand operand) :
    (Entry.compare c).Valid allowed := by
  have hscalar : value.IsScalar :=
    (Scalar.ofJson?_isSome_iff value).mp (by rw [hvalue.scalar]; rfl)
  have hnull := hvalue.value_ne_null
  obtain ⟨rfl, rfl, hmeans, hlike⟩ := h
  exact ⟨hfield, op, hmeans, .scalar hlike hnull hscalar⟩

theorem Condition.Asks.valid_date {c : Condition} {field text : String} {op : Operator} {day : Date}
    {allowed : FieldSet} (h : c.Asks field op (.string text)) (hfield : field ∈ allowed)
    (hday : Date.ofText? text = some day) : (Entry.date c).Valid allowed := by
  obtain ⟨rfl, hvalue, hmeans, hlike⟩ := h
  refine ⟨hfield, op, hmeans, ?_⟩
  rw [hvalue]
  exact .day hlike hday

/-- A row passes the entry if it compares with the scalar as the operator says. -/
theorem Condition.Asks.holds_iff {c : Condition} {field : String} {op : Operator} {value : Json}
    {operand : Scalar} {row : Json} (h : c.Asks field op value) (hvalue : value.IsOperand operand) :
    c.Holds row ↔ Compares row field op operand := by
  have hnull := hvalue.value_ne_null
  have hscalar := hvalue.scalar
  have hlike := h.ne_like
  obtain ⟨rfl, rfl, hmeans, -⟩ := h
  unfold Condition.Holds
  rw [meantOperator?_eq_some_iff.mpr hmeans]
  split <;> simp_all

/-- A row passes an entry on calendar days if its day compares with the given one as the operator
says. -/
theorem Condition.Asks.holdsOfDay_iff {c : Condition} {field text : String} {op : Operator}
    {day operand : Date} {row : Json} (h : c.Asks field op (.string text))
    (hrow : dayOf? row field = some day) (hoperand : Date.ofText? text = some operand) :
    c.HoldsOfDay row ↔ op.accepts (day.compare operand) = true := by
  have hlike := h.ne_like
  obtain ⟨rfl, hvalue, hmeans, -⟩ := h
  unfold Condition.HoldsOfDay
  rw [meantOperator?_eq_some_iff.mpr hmeans, hvalue, hrow]
  cases op <;> simp_all

/-! ## The documents -/

namespace Document

def comparing (c : Condition) : Document := { empty with conditions := [c] }

/-- The document that makes one comparison of the calendar day of a column. -/
def dating (c : Condition) : Document := { empty with dates := [c] }

/-- The document that asks for the rows whose column lies between two bounds. -/
def ranging (field : String) (low high : Json) : Document :=
  { empty with between := [[(field, .array [low, high])]] }

def ascending (field : String) : Document := { empty with order := [⟨field, some "asc"⟩] }

theorem has_comparing_iff {c : Condition} {x : Entry} : (comparing c).Has x ↔ x = .compare c := by
  cases x <;> simp [comparing, empty, Has, bounds]

theorem has_dating_iff {c : Condition} {x : Entry} : (dating c).Has x ↔ x = .date c := by
  cases x <;> simp [dating, empty, Has, bounds]

theorem has_ranging_iff {field : String} {low high : Json} {x : Entry} :
    (ranging field low high).Has x ↔ x = .between (field, .array [low, high]) := by
  cases x <;> simp [ranging, empty, Has, bounds]

theorem has_ascending_iff {field : String} {x : Entry} :
    (ascending field).Has x ↔ x = .order ⟨field, some "asc"⟩ := by
  cases x <;> simp [ascending, empty, Has, bounds]

variable {key : String} {row : Json}

/-- One comparison admits the rows that pass it and have a primary key. -/
theorem admits_comparing_iff {c : Condition} :
    (comparing c).Admits key row ↔ ¬ Absent row key ∧ c.Holds row := by
  constructor
  · intro h
    exact ⟨h.keyed, h.conditions c (.head _)⟩
  · rintro ⟨hkeyed, hholds⟩
    refine ⟨hkeyed, List.forall_mem_singleton.mpr hholds, nofun, nofun, nofun, .inl nofun⟩

/-- One range besides bounds that are no pairs: a row has to lie between its ends. -/
theorem admitsBetween_concat_iff {between : List Fields} {field : String} {l h : Json}
    {low high : Scalar} (hno : ∀ b ∈ between.flatten, ¬ b.2.BoundsRange)
    (hpair : IsPair (.array [l, h]) low high) :
    AdmitsBetween (between ++ [[(field, .array [l, h])]]) row ↔ LiesBetween row field low high := by
  have hbounds : (between ++ [[(field, Json.array [l, h])]]).flatten
      = between.flatten ++ [(field, Json.array [l, h])] := by simp
  rw [admitsBetween_iff, hbounds]
  constructor
  · rintro (hnone | ⟨b, hb, low', high', hpair', hlies⟩)
    · exact absurd ⟨low, high, hpair⟩ (hnone (field, .array [l, h]) (by simp))
    -- None of the earlier bounds is a pair, so the pair that contains the row is the new one.
    · rcases List.mem_append.mp hb with hb | hb
      · exact absurd ⟨low', high', hpair'⟩ (hno b hb)
      · obtain rfl := List.mem_singleton.mp hb
        obtain ⟨rfl, rfl⟩ := hpair.unique hpair'
        exact hlies
  · intro hlies
    exact .inr ⟨(field, .array [l, h]), by simp, low, high, hpair, hlies⟩

/-- One range admits the rows that lie in it and have a primary key. -/
theorem admits_ranging_iff {field : String} {l h : Json} {low high : Scalar}
    (hpair : IsPair (.array [l, h]) low high) :
    (ranging field l h).Admits key row ↔ ¬ Absent row key ∧ LiesBetween row field low high := by
  have hbetween : AdmitsBetween ([] ++ [[(field, .array [l, h])]]) row
      ↔ LiesBetween row field low high := admitsBetween_concat_iff nofun hpair
  constructor
  · intro h
    exact ⟨h.keyed, hbetween.mp h.between⟩
  · rintro ⟨hkeyed, hlies⟩
    exact ⟨hkeyed, nofun, nofun, nofun, nofun, hbetween.mpr hlies⟩

/-! ### Behind another document -/

variable {d : Document} {c : Condition} {field : String} {v l u : Json} {op : Operator}

theorem append_comparing (d : Document) (c : Condition) :
    d ++ comparing c = { d with conditions := d.conditions ++ [c] } := by
  show Document.mk (d.conditions ++ [c]) (d.dates ++ []) (d.nulls ++ []) (d.notNulls ++ [])
    (d.between ++ []) (d.order ++ []) = _
  simp only [List.append_nil]

theorem append_dating (d : Document) (c : Condition) :
    d ++ dating c = { d with dates := d.dates ++ [c] } := by
  show Document.mk (d.conditions ++ []) (d.dates ++ [c]) (d.nulls ++ []) (d.notNulls ++ [])
    (d.between ++ []) (d.order ++ []) = _
  simp only [List.append_nil]

theorem append_ranging (d : Document) (field : String) (l u : Json) :
    d ++ ranging field l u = { d with between := d.between ++ [[(field, .array [l, u])]] } := by
  show Document.mk (d.conditions ++ []) (d.dates ++ []) (d.nulls ++ []) (d.notNulls ++ [])
    (d.between ++ [[(field, .array [l, u])]]) (d.order ++ []) = _
  simp only [List.append_nil]

/-- One comparison more is one condition more on a row. -/
theorem admits_append_comparing_iff :
    (d ++ comparing c).Admits key row ↔ d.Admits key row ∧ c.Holds row := by
  rw [append_comparing]
  constructor
  · rintro ⟨hkeyed, hconditions, hdates, hnulls, hnotNulls, hbetween⟩
    have hconditions := List.forall_mem_append.mp hconditions
    exact ⟨⟨hkeyed, hconditions.1, hdates, hnulls, hnotNulls, hbetween⟩,
      hconditions.2 c (.head _)⟩
  · rintro ⟨⟨hkeyed, hconditions, hdates, hnulls, hnotNulls, hbetween⟩, hc⟩
    refine ⟨hkeyed, ?_, hdates, hnulls, hnotNulls, hbetween⟩
    exact List.forall_mem_append.mpr ⟨hconditions, List.forall_mem_singleton.mpr hc⟩

theorem admits_append_dating_iff :
    (d ++ dating c).Admits key row ↔ d.Admits key row ∧ c.HoldsOfDay row := by
  rw [append_dating]
  constructor
  · rintro ⟨hkeyed, hconditions, hdates, hnulls, hnotNulls, hbetween⟩
    have hdates := List.forall_mem_append.mp hdates
    exact ⟨⟨hkeyed, hconditions, hdates.1, hnulls, hnotNulls, hbetween⟩, hdates.2 c (.head _)⟩
  · rintro ⟨⟨hkeyed, hconditions, hdates, hnulls, hnotNulls, hbetween⟩, hc⟩
    refine ⟨hkeyed, hconditions, ?_, hnulls, hnotNulls, hbetween⟩
    exact List.forall_mem_append.mpr ⟨hdates, List.forall_mem_singleton.mpr hc⟩

/-- A range is one more condition if the document has no other. -/
theorem admits_append_ranging_iff {low high : Scalar} (hno : ∀ b ∈ d.bounds, ¬ b.2.BoundsRange)
    (hpair : IsPair (.array [l, u]) low high) :
    (d ++ ranging field l u).Admits key row
      ↔ d.Admits key row ∧ LiesBetween row field low high := by
  rw [append_ranging]
  constructor
  · rintro ⟨hkeyed, hconditions, hdates, hnulls, hnotNulls, hbetween⟩
    exact ⟨⟨hkeyed, hconditions, hdates, hnulls, hnotNulls, admitsBetween_iff.mpr (.inl hno)⟩,
      (admitsBetween_concat_iff hno hpair).mp hbetween⟩
  · rintro ⟨⟨hkeyed, hconditions, hdates, hnulls, hnotNulls, -⟩, hlies⟩
    exact ⟨hkeyed, hconditions, hdates, hnulls, hnotNulls,
      (admitsBetween_concat_iff hno hpair).mpr hlies⟩

end Document

section Patterns

variable {e : Entity} {d : Document} {p p' : Plan} {field : String}

/-- A comparison other than by `like` has no pattern to build. -/
theorem largePattern?_append_comparing {c : Condition} {op : Operator} {v : Json}
    (hp : e.compile d = .ok p) (hp' : e.compile (d ++ .comparing c) = .ok p')
    (hc : c.Asks field op v) : p'.largePattern? = p.largePattern? := by
  have hnone : c.pattern? = none := by
    rw [pattern?_of_means hc.means, if_neg hc.ne_like]
  have hpatterns : p'.patterns = p.patterns := by
    rw [(transcribes_of_compile hp').patterns_eq, (transcribes_of_compile hp).patterns_eq,
      Document.append_comparing, List.filterMap_append, List.filterMap_cons_none hnone,
      List.filterMap_nil, List.append_nil]
  unfold Plan.largePattern?
  rw [hpatterns]

/-- A range has no pattern, so none can become too large by it. -/
theorem largePattern?_append_ranging {l u : Json} (hp : e.compile d = .ok p)
    (hp' : e.compile (d ++ .ranging field l u) = .ok p') : p'.largePattern? = p.largePattern? := by
  have hpatterns : p'.patterns = p.patterns := by
    rw [(transcribes_of_compile hp').patterns_eq, (transcribes_of_compile hp).patterns_eq,
      Document.append_ranging]
  unfold Plan.largePattern?
  rw [hpatterns]

end Patterns

/-! ## What they ask for -/

/-- A sort that begins with a column goes by what the rows hold in it, unless they tie there. -/
theorem compareRows_settledSort {e : Entity} {field : String} {a b : Json}
    (h : compareValues (a.field? field) (b.field? field) ≠ .eq) :
    compareRows (Query.settledSort e [⟨field, .ascending⟩]) a b
      = compareValues (a.field? field) (b.field? field) := by
  have hfirst : ∀ keys, compareRows (⟨field, .ascending⟩ :: keys) a b
      = compareValues (a.field? field) (b.field? field) := by
    intro keys
    show (compareValues (a.field? field) (b.field? field)).then _ = _
    cases hcompare : compareValues (a.field? field) (b.field? field) with
    | eq => exact absurd hcompare h
    | lt | gt => rfl
  unfold Query.settledSort
  split
  · exact hfirst []
  · exact hfirst _

namespace Entity

/-- The row has a primary key, and this value in the column. -/
structure Holds (e : Entity) (field : String) (value row : Json) : Prop where
  keyed : ¬ Absent row e.primaryKey
  value : row.field? field = some value

/-- The document compiles to a plan that selects the row. -/
def Selects (e : Entity) (d : Document) (row : Json) : Prop :=
  ∃ p, e.compile d = .ok p ∧ (Query.resolve e p).selects row = true

/-- The document compiles to a plan whose sort puts the first row before the second. -/
def SortsBefore (e : Entity) (d : Document) (a b : Json) : Prop :=
  ∃ p, e.compile d = .ok p ∧ Sift.SortsBefore (Query.resolve e p).sort a b

variable {e : Entity} {d : Document} {row : Json}

/-- There are rows with any value but null in any column. -/
theorem exists_holds (e : Entity) (field : String) {value : Json} (hnull : value ≠ .null) :
    ∃ row, e.Holds field value row := by
  let fields := Json.putField field value [(e.primaryKey, value)]
  have hkey : fields.lookup e.primaryKey = some value := by
    by_cases hfield : e.primaryKey = field
    · rw [hfield]
      exact Json.lookup_putField_self ..
    · rw [Json.lookup_putField_of_ne _ _ hfield]
      simp
  refine ⟨.object fields, ?_, Json.lookup_putField_self ..⟩
  simp [Absent, Json.field?, hkey, hnull]

/-- An entity selects what a document admits, provided that every entry is valid. -/
theorem selects_iff :
    e.Selects d row ↔ (∀ x, d.Has x → x.Valid e.queryable) ∧ d.Admits e.primaryKey row := by
  constructor
  · rintro ⟨p, hp, hrow⟩
    exact ⟨exists_compile_iff.mp ⟨p, hp⟩, (selects_eq_true_iff hp row).mp hrow⟩
  · rintro ⟨hvalid, hadmits⟩
    obtain ⟨p, hp⟩ := exists_compile_iff.mpr hvalid
    exact ⟨p, hp, (selects_eq_true_iff hp row).mpr hadmits⟩

/-- A document with a single valid entry, put behind another, is one more condition on its rows. -/
theorem selects_append_entry_iff {single : Document} {x : Entry} {holds : Prop}
    (hhas : ∀ y, single.Has y ↔ y = x) (hx : x.Valid e.queryable)
    (hadmits : (d ++ single).Admits e.primaryKey row ↔ d.Admits e.primaryKey row ∧ holds) :
    e.Selects (d ++ single) row ↔ e.Selects d row ∧ holds := by
  have hvalid : (∀ y, (d ++ single).Has y → y.Valid e.queryable)
      ↔ ∀ y, d.Has y → y.Valid e.queryable := by
    simp only [Document.has_append_iff, hhas, or_imp, forall_and, forall_eq, hx, and_true]
  rw [selects_iff, selects_iff, hadmits, hvalid, and_assoc]

/-- With one valid comparison more, those of the selected rows are left that pass it. -/
theorem selects_append_comparing_iff {c : Condition} (hc : (Entry.compare c).Valid e.queryable) :
    e.Selects (d ++ .comparing c) row ↔ e.Selects d row ∧ c.Holds row :=
  selects_append_entry_iff (fun _ => Document.has_comparing_iff) hc
    Document.admits_append_comparing_iff

theorem selects_append_dating_iff {c : Condition} (hc : (Entry.date c).Valid e.queryable) :
    e.Selects (d ++ .dating c) row ↔ e.Selects d row ∧ c.HoldsOfDay row :=
  selects_append_entry_iff (fun _ => Document.has_dating_iff) hc
    Document.admits_append_dating_iff

variable {field : String} {value : Json}

theorem selects_iff_of_compile {p : Plan} (hp : e.compile d = .ok p) :
    e.Selects d row ↔ (Query.resolve e p).selects row = true := by
  constructor
  · rintro ⟨p', hp', hrow⟩
    cases hp.symm.trans hp'
    exact hrow
  · intro hrow
    exact ⟨p, hp, hrow⟩

/-- A comparison with a scalar compiles as soon as its column may be queried. -/
theorem exists_compile_comparing {c : Condition} {op : Operator} {v : Json} {operand : Scalar}
    (hfield : field ∈ e.queryable) (hc : c.Asks field op v) (hv : v.IsOperand operand) :
    ∃ p, e.compile (.comparing c) = .ok p := by
  refine exists_compile_iff.mpr fun x hx => ?_
  obtain rfl := Document.has_comparing_iff.mp hx
  exact hc.valid hfield hv

/-- A comparison selects a row by how its value lies to the operand. -/
theorem selects_comparing_iff {c : Condition} {op : Operator} {v : Json} {operand : Scalar}
    (hfield : field ∈ e.queryable) (hc : c.Asks field op v) (hv : v.IsOperand operand)
    (h : e.Holds field value row) : e.Selects (.comparing c) row
      ↔ (compareScalar value operand).any op.accepts = true := by
  have hvalid := exists_compile_iff.mp (exists_compile_comparing hfield hc hv)
  rw [selects_iff, Document.admits_comparing_iff, and_iff_right hvalid, and_iff_right h.keyed,
    hc.holds_iff hv]
  exact compares_iff h.value

/-- A range compiles whatever its bounds are. -/
theorem exists_compile_ranging (hfield : field ∈ e.queryable) (l u : Json) :
    ∃ p, e.compile (.ranging field l u) = .ok p := by
  refine exists_compile_iff.mpr fun x hx => ?_
  obtain rfl := Document.has_ranging_iff.mp hx
  exact ⟨hfield, trivial⟩

/-- A range selects a row by how its value lies to the bounds. -/
theorem selects_ranging_iff {l u : Json} {low high : Scalar} (hfield : field ∈ e.queryable)
    (hl : l.IsOperand low) (hu : u.IsOperand high) (h : e.Holds field value row) :
    e.Selects (.ranging field l u) row ↔ (compareScalar value low).any (· != .lt) = true
      ∧ (compareScalar value high).any (· != .gt) = true := by
  have hvalid := exists_compile_iff.mp (exists_compile_ranging hfield l u)
  rw [selects_iff, Document.admits_ranging_iff (hl.isPair hu), and_iff_right hvalid,
    and_iff_right h.keyed]
  exact and_congr (compares_iff h.value) (compares_iff h.value)

/-- Sorting by one column goes by the primary key after it. -/
theorem sort_of_compile_ascending {p : Plan} (hp : e.compile (.ascending field) = .ok p) :
    (Query.resolve e p).sort = Query.settledSort e [⟨field, .ascending⟩] := by
  have hkeys : p.sort = [⟨field, .ascending⟩] := sort_of_compile hp
  simp [Query.resolve, Query.requestedSort, hkeys]

theorem exists_compile_ascending (hfield : field ∈ e.queryable) :
    ∃ p, e.compile (.ascending field) = .ok p := by
  refine exists_compile_iff.mpr fun x hx => ?_
  obtain rfl := Document.has_ascending_iff.mp hx
  exact ⟨hfield, trivial⟩

/-- Sorting by a column puts a row before those that are greater by that column. -/
theorem sortsBefore_ascending_iff (hfield : field ∈ e.queryable) {a b : Json} :
    e.SortsBefore (.ascending field) a b
      ↔ compareRows (Query.settledSort e [⟨field, .ascending⟩]) a b = .lt := by
  rw [← sortsBefore_iff]
  constructor
  · rintro ⟨p, hp, hbefore⟩
    rwa [sort_of_compile_ascending hp] at hbefore
  · intro hbefore
    obtain ⟨p, hp⟩ := exists_compile_ascending hfield
    rw [← sort_of_compile_ascending hp] at hbefore
    exact ⟨p, hp, hbefore⟩

end Entity

end Sift
