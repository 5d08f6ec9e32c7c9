import Mathlib.Data.List.Induction
import Sift.Proofs.Compile.Inversion
import Sift.Proofs.Document.Grammar

/-!
# Reading documents

The reader accepts exactly the values of the grammar, and makes of them the document that they write
(`ofJson_eq_ok_iff`). Both an object and a sort entry within it are read field by field, each field
after what the fields before it have come to; so the facts on all fields go by induction from the
end of the list, where the last field of a name decides.

Main statement: `ofJson_eq_ok_iff`.
-/

namespace Sift

open List (Forall₂)

/-! ## Fields -/

namespace Json

@[simp]
theorem last?_nil (name : String) : last? name [] = none := rfl

/-- A field counts only if no later one has its name. -/
theorem last?_concat (name : String) (fields : Fields) (f : String × Json) :
    last? name (fields ++ [f]) = if f.1 = name then some f.2 else last? name fields := by
  unfold last?
  rw [List.reverse_append, List.reverse_singleton, List.singleton_append, List.lookup_cons]
  by_cases h : f.1 = name
  · simp [h]
  · have hne : (name == f.1) = false := by
      rw [beq_eq_false_iff_ne]
      exact fun heq => h heq.symm
    simp [h, hne]

theorem mem_of_last? {name : String} {fields : Fields} {x : Json}
    (h : last? name fields = some x) : (name, x) ∈ fields := by
  obtain ⟨before, after, hfields, -⟩ := List.lookup_eq_some_iff.mp h
  have hmem : (name, x) ∈ fields.reverse := by simp [hfields]
  exact List.mem_reverse.mp hmem

theorem exists_last? {name : String} {fields : Fields} {x : Json} (h : (name, x) ∈ fields) :
    ∃ y, last? name fields = some y := by
  cases hlast : last? name fields with
  | some y => exact ⟨y, rfl⟩
  | none =>
    have hno := List.lookup_eq_none_iff.mp hlast (name, x) (List.mem_reverse.mpr h)
    simp at hno

/-! ## Single values -/

theorem text?_eq_some_iff {v : Json} {s : String} : v.text? = some s ↔ v = .string s := by
  cases v <;> simp [text?]

theorem asString_eq_ok_iff {v : Json} {s : String} :
    v.asString = .ok s ↔ v.IsText ∧ v = .string s := by
  cases v <;> simp [asString, IsText]

/-- Only an object has fields. -/
theorem asFields_eq_ok_iff {v : Json} {fields : Fields} :
    v.asFields = .ok fields ↔ v.IsObject ∧ v = .object fields := by
  cases v <;> simp [asFields, IsObject]

theorem asOptionalString_eq_ok_iff {v : Json} {o : Option String} :
    v.asOptionalString = .ok o ↔ v.IsTextOrNull ∧ v.text? = o := by
  cases v <;>
    simp [asOptionalString, asString, IsTextOrNull, IsText, text?, Except.map]

end Json

/-- An entry is determined by the array that it is written as. -/
theorem Condition.written_injective : Function.Injective Condition.written := by
  rintro ⟨field, op, value⟩ ⟨field', op', value'⟩ h
  cases op <;> cases op' <;> simp [written] at h <;> simp [h]

theorem Json.IsCondition.exists_written {v : Json} (h : v.IsCondition) :
    ∃ c : Condition, v = c.written := by
  cases h with
  | pair field value => exact ⟨⟨field, none, value⟩, rfl⟩
  | triple field operator value => exact ⟨⟨field, some operator, value⟩, rfl⟩

/-- An entry is read from exactly the arrays that write one. -/
theorem condition_ofJson_eq_ok_iff {v : Json} {c : Condition} :
    Condition.ofJson v = .ok c ↔ v.IsCondition ∧ v = c.written := by
  constructor
  · intro h
    unfold Condition.ofJson at h
    split at h
    · next items =>
      unfold Condition.ofItems at h
      split at h <;> cases h
      · exact ⟨.pair .., rfl⟩
      · exact ⟨.triple .., rfl⟩
    · cases h
  · rintro ⟨-, rfl⟩
    obtain ⟨field, op, value⟩ := c
    cases op <;> rfl

/-! ## Sort entries -/

namespace OrderEntry

/-- What a field of an object has to hold for the object to be a sort entry. -/
def FieldFits (f : String × Json) : Prop :=
  (f.1 = "field" → f.2.IsText) ∧ (f.1 = "order" → f.2.IsTextOrNull)

/-- A field of a sort entry replaces what was known of it before. -/
theorem takeField_eq_ok_iff {known known' : Option String × Option String} {f : String × Json} :
    takeField known f = .ok known' ↔ FieldFits f
      ∧ (if f.1 = "field" then f.2.text? else known.1) = known'.1
      ∧ (if f.1 = "order" then f.2.text? else known.2) = known'.2 := by
  obtain ⟨name, value⟩ := f
  by_cases hfield : name = "field"
  · subst hfield
    cases value <;>
      simp [takeField, FieldFits, Json.asString, Json.IsText, Json.text?, Except.map, Prod.ext_iff]
  by_cases horder : name = "order"
  · subst horder
    simp [takeField, FieldFits, map_eq_ok_iff, Json.asOptionalString_eq_ok_iff, Prod.ext_iff]
    tauto
  · simp [takeField, FieldFits, hfield, horder, Prod.ext_iff]

/-- What the fields of an object come to: of each of the two that mean something, the last. -/
theorem foldlM_takeField_eq_ok_iff {fields : Fields} {known : Option String × Option String} :
    fields.foldlM takeField (none, none) = .ok known ↔ (∀ f ∈ fields, FieldFits f)
      ∧ (Json.last? "field" fields).bind Json.text? = known.1
      ∧ (Json.last? "order" fields).bind Json.text? = known.2 := by
  -- From the right: the last field of a name decides, so the induction takes one off at the end.
  induction fields using List.reverseRecOn generalizing known with
  | nil => simp [Prod.ext_iff, pure, Except.pure]
  | append_singleton fields f ih =>
    have hlast (name : String) :
        (Json.last? name (fields ++ [f])).bind Json.text?
          = if f.1 = name then f.2.text? else (Json.last? name fields).bind Json.text? := by
      rw [Json.last?_concat]
      split <;> rfl
    rw [List.foldlM_append, bind_eq_ok_iff]
    simp only [List.foldlM_cons, List.foldlM_nil, bind_pure, ih, takeField_eq_ok_iff, hlast,
      List.forall_mem_append, List.forall_mem_singleton]
    constructor
    · rintro ⟨before, ⟨hfits, hfield, horder⟩, hf, hfield', horder'⟩
      rw [hfield, horder]
      exact ⟨⟨hfits, hf⟩, hfield', horder'⟩
    · rintro ⟨⟨hfits, hf⟩, hfield, horder⟩
      exact ⟨(_, _), ⟨hfits, rfl, rfl⟩, hf, hfield, horder⟩

/-- An object is a sort entry if its known fields are texts and its column is given. -/
theorem isOrder_object_iff {fields : Fields} :
    (Json.object fields).IsOrder
      ↔ (∀ f ∈ fields, FieldFits f)
        ∧ ∃ s, (Json.last? "field" fields).bind Json.text? = some s := by
  constructor
  · rintro ⟨⟨x, hx⟩, hfields, horders⟩
    obtain ⟨y, hy⟩ := Json.exists_last? hx
    obtain ⟨s, rfl⟩ := hfields y (Json.mem_of_last? hy)
    refine ⟨?_, s, by rw [hy]; rfl⟩
    rintro ⟨name, z⟩ hz
    exact ⟨fun h => hfields z (h ▸ hz), fun h => horders z (h ▸ hz)⟩
  · rintro ⟨hfits, s, hs⟩
    obtain ⟨x, hx, -⟩ := Option.bind_eq_some_iff.mp hs
    exact .object ⟨x, Json.mem_of_last? hx⟩ (fun y hy => (hfits _ hy).1 rfl)
      (fun y hy => (hfits _ hy).2 rfl)

/-- Of the fields of a sort entry, the last of each name counts. -/
theorem ofFields_eq_ok_iff {fields : Fields} {o : OrderEntry} :
    ofFields fields = .ok o
      ↔ (Json.object fields).IsOrder ∧ o.WrittenAs (.object fields) := by
  rw [isOrder_object_iff, ofFields, bind_eq_ok_iff]
  constructor
  · rintro ⟨⟨field?, order⟩, hknown, h⟩
    obtain ⟨hfits, hfield, horder⟩ := foldlM_takeField_eq_ok_iff.mp hknown
    cases field? with
    | none => cases h
    | some field =>
      cases h
      exact ⟨⟨hfits, field, hfield⟩, hfield, horder⟩
  · rintro ⟨⟨hfits, -⟩, hfield, horder⟩
    exact ⟨(some o.field, o.order), foldlM_takeField_eq_ok_iff.mpr ⟨hfits, hfield, horder⟩, rfl⟩

/-- An array is a sort entry by the places of its elements. -/
theorem ofItems_eq_ok_iff {items : List Json} {o : OrderEntry} :
    ofItems items = .ok o ↔ (Json.array items).IsOrder ∧ o.WrittenAs (.array items) := by
  obtain ⟨field, order⟩ := o
  constructor
  · intro h
    unfold ofItems at h
    split at h
    · cases h
    · obtain ⟨s, hs, h⟩ := bind_eq_ok_iff.mp h
      cases h
      obtain ⟨htext, hs⟩ := Json.asString_eq_ok_iff.mp hs
      exact ⟨.field htext, Json.text?_eq_some_iff.mpr hs, rfl⟩
    · obtain ⟨s, hs, h⟩ := bind_eq_ok_iff.mp h
      obtain ⟨o, ho, h⟩ := bind_eq_ok_iff.mp h
      cases h
      obtain ⟨htext, hs⟩ := Json.asString_eq_ok_iff.mp hs
      obtain ⟨hnull, ho⟩ := Json.asOptionalString_eq_ok_iff.mp ho
      exact ⟨.both htext hnull, Json.text?_eq_some_iff.mpr hs, ho⟩
    -- With more than two elements the entry fails after all, but only once the first two are read.
    · obtain ⟨-, -, h⟩ := bind_eq_ok_iff.mp h
      obtain ⟨-, -, h⟩ := bind_eq_ok_iff.mp h
      cases h
  · rintro ⟨hform, h⟩
    cases hform with
    | field hx =>
      obtain ⟨hfield, rfl⟩ := h
      rw [Json.text?_eq_some_iff.mp hfield]
      rfl
    | both hx hy =>
      obtain ⟨hfield, horder⟩ := h
      rw [Json.text?_eq_some_iff.mp hfield]
      have hy := Json.asOptionalString_eq_ok_iff.mpr ⟨hy, horder⟩
      exact bind_eq_ok_iff.mpr ⟨field, rfl, bind_eq_ok_iff.mpr ⟨order, hy, rfl⟩⟩

/-- Every value of the right form writes a sort entry. -/
theorem exists_writtenAs {v : Json} (h : v.IsOrder) : ∃ o : OrderEntry, o.WrittenAs v := by
  cases h with
  | object hfield hfields horders =>
    obtain ⟨-, s, hs⟩ := isOrder_object_iff.mp (.object hfield hfields horders)
    exact ⟨⟨s, _⟩, hs, rfl⟩
  | field hx =>
    obtain ⟨s, rfl⟩ := hx
    exact ⟨⟨s, none⟩, rfl, rfl⟩
  | both hx hy =>
    obtain ⟨s, rfl⟩ := hx
    exact ⟨⟨s, _⟩, rfl, rfl⟩

/-- A value writes one sort entry at most. -/
theorem WrittenAs.unique {v : Json} {o o' : OrderEntry} (h : o.WrittenAs v)
    (h' : o'.WrittenAs v) : o = o' := by
  obtain ⟨field, order⟩ := o
  obtain ⟨field', order'⟩ := o'
  unfold WrittenAs at h h'
  split at h
  · grind
  · grind
  · grind
  · cases h

end OrderEntry

theorem orderEntry_ofJson_eq_ok_iff {v : Json} {o : OrderEntry} :
    OrderEntry.ofJson v = .ok o ↔ v.IsOrder ∧ o.WrittenAs v := by
  cases v with
  | object fields => exact OrderEntry.ofFields_eq_ok_iff
  | array items => exact OrderEntry.ofItems_eq_ok_iff
  | _ =>
    refine iff_of_false ?_ ?_
    · rintro ⟨⟩
    · rintro ⟨⟨⟩, -⟩

/-! ## Clauses -/

/-- The entries of a clause that holds entries of one form, from what holds of a single entry. -/
theorem entries_eq_ok_iff {α : Type} {entry : Json → Except DocumentFault α} {form : Json → Prop}
    {writes : Json → α → Prop} (hentry : ∀ {v a}, entry v = .ok a ↔ form v ∧ writes v a)
    {x : Json} {l : List α} :
    Document.entries entry x = .ok l ↔ x.IsListOf form ∧ Forall₂ writes x.elements l := by
  cases x with
  | null => simp [Document.entries, Json.IsListOf, Json.elements, eq_comm]
  | array items =>
    simp only [Document.entries, mapM_eq_ok_iff, hentry, List.forall₂_and_left, Json.IsListOf,
      Json.elements]
    simp
  | _ => simp [Document.entries, Json.IsListOf]

/-- A list is read if each of its elements is. -/
theorem exists_entries {α : Type} {entry : Json → Except DocumentFault α} {form : Json → Prop}
    {writes : Json → α → Prop} (hentry : ∀ {v a}, entry v = .ok a ↔ form v ∧ writes v a)
    (hwrites : ∀ {v}, form v → ∃ a, writes v a) {x : Json} (h : x.IsListOf form) :
    ∃ l, Document.entries entry x = .ok l := by
  suffices ∃ l, Forall₂ writes x.elements l by
    obtain ⟨l, hl⟩ := this
    exact ⟨l, (entries_eq_ok_iff hentry).mpr ⟨h, hl⟩⟩
  -- A clause that is null has no entries.
  obtain rfl | ⟨items, rfl, hitems⟩ := h
  · exact ⟨[], .nil⟩
  · change ∃ l, Forall₂ writes items l
    induction items with
    | nil => exact ⟨[], .nil⟩
    | cons v items ih =>
      rw [List.forall_mem_cons] at hitems
      obtain ⟨a, ha⟩ := hwrites hitems.1
      obtain ⟨l, hl⟩ := ih hitems.2
      exact ⟨a :: l, .cons ha hl⟩

theorem forall₂_eq_iff_eq_map {α β : Type} {f : β → α} {l : List α} {m : List β} :
    Forall₂ (fun a b => a = f b) l m ↔ l = m.map f := by
  rw [← List.forall₂_eq_eq_eq, List.forall₂_map_right_iff]

namespace Document

theorem clause?_eq_some_iff {key : String} {clause : Clause} :
    clause? key = some clause ↔ clause.key = key := by
  constructor
  · intro h
    unfold clause? at h
    exact beq_iff_eq.mp (List.find?_some h :)
  · rintro rfl
    cases clause <;> decide

/-- A clause is taken into a document exactly if it is a list of entries of its form. -/
theorem takeClause_lists {d d' : Document} {x : Json} {clause : Clause}
    (h : d.takeClause x clause = .ok d') :
    x.IsListOf clause.IsEntry ∧ clause.Lists x.elements d' := by
  cases clause with
  | compare | date =>
    obtain ⟨l, hl, rfl⟩ := map_eq_ok_iff.mp h
    obtain ⟨hx, hl⟩ := (entries_eq_ok_iff condition_ofJson_eq_ok_iff).mp hl
    exact ⟨hx, forall₂_eq_iff_eq_map.mp hl⟩
  | isNull | notNull =>
    obtain ⟨l, hl, rfl⟩ := map_eq_ok_iff.mp h
    obtain ⟨hx, hl⟩ := (entries_eq_ok_iff Json.asString_eq_ok_iff).mp hl
    exact ⟨hx, forall₂_eq_iff_eq_map.mp hl⟩
  | between =>
    obtain ⟨l, hl, rfl⟩ := map_eq_ok_iff.mp h
    obtain ⟨hx, hl⟩ := (entries_eq_ok_iff Json.asFields_eq_ok_iff).mp hl
    exact ⟨hx, forall₂_eq_iff_eq_map.mp hl⟩
  | order =>
    obtain ⟨l, hl, rfl⟩ := map_eq_ok_iff.mp h
    exact (entries_eq_ok_iff orderEntry_ofJson_eq_ok_iff).mp hl

/-- The other clauses stay as they are. -/
theorem takeClause_lists_other {d d' : Document} {x : Json} {clause other : Clause}
    (h : d.takeClause x clause = .ok d') (hne : other ≠ clause) {values : List Json} :
    other.Lists values d' ↔ other.Lists values d := by
  cases clause
  all_goals
    obtain ⟨l, -, rfl⟩ := map_eq_ok_iff.mp h
    cases other <;> first | rfl | exact absurd rfl hne

/-- A clause of the right form is taken into any document. -/
theorem exists_takeClause (d : Document) {x : Json} {clause : Clause}
    (h : x.IsListOf clause.IsEntry) : ∃ d', d.takeClause x clause = .ok d' := by
  cases clause with
  | compare | date =>
    obtain ⟨l, hl⟩ := exists_entries condition_ofJson_eq_ok_iff Json.IsCondition.exists_written h
    exact ⟨_, map_eq_ok_iff.mpr ⟨l, hl, rfl⟩⟩
  | isNull | notNull =>
    obtain ⟨l, hl⟩ := exists_entries Json.asString_eq_ok_iff id h
    exact ⟨_, map_eq_ok_iff.mpr ⟨l, hl, rfl⟩⟩
  | between =>
    obtain ⟨l, hl⟩ := exists_entries Json.asFields_eq_ok_iff id h
    exact ⟨_, map_eq_ok_iff.mpr ⟨l, hl, rfl⟩⟩
  | order =>
    obtain ⟨l, hl⟩ := exists_entries orderEntry_ofJson_eq_ok_iff OrderEntry.exists_writtenAs h
    exact ⟨_, map_eq_ok_iff.mpr ⟨l, hl, rfl⟩⟩

/-! ## Documents -/

/-- The clauses of a document are all that there is to it. -/
theorem WrittenAs.unique {v : Json} {d d' : Document} (h : d.WrittenAs v) (h' : d'.WrittenAs v) :
    d = d' := by
  obtain ⟨conditions, dates, nulls, notNulls, between, order⟩ := d
  obtain ⟨conditions', dates', nulls', notNulls', between', order'⟩ := d'
  have hunique : Relator.RightUnique fun v (o : OrderEntry) => o.WrittenAs v :=
    fun _ _ _ => OrderEntry.WrittenAs.unique
  have hstrings := List.map_injective_iff.mpr @Json.string.inj
  have hconditions : conditions = conditions' :=
    List.map_injective_iff.mpr Condition.written_injective ((h .compare).symm.trans (h' .compare))
  have hdates : dates = dates' :=
    List.map_injective_iff.mpr Condition.written_injective ((h .date).symm.trans (h' .date))
  have hnulls : nulls = nulls' := hstrings ((h .isNull).symm.trans (h' .isNull))
  have hnotNulls : notNulls = notNulls' := hstrings ((h .notNull).symm.trans (h' .notNull))
  have hbetween : between = between' :=
    List.map_injective_iff.mpr @Json.object.inj ((h .between).symm.trans (h' .between))
  have horder : order = order' :=
    List.right_unique_forall₂' hunique (h .order : Forall₂ _ _ _) (h' .order)
  rw [hconditions, hdates, hnulls, hnotNulls, hbetween, horder]

/-- What a field of an object has to hold for the object to be a document. -/
def FieldFits (f : String × Json) : Prop :=
  ∀ clause : Clause, clause.key = f.1 → f.2.IsListOf clause.IsEntry

/-- An object is a document if each field that names a clause has its form. -/
theorem isDocument_object_iff {fields : Fields} :
    (Json.object fields).IsDocument ↔ ∀ f ∈ fields, FieldFits f := by
  constructor
  · rintro (_ | h) ⟨name, x⟩ hx clause rfl
    exact h clause x hx
  · intro h
    exact .object fun clause x hx => h _ hx clause rfl

/-- What one field does: it sets the clause whose key it has. -/
theorem takeField_eq_ok {d d' : Document} {f : String × Json} (h : d.takeField f = .ok d') :
    FieldFits f ∧ ∀ clause : Clause,
      if f.1 = clause.key then clause.Lists f.2.elements d'
      else ∀ values, clause.Lists values d → clause.Lists values d' := by
  obtain ⟨key, x⟩ := f
  unfold takeField at h
  split at h
  · next taken hkey =>
    obtain rfl := clause?_eq_some_iff.mp hkey
    obtain ⟨hx, hlists⟩ := takeClause_lists h
    -- The key stands for one clause only, the one that was taken.
    have heq {clause : Clause} (hc : taken.key = clause.key) : clause = taken :=
      Option.some.inj ((clause?_eq_some_iff.mpr hc.symm).symm.trans hkey)
    refine ⟨fun clause hc => heq hc.symm ▸ hx, fun clause => ?_⟩
    split
    · next hc => exact heq hc ▸ hlists
    · next hc =>
      intro values hvalues
      exact (takeClause_lists_other h fun hclause => hc (hclause ▸ rfl)).mpr hvalues
  · next hkey =>
    cases h
    -- The key stands for no clause, so the field is passed over.
    have hne (clause : Clause) : clause.key ≠ key := fun hc => by
      rw [clause?_eq_some_iff.mpr hc] at hkey
      cases hkey
    refine ⟨fun clause hc => absurd hc (hne clause), fun clause => ?_⟩
    rw [if_neg fun hc => hne clause hc.symm]
    exact fun values hvalues => hvalues

theorem exists_takeField {f : String × Json} (h : FieldFits f) (d : Document) :
    ∃ d', d.takeField f = .ok d' := by
  unfold takeField
  split
  · next clause hkey => exact exists_takeClause d (h clause (clause?_eq_some_iff.mp hkey))
  · exact ⟨d, rfl⟩

/-- A clause that is named again starts anew. -/
theorem listed_concat {fields : Fields} {f : String × Json} {key : String} :
    Json.listed key (.object (fields ++ [f]))
      = if f.1 = key then f.2.elements else Json.listed key (.object fields) := by
  simp only [Json.listed, Json.last?_concat]
  split <;> rfl

/-- Reading an object field by field makes the document that it writes, if it makes any. -/
theorem foldlM_takeField_eq_ok {fields : Fields} {d : Document}
    (h : fields.foldlM takeField empty = .ok d) :
    (∀ f ∈ fields, FieldFits f) ∧ d.WrittenAs (.object fields) := by
  induction fields using List.reverseRecOn generalizing d with
  | nil =>
    cases h
    refine ⟨fun f hf => absurd hf List.not_mem_nil, fun clause => ?_⟩
    cases clause <;> first | rfl | exact .nil
  | append_singleton fields f ih =>
    rw [List.foldlM_append] at h
    simp only [List.foldlM_cons, List.foldlM_nil, bind_pure] at h
    obtain ⟨before, hbefore, h⟩ := bind_eq_ok_iff.mp h
    obtain ⟨hfits, hwritten⟩ := ih hbefore
    obtain ⟨hf, hlists⟩ := takeField_eq_ok h
    refine ⟨List.forall_mem_append.mpr ⟨hfits, List.forall_mem_singleton.mpr hf⟩, fun clause => ?_⟩
    have hclause := hlists clause
    -- The last field replaces what its own clause held and leaves the other clauses.
    rw [listed_concat]
    split
    · next hkey => rwa [if_pos hkey] at hclause
    · next hkey =>
      rw [if_neg hkey] at hclause
      exact hclause _ (hwritten clause)

theorem exists_foldlM_takeField {fields : Fields} (h : ∀ f ∈ fields, FieldFits f) (d : Document) :
    ∃ d', fields.foldlM takeField d = .ok d' := by
  induction fields generalizing d with
  | nil => exact ⟨d, rfl⟩
  | cons f fields ih =>
    rw [List.forall_mem_cons] at h
    obtain ⟨next, hnext⟩ := exists_takeField h.1 d
    obtain ⟨d', hd'⟩ := ih h.2 next
    exact ⟨d', by rw [List.foldlM_cons]; exact bind_eq_ok_iff.mpr ⟨next, hnext, hd'⟩⟩

/-- A document is read from exactly the values of the right form. -/
theorem exists_ofJson_iff {v : Json} : (∃ d, ofJson v = .ok d) ↔ v.IsDocument := by
  cases v with
  | null => exact iff_of_true ⟨empty, rfl⟩ .null
  | object fields =>
    rw [isDocument_object_iff]
    constructor
    · rintro ⟨d, hd⟩
      exact (foldlM_takeField_eq_ok hd).1
    · intro h
      exact exists_foldlM_takeField h empty
  | _ =>
    refine iff_of_false ?_ ?_
    · rintro ⟨d, ⟨⟩⟩
    · rintro ⟨⟩

/-- What is read is what the value writes. -/
theorem writtenAs_of_ofJson {v : Json} {d : Document} (h : ofJson v = .ok d) : d.WrittenAs v := by
  cases v with
  | null =>
    cases h
    intro clause
    cases clause <;> first | rfl | exact .nil
  | object fields => exact (foldlM_takeField_eq_ok h).2
  | _ => cases h

/-! ## What does not matter -/

/-- The unknown fields of a sort entry change nothing. -/
theorem orderEntry_ofJson_essential (v : Json) :
    OrderEntry.ofJson (OrderEntry.essential v) = OrderEntry.ofJson v := by
  cases v with
  | object fields =>
    simp only [OrderEntry.essential, OrderEntry.ofJson, OrderEntry.ofFields, List.foldlM_filter]
    congr 2
    funext known f
    split
    · rfl
    · next h =>
      -- What is filtered out is passed over by the reader as well.
      have h : ¬ (f.1 = "field" ∨ f.1 = "order") := by simpa using h
      rw [not_or] at h
      simp only [OrderEntry.takeField, if_neg h.1, if_neg h.2]
      rfl
  | _ => rfl

theorem takeClause_essential (d : Document) (x : Json) (clause : Clause) :
    d.takeClause (clause.essential x) clause = d.takeClause x clause := by
  cases clause with
  | order =>
    cases x with
    | array items =>
      have hofJson : OrderEntry.ofJson ∘ OrderEntry.essential = OrderEntry.ofJson :=
        funext orderEntry_ofJson_essential
      simp only [Clause.essential, takeClause, entries, List.mapM_map, hofJson]
    | _ => rfl
  | _ => rfl

/-- The outcome is the same without the fields that mean nothing, also when it is a fault. -/
theorem ofJson_essential (v : Json) : ofJson (essential v) = ofJson v := by
  cases v with
  | object fields =>
    simp only [essential, ofJson, List.foldlM_filterMap]
    congr 1
    funext d f
    cases hkey : clause? f.1 with
    | none => simp [takeField, hkey, pure, Except.pure]
    | some clause => simp [takeField, hkey, takeClause_essential]
  | _ => rfl

/-- **A value is accepted exactly if it is in the grammar**, and becomes the document that it
writes; no field that the grammar does not name has a part in the outcome. -/
theorem ofJson_eq_ok_iff (v : Json) :
    ((∃ d, ofJson v = .ok d) ↔ v.IsDocument)
      ∧ (∀ d, ofJson v = .ok d ↔ v.IsDocument ∧ d.WrittenAs v)
      ∧ ∀ v', essential v' = essential v → ofJson v' = ofJson v := by
  refine ⟨exists_ofJson_iff, fun d => ⟨fun h => ?_, ?_⟩, fun v' h => ?_⟩
  · exact ⟨exists_ofJson_iff.mp ⟨d, h⟩, writtenAs_of_ofJson h⟩
  · rintro ⟨hv, hd⟩
    obtain ⟨d', hd'⟩ := exists_ofJson_iff.mpr hv
    rwa [hd.unique (writtenAs_of_ofJson hd')]
  · calc ofJson v' = ofJson (essential v') := (ofJson_essential v').symm
      _ = ofJson (essential v) := by rw [h]
      _ = ofJson v := ofJson_essential v

end Document

/-! ### One document written in two ways -/

namespace Sample

def newest : Document :=
  { Document.empty with
    conditions := [⟨"name", some "like", .string "a"⟩]
    order := [⟨"created", some "desc"⟩, ⟨"id", none⟩] }

/-- A request body with the page that it asks for and a remark on a sort entry. -/
def newestRequest : Json :=
  .object [("page", .number (.integer 2)), ("whereNull", .null),
    ("where", .array [.array [.string "name", .string "like", .string "a"]]),
    ("orderBy", .array [
      .object [("order", .string "desc"), ("remark", .null), ("field", .string "created")],
      .array [.string "id"]])]

def newestRequest' : Json :=
  .object [("whereNull", .null),
    ("where", .array [.array [.string "name", .string "like", .string "a"]]),
    ("orderBy", .array [
      .object [("order", .string "desc"), ("field", .string "created")], .array [.string "id"]]),
    ("page", .number (.integer 7))]

theorem newest_written :
    newestRequest.IsDocument ∧ newest.WrittenAs newestRequest
      ∧ Document.ofJson newestRequest' = .ok newest := by
  have hread : Document.ofJson newestRequest = .ok newest := rfl
  obtain ⟨-, hiff, hessential⟩ := Document.ofJson_eq_ok_iff newestRequest
  obtain ⟨hdocument, hwritten⟩ := (hiff newest).mp hread
  exact ⟨hdocument, hwritten, (hessential newestRequest' rfl).trans hread⟩

end Sample

end Sift
