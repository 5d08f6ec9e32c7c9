import Mathlib.Data.List.Nodup
import Sift.Config.Loading
import Sift.Proofs.Service.Request

/-!
# Configurations read back

The settings of a file are read through a view, and so they can be written once for all of its
formats: a `Form` says how texts, numbers, lists and records look, and `Config.write` says which of
them a configuration is. Whatever is written in a form is read back by every view that takes what
the form makes (`Config.read_write`). The two formats differ only in why their views do so.

In YAML the danger is a text that is spelled like null, and would be no text as a plain scalar. A
`Styling` quotes it.

Main statement: `Config.reads_back`.
-/

namespace Sift

/-! ## Forms -/

/-- The ways in which values can be written. -/
structure Form (α : Type) where
  text : String → α
  number : UInt64 → α
  unset : α
  list : List α → α
  record : List (String × α) → α

section

variable {m : Type → Type} [Monad m] {α : Type}

/-- What is written in the form is taken back by the view. -/
structure View.Takes (v : View m α) (w : Form α) : Prop where
  text : ∀ s, v.text (w.text s) = pure s
  number : ∀ n, v.number (w.number n) = pure n
  unset : v.setting w.unset = pure none
  set : ∀ s, v.setting (w.text s) = pure (some (w.text s))
  items : ∀ l, v.items (w.list l) = pure l
  record : ∀ names fields, (fields.map Prod.fst).Nodup →
    v.record names (w.record fields) = pure fields

namespace Form

variable (w : Form α)

/-- An optional setting that is written in any case. -/
def setting : Option String → α
  | some s => w.text s
  | none => w.unset

/-- An optional setting that is left out where it is not set. -/
def optionalField (name : String) : Option String → List (String × α)
  | some s => [(name, w.text s)]
  | none => []

def texts (l : List String) : α := w.list (l.map w.text)

end Form

variable (w : Form α)

def ServerSettings.write (s : ServerSettings) : α :=
  w.record [("bind", w.text s.bind), ("base_url", w.setting s.baseUrl)]

def Pagination.write (p : Pagination) : α :=
  w.record [("per_page", w.number p.perPage), ("max_per_page", w.number p.maxPerPage)]

def OrderEntry.write (o : OrderEntry) : α :=
  w.record (("field", w.text o.field) :: w.optionalField "order" o.order)

def EntitySettings.write (s : EntitySettings) : α :=
  w.record <| ("name", w.text s.name) :: w.optionalField "plural" s.plural
    ++ w.optionalField "table" s.table
    ++ [("primary_key", w.text s.primaryKey), ("queryable", w.texts s.queryable),
      ("hidden", w.texts s.hidden),
      ("default_sort", w.list (s.defaultSort.map (OrderEntry.write w)))]

def Config.write (c : Config) : α :=
  w.record [("server", c.server.write w), ("pagination", c.pagination.write w),
    ("entities", w.list (c.entities.map (EntitySettings.write w)))]

variable {w} [LawfulMonad m] {v : View m α}

/-- A list of settings is read back if each of them is. -/
theorem View.Takes.list (h : v.Takes w) {β : Type} {item : α → m β} {write : β → α}
    (hitem : ∀ b, item (write b) = pure b) (l : List β) :
    v.list item (w.list (l.map write)) = pure l := by
  have hread : item ∘ write = fun b => pure b := funext hitem
  rw [View.list, h.items, pure_bind, List.mapM_map, hread, List.mapM_pure, List.map_id']

theorem View.Takes.texts (h : v.Takes w) (l : List String) :
    v.list v.text (w.texts l) = pure l :=
  h.list h.text l

/-- A setting left out and one written out are told apart. -/
theorem View.Takes.optionalText (h : v.Takes w) (o : Option String) :
    v.optionalText (w.setting o) = pure o := by
  cases o with
  | none => simp [View.optionalText, Form.setting, h.unset]
  | some s => simp [View.optionalText, Form.setting, h.set, h.text]

theorem ServerSettings.read_write (h : v.Takes w) (s : ServerSettings) :
    ServerSettings.read v (s.write w) = pure s := by
  rw [ServerSettings.read, write, h.record _ _ (by simp)]
  simp [settingOr, List.lookup_cons, h.text, h.optionalText]

theorem Pagination.read_write (h : v.Takes w) (p : Pagination) :
    Pagination.read v (p.write w) = pure p := by
  rw [Pagination.read, write, h.record _ _ (by simp)]
  simp [settingOr, List.lookup_cons, h.number]

theorem OrderEntry.read_write [MonadExcept Unit m] (h : v.Takes w) (o : OrderEntry) :
    OrderEntry.read v (o.write w) = pure o := by
  have hset (s : String) : v.optionalText (w.text s) = pure (some s) := h.optionalText (some s)
  obtain ⟨field, order⟩ := o
  cases order with
  | none =>
    rw [OrderEntry.read, write, h.record _ _ (by simp [Form.optionalField])]
    simp [requiredSetting, settingOr, List.lookup_cons, Form.optionalField, h.text]
  | some order =>
    rw [OrderEntry.read, write, h.record _ _ (by simp [Form.optionalField])]
    simp [requiredSetting, settingOr, List.lookup_cons, Form.optionalField, h.text, hset]

/-- The settings of an entity are read back, also those that are left out. -/
theorem EntitySettings.read_write [MonadExcept Unit m] (h : v.Takes w) (s : EntitySettings) :
    EntitySettings.read v (s.write w) = pure s := by
  have hset (s : String) : v.optionalText (w.text s) = pure (some s) := h.optionalText (some s)
  have hsort := h.list (OrderEntry.read_write h)
  obtain ⟨name, plural, table, primaryKey, queryable, hidden, defaultSort⟩ := s
  cases plural <;> cases table
  all_goals
    rw [EntitySettings.read, write, h.record _ _ (by simp [Form.optionalField])]
    simp [requiredSetting, settingOr, List.lookup_cons, Form.optionalField, h.text, hset, h.texts,
      hsort]

/-- A whole configuration is read back in any form whose pieces are. -/
theorem Config.read_write [MonadExcept Unit m] (h : v.Takes w) (c : Config) :
    Config.read v (c.write w) = pure c := by
  rw [Config.read, write, h.record _ _ (by simp)]
  simp [settingOr, List.lookup_cons, ServerSettings.read_write h, Pagination.read_write h,
    h.list (EntitySettings.read_write h)]

end

/-! ## JSON -/

namespace Json

def form : Form Json := ⟨.string, .ofUInt64, .null, .array, .object⟩

theorem ofNat64?_toNat (n : UInt64) : ofNat64? n.toNat = some n := by
  rw [ofNat64?, if_pos n.toNat_lt, UInt64.ofNat_toNat]

theorem view_takes : view.Takes form where
  text _ := rfl
  number n := ofNat64?_toNat n
  unset := rfl
  set _ := rfl
  items _ := rfl
  record _ _ _ := rfl

end Json

theorem ServerSettings.toJson_eq_write (s : ServerSettings) : s.toJson = s.write Json.form := by
  obtain ⟨bind, baseUrl⟩ := s
  cases baseUrl <;> rfl

theorem Json.optionalField_eq (name : String) (o : Option String) :
    Json.optionalField name o = Json.form.optionalField name o := by
  cases o <;> rfl

theorem OrderEntry.toJson_eq_write (o : OrderEntry) : o.toJson = o.write Json.form := by
  rw [toJson, Json.optionalField_eq]
  rfl

theorem EntitySettings.toJson_eq_write (s : EntitySettings) : s.toJson = s.write Json.form := by
  rw [toJson, Json.optionalField_eq, Json.optionalField_eq, funext OrderEntry.toJson_eq_write]
  rfl

/-- What the service prints is the configuration in the form of JSON. -/
theorem Config.toJson_eq_write (c : Config) : c.toJson = c.write Json.form := by
  rw [toJson, ServerSettings.toJson_eq_write, funext EntitySettings.toJson_eq_write]
  rfl

/-! ## YAML -/

namespace Yaml

/-- The styles in which texts are written. None that could be taken for null is a plain scalar. -/
structure Styling where
  style : String → Style
  apart : ∀ s, style s = .plain → s ≠ "" ∧ isNullText s = false

def Styling.form (σ : Styling) : Form Node where
  text s := .scalar ⟨s, σ.style s, none⟩
  number n := .scalar ⟨toString n.toNat, .plain, none⟩
  unset := .scalar ⟨"null", .plain, none⟩
  list := .sequence
  record fields := .mapping (fields.map fun f => (.scalar ⟨f.1, σ.style f.1, none⟩, f.2))

theorem hexDigit?_of_isDigit {c : Char} (h : c.isDigit = true) :
    hexDigit? c = some (c.toNat - '0'.toNat) := if_pos h

theorem ofDigits?_ten {digits : List Char} (hne : digits ≠ [])
    (hdigits : ∀ c ∈ digits, c.isDigit = true) :
    ofDigits? 10 digits = some (Nat.ofDigitChars 10 digits 0) := by
  -- The induction is over the digits, with what has been read so far as the start of the fold.
  have hfold : ∀ n, digits.foldlM (fun n c =>
      (hexDigit? c).bind fun d => if d < 10 then some (10 * n + d) else none) n
      = some (Nat.ofDigitChars 10 digits n) := by
    clear hne
    induction digits with
    | nil => exact fun n => by simp
    | cons c digits ih =>
      obtain ⟨hc, hrest⟩ := List.forall_mem_cons.mp hdigits
      have hlt : c.toNat - '0'.toNat < 10 := by
        simp only [Char.isDigit, Bool.and_eq_true, decide_eq_true_eq] at hc
        have := UInt32.le_iff_toNat_le.mp hc.2
        have h57 : c.toNat ≤ 57 := this
        have : '0'.toNat = 48 := rfl
        omega
      intro n
      rw [List.foldlM_cons, hexDigit?_of_isDigit hc, Nat.ofDigitChars_cons]
      simp only [Option.bind_some, if_pos hlt]
      exact ih hrest _
  rw [ofDigits?, if_neg (by simpa using hne), hfold]

/-- Only nought starts with a nought. -/
theorem head?_toDigits_ne {n : Nat} (h : n ≠ 0) : (Nat.toDigits 10 n).head? ≠ some '0' := by
  induction n using Nat.strongRecOn with
  | _ n ih =>
    rcases Nat.lt_or_ge n 10 with hlt | hge
    · have hdigit : ∀ d < 10, d ≠ 0 → d.digitChar ≠ '0' := by decide
      rw [Nat.toDigits_of_lt_base hlt]
      intro hhead
      exact hdigit n hlt h (Option.some.inj hhead)
    · have hrest := ih (n / 10) (by omega) (by omega)
      rw [Nat.toDigits_of_base_le (by decide) hge, List.head?_append,
        Option.or_of_isSome (by simp [Nat.toDigits_ne_nil])]
      exact hrest

/-- A text that starts with neither a sign nor a nought writes a number in decimal or none. -/
theorem wholeNumber?_of_head {s : String} {c : Char} {digits : List Char}
    (hs : s.toList = c :: digits) (hplus : c ≠ '+') (hc : c ≠ '0') :
    wholeNumber? s = ofDigits? 10 (c :: digits) := by
  have hzero : hasExtraZero (c :: digits) = false := by
    unfold hasExtraZero
    split
    · next heq => exact absurd (List.cons.inj heq).1 hc
    · rfl
  simp [wholeNumber?, hs, hplus, hc, hzero]

/-- A natural in decimal digits is a whole number to the reader of plain scalars. -/
theorem wholeNumber?_toString (n : Nat) : wholeNumber? (toString n) = some n := by
  by_cases hn : n = 0
  · subst hn
    decide +kernel
  have htext : (toString n).toList = Nat.toDigits 10 n := by simp [Nat.repr_eq_ofList_toDigits]
  have hdigits : ∀ c ∈ Nat.toDigits 10 n, c.isDigit = true := fun c hc =>
    Nat.isDigit_of_mem_toDigits (by decide) (by decide) hc
  have hhead := head?_toDigits_ne hn
  have hvalue : Nat.ofDigitChars 10 (Nat.toDigits 10 n) 0 = n := Nat.ofDigitChars_ten_toDigits
  cases hlist : Nat.toDigits 10 n with
  | nil => exact absurd hlist Nat.toDigits_ne_nil
  | cons c digits =>
    rw [hlist] at htext hdigits hhead hvalue
    have hplus : c ≠ '+' := by
      rintro rfl
      exact absurd (hdigits '+' List.mem_cons_self) (by decide)
    have hc : c ≠ '0' := fun h => hhead (congrArg some h)
    rw [wholeNumber?_of_head htext hplus hc, ofDigits?_ten (List.cons_ne_nil _ _) hdigits, hvalue]

/-- A text in a style that fits it is never taken for a setting left out. -/
theorem isUnset?_text (σ : Styling) (s : String) :
    (⟨s, σ.style s, none⟩ : Scalar).isUnset? = some false := by
  unfold Scalar.isUnset?
  by_cases hstyle : σ.style s = .plain
  -- Only a plain scalar can be unset, and the styling writes no such text as one.
  · obtain ⟨hne, hnull⟩ := σ.apart s hstyle
    have hempty : s.isEmpty = false := by simpa using hne
    simp [hstyle, hempty, hnull]
  · simp [hstyle]

namespace Document

variable (d : Document)

theorem asNumber_form (σ : Styling) (n : UInt64) : d.asNumber (σ.form.number n) = pure n := by
  have hnumber : (⟨toString n.toNat, .plain, none⟩ : Scalar).number? = some n := by
    show (wholeNumber? (toString n.toNat)).bind ofNat64? = some n
    rw [wholeNumber?_toString, Option.bind_some, Json.ofNat64?_toNat]
  show (liftM (⟨toString n.toNat, .plain, none⟩ : Scalar).number? : Reading UInt64) = pure n
  rw [hnumber]
  rfl

theorem asSetting_text (σ : Styling) (s : String) :
    d.asSetting (σ.form.text s) = pure (some (σ.form.text s)) := by
  show ((liftM (⟨s, σ.style s, none⟩ : Scalar).isUnset? : Reading Bool) >>= fun unset =>
    if unset then pure none else pure (some (σ.form.text s))) = _
  rw [isUnset?_text]
  rfl

theorem named_form (σ : Styling) (fields : List (String × Node)) :
    d.named (fields.map fun f => (σ.form.text f.1, f.2)) = pure fields := by
  rw [named, List.mapM_map]
  show fields.mapM (fun f => (pure f : Reading (String × Node))) = pure fields
  rw [List.mapM_pure, List.map_id']

theorem isDistinct_of_nodup {fields : List (String × Node)} (h : (fields.map Prod.fst).Nodup)
    (names : List String) : isDistinct names fields = true := by
  unfold isDistinct
  rw [List.all_eq_true]
  intro name _
  have hcount := List.nodup_iff_count_le_one.mp h name
  rw [List.count, List.countP_map, List.countP_eq_length_filter] at hcount
  exact decide_eq_true hcount

/-- The fields of a record are found under their names, whatever their styles. -/
theorem asRecord_form (σ : Styling) {fields : List (String × Node)}
    (h : (fields.map Prod.fst).Nodup) (names : List String) :
    d.asRecord names (σ.form.record fields) = pure fields := by
  show (do
    let named ← d.named (fields.map fun f : String × Node => (σ.form.text f.1, f.2))
    if isDistinct names named then return named else failure) = _
  rw [named_form, pure_bind, isDistinct_of_nodup h, if_pos rfl]

end Document

theorem view_takes (d : Document) (σ : Styling) : d.view.Takes σ.form where
  text _ := rfl
  number := d.asNumber_form σ
  unset := rfl
  set := d.asSetting_text σ
  items _ := rfl
  record names _ hnodup := d.asRecord_form σ hnodup names

end Yaml

/-! ## Reading back -/

namespace Config

/-- A configuration is read back from the JSON that it is printed as. -/
theorem ofJson?_toJson (c : Config) : ofJson? c.toJson = some c := by
  rw [toJson_eq_write]
  exact read_write Json.view_takes c

/-- A text in YAML whose document is the configuration as it is written. -/
theorem ofYaml?_of_root {c : Config} {text : String} {d : Yaml.Document} {σ : Yaml.Styling}
    (htext : Yaml.Document.ofText? text = some d) (hroot : d.root = c.write σ.form) :
    ofYaml? text = some c := by
  unfold ofYaml?
  rw [htext, Option.bind_eq_bind, Option.bind_some, hroot, read_write (Yaml.view_takes d σ) c]
  rfl

end Config

/-- What is not set is left out. -/
theorem EntitySettings.field?_toJson (s : EntitySettings) :
    s.toJson.field? "plural" = s.plural.map .string
      ∧ s.toJson.field? "table" = s.table.map .string := by
  obtain ⟨name, plural, table, primaryKey, queryable, hidden, defaultSort⟩ := s
  cases plural <;> cases table <;> exact ⟨rfl, rfl⟩

/-- A sort entry without a direction is printed without the field. -/
theorem OrderEntry.field?_toJson (o : OrderEntry) :
    o.toJson.field? "order" = o.order.map .string := by
  obtain ⟨field, order⟩ := o
  cases order <;> rfl

/-- **A configuration reads back.** Whatever is set in a configuration and whatever is not, it is
taken back from the JSON value it is written as, and from every YAML text whose document is the
configuration as it is written there. So it is as valid as before and describes the same entities.
A route segment, a table or a direction that is not set is left out, and the base of the addresses
is null. -/
theorem Config.reads_back (c : Config) :
    Config.ofJson? c.toJson = some c
      ∧ (∀ text d σ, Yaml.Document.ofText? text = some d → d.root = c.write (Yaml.Styling.form σ) →
        Config.ofYaml? text = some c ∧ ∀ file, Config.load file text = c.validate.map fun _ => c)
      ∧ (∀ c', Config.ofJson? c.toJson = some c' →
        c'.validate = c.validate ∧ c'.descriptors = c.descriptors)
      ∧ c.server.toJson.field? "base_url" = some ((c.server.baseUrl.map .string).getD .null)
      ∧ ∀ s ∈ c.entities, s.toJson.field? "plural" = s.plural.map .string
        ∧ s.toJson.field? "table" = s.table.map .string
        ∧ ∀ o ∈ s.defaultSort, o.toJson.field? "order" = o.order.map .string := by
  refine ⟨c.ofJson?_toJson, fun text d σ htext hroot => ?_, fun c' hread => ?_, rfl,
    fun s _ => ?_⟩
  · have hread := Config.ofYaml?_of_root htext hroot
    refine ⟨hread, fun file => ?_⟩
    rw [Config.load, hread]
  · obtain rfl : c = c' := Option.some.inj (c.ofJson?_toJson.symm.trans hread)
    exact ⟨rfl, rfl⟩
  · obtain ⟨hplural, htable⟩ := s.field?_toJson
    exact ⟨hplural, htable, fun o _ => o.field?_toJson⟩

/-! ### An address that is spelled like null -/

namespace Sample

def plainTexts : Yaml.Styling where
  style s := if s = "" || Yaml.isNullText s then .quoted else .plain
  apart s h := by
    by_cases hs : s = "" || Yaml.isNullText s
    · simp [hs] at h
    · simpa using hs

def nullAddress : Config := { Config.standard with server := ⟨"null", none⟩ }

def nullAddressText : String :=
  "server:\n  bind: 'null'\n  base_url: null\n"
    ++ "pagination:\n  per_page: 10\n  max_per_page: 100\nentities: []\n"

set_option maxRecDepth 10000 in
theorem root_nullAddressText : (Yaml.Document.ofText? nullAddressText).map (·.root)
    = some (nullAddress.write plainTexts.form) := by
  with_unfolding_all rfl

/-- The quoted text is an address, and the plain one is none. -/
theorem nullAddress_read_back : Config.ofYaml? nullAddressText = some nullAddress := by
  obtain ⟨d, htext, hroot⟩ := Option.map_eq_some_iff.mp root_nullAddressText
  exact (nullAddress.reads_back.2.1 nullAddressText d plainTexts htext hroot).1

end Sample

end Sift
