import Sift.Proofs.Service.Dispatch

/-!
# Which configurations are valid

The check of a configuration goes through its settings in an order of its own and stops at the first
rule that is broken. What it comes to has no order: a configuration is valid exactly if it is sound
(`Config.IsSound`). The columns that an entity may be sorted by are those that its settings admit,
although the check looks at the entity that is built from them.

The page sizes of a valid configuration are in order, so the default is a size that may be asked
for, and every request for a page gets a size between one and the largest (`PageRequest.Keeps`).

Main statement: `validate_eq_ok_iff_isSound`.
-/

namespace Sift

/-- The route segment of an entity: the one that is set, else its table, else its name with an
`s`. -/
def EntitySettings.segment (s : EntitySettings) : String :=
  (s.plural <|> s.table).getD (s.name ++ "s")

theorem EntitySettings.pluralName_eq_segment (s : EntitySettings) : s.pluralName = s.segment := by
  unfold pluralName tableName segment
  cases s.plural <;> rfl

/-- The configuration can be used. -/
structure Config.IsSound (c : Config) : Prop where
  bind : c.server.bind ≠ ""
  one_le_perPage : 1 ≤ c.pagination.perPage
  one_le_maxPerPage : 1 ≤ c.pagination.maxPerPage
  perPage_le : c.pagination.perPage ≤ c.pagination.maxPerPage
  named : ∀ s ∈ c.entities, s.name ≠ ""
  keyed : ∀ s ∈ c.entities, s.primaryKey ≠ ""
  apart : (c.entities.map EntitySettings.segment).Nodup
  free : ∀ s ∈ c.entities, s.segment ∉ reservedPlurals
  sortable : ∀ s ∈ c.entities, ∀ o ∈ s.defaultSort, o.field ∈ s.queryable ∨ o.field = s.primaryKey

/-! ## Single settings -/

/-- The only violation of a text is to be empty. -/
theorem emptyText_eq_nil_iff {path s : String} : emptyText path s = [] ↔ s ≠ "" := by
  unfold emptyText
  split <;> simp_all

theorem zeroNumber_eq_nil_iff {path : String} {n : UInt64} : zeroNumber path n = [] ↔ 1 ≤ n := by
  unfold zeroNumber
  rw [UInt64.le_iff_toNat_le]
  split
  · next h => simp [h]
  · next h =>
    have hne : n.toNat ≠ 0 := fun hzero => h (UInt64.toNat_inj.mp hzero)
    simp
    omega

namespace Config

theorem violations_entity_eq_nil_iff {index : Nat} {s : EntitySettings} :
    s.violations index = [] ↔ s.name ≠ "" ∧ s.primaryKey ≠ "" := by
  rw [EntitySettings.violations, List.append_eq_nil_iff, emptyText_eq_nil_iff,
    emptyText_eq_nil_iff]

/-- Settings are in place one by one if no text is empty and no number zero. -/
theorem violations_eq_nil_iff {c : Config} :
    c.violations = [] ↔ c.server.bind ≠ "" ∧ 1 ≤ c.pagination.perPage
      ∧ 1 ≤ c.pagination.maxPerPage ∧ ∀ s ∈ c.entities, s.name ≠ "" ∧ s.primaryKey ≠ "" := by
  have hentities : (c.entities.zipIdx.flatMap fun x => x.1.violations x.2) = []
      ↔ ∀ s ∈ c.entities, s.name ≠ "" ∧ s.primaryKey ≠ "" := by
    have hfirst : c.entities.zipIdx.map Prod.fst = c.entities := List.zipIdx_map_fst ..
    simp only [List.flatMap_eq_nil_iff, violations_entity_eq_nil_iff]
    conv_rhs => rw [← hfirst, List.forall_mem_map]
  have hsorted : c.violations = [] ↔ emptyText "server.bind" c.server.bind
      ++ zeroNumber "pagination.per_page" c.pagination.perPage
      ++ zeroNumber "pagination.max_per_page" c.pagination.maxPerPage
      ++ (c.entities.zipIdx.flatMap fun x => x.1.violations x.2) = [] := by
    rw [← List.length_eq_zero_iff, violations, List.length_mergeSort, List.length_eq_zero_iff]
  rw [hsorted, List.append_eq_nil_iff, List.append_eq_nil_iff, List.append_eq_nil_iff,
    emptyText_eq_nil_iff, zeroNumber_eq_nil_iff, zeroNumber_eq_nil_iff, hentities]
  tauto

theorem checkSettings_eq_ok_iff {c : Config} : c.checkSettings = .ok () ↔ c.violations = [] := by
  unfold checkSettings
  split <;> simp_all

theorem checkPageSize_eq_ok_iff {p : Pagination} :
    checkPageSize p = .ok () ↔ p.perPage ≤ p.maxPerPage := by
  unfold checkPageSize
  split
  · next h => simpa using h
  · next h => simpa using h

/-- A default sort goes by columns that documents may name. -/
theorem checkSort_eq_ok_iff {s : EntitySettings} :
    checkSort s = .ok ()
      ↔ ∀ o ∈ s.defaultSort, o.field ∈ s.queryable ∨ o.field = s.primaryKey := by
  have hfind : checkSort s = .ok ()
      ↔ (s.defaultSort.find? fun o => !s.entity.queryable.contains o.field) = none := by
    unfold checkSort
    split <;> simp_all
  rw [hfind, List.find?_eq_none]
  simp only [Bool.not_eq_true, Bool.not_eq_false', FieldSet.contains_iff,
    EntitySettings.queryable_entity, or_comm]

/-- Entities are accepted if their plurals are apart from each other and from the reserved ones, and
every default sort goes by columns that documents may name. -/
theorem checkEntities_nil_eq_ok_iff {entities : List EntitySettings} :
    checkEntities [] entities = .ok ()
      ↔ (entities.map EntitySettings.segment).Nodup
        ∧ (∀ s ∈ entities, s.segment ∉ reservedPlurals)
        ∧ ∀ s ∈ entities, ∀ o ∈ s.defaultSort, o.field ∈ s.queryable ∨ o.field = s.primaryKey := by
  have hsegment : (fun s : EntitySettings => s.pluralName) = EntitySettings.segment :=
    funext EntitySettings.pluralName_eq_segment
  rw [checkEntities_eq_ok_iff, hsegment]
  simp only [EntitySettings.pluralName_eq_segment, checkSort_eq_ok_iff, List.not_mem_nil,
    not_false_eq_true, implies_true, and_true, forall_and]
  tauto

end Config

/-! ## Page sizes -/

/-- The request asks for a page of at least one row and of no more than the limit. The size is the
one that was asked for, if it is within these bounds, and the default if none was. -/
structure PageRequest.Keeps (r : PageRequest) (p : Pagination) (params : SearchParams) : Prop where
  one_le_page : 1 ≤ r.page
  one_le_perPage : 1 ≤ r.perPage
  perPage_le : r.perPage ≤ p.maxPerPage.toNat
  unasked : params.perPage = none → r.perPage = p.perPage.toNat
  asked : ∀ k, params.perPage = some k → 1 ≤ k → k ≤ p.maxPerPage.toNat → r.perPage = k

/-- Under a sound configuration, every request is for at least one row and at most the maximum. -/
theorem Config.IsSound.pageRequest_keeps {c : Config} (h : c.IsSound) {s : Service}
    (hs : s.pagination = c.pagination) (params : SearchParams) (path : String) :
    (s.pageRequest params path).Keeps c.pagination params := by
  have hmin := UInt64.le_iff_toNat_le.mp h.one_le_perPage
  have hmax := UInt64.le_iff_toNat_le.mp h.one_le_maxPerPage
  have hle := UInt64.le_iff_toNat_le.mp h.perPage_le
  have hone : (1 : UInt64).toNat = 1 := rfl
  -- The size is cut to the limits twice, by the service and by the page.
  have hsize : (s.pageRequest params path).perPage
      = max (max 1 (min (params.perPage.getD c.pagination.perPage.toNat)
        (max c.pagination.maxPerPage.toNat 1))) 1 := by
    rw [← hs]
    rfl
  constructor
  · exact Nat.le_max_right ..
  · omega
  · omega
  · intro hnone
    rw [hsize, hnone, Option.getD_none]
    omega
  · intro k hk _ _
    rw [hsize, hk, Option.getD_some]
    omega

/-- **Valid configurations are the sound ones.** A configuration is valid exactly if it has an
address to listen on, page sizes of at least one in order, entities that all have a name and a
primary key, route segments that differ from one another and from those of fixed routes, and default
sorts by admitted columns. Then a service with its page sizes makes of all parameters a request for
a page that keeps the limits. -/
theorem validate_eq_ok_iff_isSound (c : Config) :
    (c.validate = .ok () ↔ c.IsSound)
      ∧ (c.validate = .ok () → ∀ s : Service, s.pagination = c.pagination → ∀ params path,
        (s.pageRequest params path).Keeps c.pagination params) := by
  have hsound : c.validate = .ok () ↔ c.IsSound := by
    rw [Config.validate_eq_ok_iff, Config.checkSettings_eq_ok_iff, Config.violations_eq_nil_iff,
      Config.checkPageSize_eq_ok_iff, Config.checkEntities_nil_eq_ok_iff]
    constructor
    · rintro ⟨⟨hbind, hper, hmax, hnames⟩, hle, hapart, hfree, hsort⟩
      exact ⟨hbind, hper, hmax, hle, fun s hs => (hnames s hs).1, fun s hs => (hnames s hs).2,
        hapart, hfree, hsort⟩
    · intro h
      exact ⟨⟨h.bind, h.one_le_perPage, h.one_le_maxPerPage,
        fun s hs => ⟨h.named s hs, h.keyed s hs⟩⟩, h.perPage_le, h.apart, h.free, h.sortable⟩
  exact ⟨hsound, fun h s hs params path => (hsound.mp h).pageRequest_keeps hs params path⟩

/-! ### Entities that share a name -/

namespace Sample

/-- Members in a table of their own, who are called users as well. -/
def memberSettings : EntitySettings :=
  { userSettings with
    plural := some "members"
    primaryKey := "key"
    defaultSort := [⟨"name", some "asc"⟩, ⟨"key", none⟩] }

def club : Config where
  server := .standard
  pagination := ⟨25, 25⟩
  entities := [userSettings, memberSettings]

def clubhouse : Service :=
  ⟨Store.empty.backend, .ofList club.descriptors, club.pagination, none, []⟩

/-- The default size is the largest one, and a client who asks for more does not get it. -/
theorem club_isSound :
    club.IsSound ∧ Service.build club [] (some clubhouse.backend) [] = .ok clubhouse
      ∧ (clubhouse.pageRequest ⟨some 0, some 26⟩ "/users").Keeps club.pagination ⟨some 0, some 26⟩
      ∧ clubhouse.pageRequest ⟨some 0, some 26⟩ "/users" = ⟨1, 25, "/users"⟩ := by
  have hvalid : club.validate = .ok () := by decide +kernel
  have hbuild : Service.build club [] (some clubhouse.backend) [] = .ok clubhouse :=
    Service.build_eq_ok_iff.mpr ⟨hvalid, by decide +kernel, _, rfl, rfl⟩
  obtain ⟨hsound, hkeeps⟩ := validate_eq_ok_iff_isSound club
  exact ⟨hsound.mp hvalid, hbuild, hkeeps hvalid _ (Service.pagination_of_build hbuild) _ _,
    by decide +kernel⟩

end Sample

end Sift
