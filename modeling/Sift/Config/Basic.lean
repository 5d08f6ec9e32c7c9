import Sift.Document.Basic
import Sift.Registry

/-!
# Configurations

What a service is configured with: where it listens, how results are paged, and which entities it
serves. A setting that is left out has a default; the table of an entity is by default its name in
the plural, and its route segment is the table.

Main statement: `queryable_entity`, the columns that a configured entity admits.
-/

namespace Sift

structure ServerSettings where
  /-- The address to listen on. -/
  bind : String
  /-- What the addresses of pages start with. Without it they start with the path of the request. -/
  baseUrl : Option String
  deriving DecidableEq

structure Pagination where
  /-- The page size of a request that does not say. -/
  perPage : UInt64
  /-- The largest page size. -/
  maxPerPage : UInt64
  deriving DecidableEq

structure EntitySettings where
  name : String
  plural : Option String
  table : Option String
  primaryKey : String
  queryable : List String
  hidden : List String
  defaultSort : List OrderEntry
  deriving DecidableEq

structure Config where
  server : ServerSettings
  pagination : Pagination
  entities : List EntitySettings
  deriving DecidableEq

def ServerSettings.standard : ServerSettings := ⟨"127.0.0.1:3000", none⟩

def Pagination.standard : Pagination := ⟨10, 100⟩

namespace EntitySettings

def standardKey : String := "id"

def tableName (s : EntitySettings) : String := s.table.getD (s.name ++ "s")

def pluralName (s : EntitySettings) : String := s.plural.getD s.tableName

def sortKey (o : OrderEntry) : SortKey := ⟨o.field, .ofOrder o.order⟩

def entity (s : EntitySettings) : Entity :=
  ((((Entity.new s.name s.tableName).withPlural s.pluralName).withPrimaryKey s.primaryKey
    |>.withQueryable s.queryable).withHidden s.hidden).withDefaultSort
      (s.defaultSort.map sortKey)

/-- Documents may name the primary key and the columns that the settings list, and no others. -/
theorem queryable_entity (s : EntitySettings) (c : String) :
    c ∈ s.entity.queryable ↔ c = s.primaryKey ∨ c ∈ s.queryable := by
  show c ∈ ((((Entity.new s.name s.tableName).withPlural s.pluralName).withPrimaryKey
    s.primaryKey).withQueryable s.queryable).queryable ↔ _
  rw [Entity.mem_queryable_withQueryable, Entity.mem_queryable_withPrimaryKey]
  simp only [Entity.new, Entity.withPlural, FieldSet.mem_ofList]
  simp

end EntitySettings

namespace Config

def standard : Config := ⟨.standard, .standard, []⟩

def descriptors (c : Config) : List Entity := c.entities.map EntitySettings.entity

/-- Users and their uploaded files, for trying a service out. -/
def sample : Config :=
  let timestamps := ["created_at", "updated_at", "deleted_at"]
  let byNewest : List OrderEntry := [⟨"created_at", some "DESC"⟩]
  { standard with
    entities := [
      { name := "user"
        plural := some "users"
        table := some "users"
        primaryKey := "id"
        queryable := ["id", "name", "email", "document"] ++ timestamps
        hidden := ["password", "remember_token"]
        defaultSort := byNewest },
      { name := "file"
        plural := some "files"
        table := some "files"
        primaryKey := "id"
        queryable := ["id", "user_id", "original", "name", "size", "mimeType"] ++ timestamps
        hidden := []
        defaultSort := byNewest }] }

end Config

/-! ### Configurations as JSON -/

/-- A field that is left out if nothing is set. -/
def Json.optionalField (name : String) : Option String → Fields
  | some s => [(name, .string s)]
  | none => []

def Json.texts (l : List String) : Json := .array (l.map .string)

def Json.ofUInt64 (n : UInt64) : Json := .number (.integer n.toNat)

def ServerSettings.toJson (s : ServerSettings) : Json :=
  .object [("bind", .string s.bind), ("base_url", (s.baseUrl.map Json.string).getD .null)]

def Pagination.toJson (p : Pagination) : Json :=
  .object [("per_page", .ofUInt64 p.perPage), ("max_per_page", .ofUInt64 p.maxPerPage)]

def OrderEntry.toJson (o : OrderEntry) : Json :=
  .object (("field", .string o.field) :: Json.optionalField "order" o.order)

def EntitySettings.toJson (s : EntitySettings) : Json :=
  .object <| ("name", .string s.name) :: Json.optionalField "plural" s.plural
    ++ Json.optionalField "table" s.table
    ++ [("primary_key", .string s.primaryKey), ("queryable", .texts s.queryable),
      ("hidden", .texts s.hidden), ("default_sort", .array (s.defaultSort.map OrderEntry.toJson))]

/-- The configuration as JSON. Settings of entities that are not set are left out. -/
def Config.toJson (c : Config) : Json :=
  .object [("server", c.server.toJson), ("pagination", c.pagination.toJson),
    ("entities", .array (c.entities.map EntitySettings.toJson))]

end Sift
