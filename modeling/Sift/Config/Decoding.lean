import Sift.Config.Basic
import Sift.Config.View
import Sift.Yaml.Reader

/-!
# Taking a configuration from a value

Every record of a configuration is read in the same way from JSON and from YAML. A setting that is
absent has its default, if it has one, and settings of other names are ignored.
-/

namespace Sift

section

variable {m : Type → Type} [Monad m] {α : Type}

namespace View

variable (v : View m α)

def list {β : Type} (item : α → m β) (a : α) : m (List β) := do (← v.items a).mapM item

def optionalText (a : α) : m (Option String) := do
  match ← v.setting a with
  | none => return none
  | some b => return some (← v.text b)

end View

/-- The setting `name` of a record, or its default where the record does not have it. -/
def settingOr {β : Type} (fields : List (String × α)) (name : String) (read : α → m β)
    (default : β) : m β :=
  match fields.lookup name with
  | some a => read a
  | none => return default

/-- The setting `name` of a record, which has to have it. -/
def requiredSetting [MonadExcept Unit m] {β : Type} (fields : List (String × α)) (name : String)
    (read : α → m β) : m β :=
  match fields.lookup name with
  | some a => read a
  | none => throw ()

variable (v : View m α)

def ServerSettings.read (a : α) : m ServerSettings := do
  let fields ← v.record ["bind", "base_url"] a
  let bind ← settingOr fields "bind" v.text standard.bind
  let baseUrl ← settingOr fields "base_url" v.optionalText none
  return { bind, baseUrl }

def Pagination.read (a : α) : m Pagination := do
  let fields ← v.record ["per_page", "max_per_page"] a
  let perPage ← settingOr fields "per_page" v.number standard.perPage
  let maxPerPage ← settingOr fields "max_per_page" v.number standard.maxPerPage
  return { perPage, maxPerPage }

def OrderEntry.read [MonadExcept Unit m] (a : α) : m OrderEntry := do
  let fields ← v.record ["field", "order"] a
  let field ← requiredSetting fields "field" v.text
  let order ← settingOr fields "order" v.optionalText none
  return { field, order }

def EntitySettings.read [MonadExcept Unit m] (a : α) : m EntitySettings := do
  let fields ← v.record
    ["name", "plural", "table", "primary_key", "queryable", "hidden", "default_sort"] a
  let name ← requiredSetting fields "name" v.text
  let plural ← settingOr fields "plural" v.optionalText none
  let table ← settingOr fields "table" v.optionalText none
  let primaryKey ← settingOr fields "primary_key" v.text standardKey
  let queryable ← settingOr fields "queryable" (v.list v.text) []
  let hidden ← settingOr fields "hidden" (v.list v.text) []
  let defaultSort ← settingOr fields "default_sort" (v.list (OrderEntry.read v)) []
  return { name, plural, table, primaryKey, queryable, hidden, defaultSort }

def Config.read [MonadExcept Unit m] (a : α) : m Config := do
  let fields ← v.record ["server", "pagination", "entities"] a
  let server ← settingOr fields "server" (ServerSettings.read v) .standard
  let pagination ← settingOr fields "pagination" (Pagination.read v) .standard
  let entities ← settingOr fields "entities" (v.list (EntitySettings.read v)) []
  return { server, pagination, entities }

end

namespace Config

def ofJson? (v : Json) : Option Config := read Json.view v

def ofYaml? (s : String) : Option Config := do
  let d ← Yaml.Document.ofText? s
  (read d.view d.root).run' d.allowance

end Config

end Sift
