import Mathlib.Data.List.Induction
import Mathlib.Data.List.Nodup
import Sift.Proofs.Config.Validation
import Sift.Proofs.Service.Request
import Sift.Proofs.Text.Percent
import Sift.Service.Answer
import Sift.Storage.Store

/-!
# Which entity answers

A service is built from declared entities: those configured and those added besides. A request for
`/` and a segment that writes the route segment of an entity reaches that entity unless the registry
has lost it, and the registry keeps, of the entities with one route segment, the last one declared
(`find?_ofList`). Configured entities never compete, since a valid configuration gives each a
segment of its own; an entity that is added besides can take the place of another one, and nothing
keeps the route segment of an entity from being empty, which no path reaches.

Main statement: `serves_iff_isLastOf`.
-/

namespace Sift

/-! ## The registry -/

namespace Registry

theorem ofList_append_singleton (es : List Entity) (e : Entity) :
    ofList (es ++ [e]) = ((ofList es).register e).1 := by
  simp [ofList]

/-- A route segment belongs to the last entity that was registered under it. -/
theorem find?_ofList (es : List Entity) (plural : String) :
    (ofList es).find? plural = es.reverse.find? (·.plural == plural) := by
  induction es using List.reverseRecOn with
  | nil => rfl
  | append_singleton es e ih =>
    rw [ofList_append_singleton, List.reverse_append, List.reverse_singleton,
      List.singleton_append, List.find?_cons]
    by_cases h : e.plural = plural
    · subst h
      rw [find?_register_self, beq_self_eq_true]
    · have hne : (e.plural == plural) = false := beq_eq_false_iff_ne.mpr h
      rw [find?_register_of_ne _ (Ne.symm h), ih, hne]

end Registry

/-! ## Building a service -/

namespace Service

variable {config : Config} {extras : List Entity} {backend : Option Backend}
  {customs : List (String × String)} {s : Service}

/-- A service is built from a valid configuration and a backend if no added entity has the route
segment of a fixed route. Nothing else is asked of the added entities. -/
theorem build_eq_ok_iff :
    build config extras backend customs = .ok s
      ↔ config.validate = .ok () ∧ (∀ e ∈ extras, e.plural ∉ reservedPlurals)
        ∧ ∃ b, backend = some b ∧ s = ⟨b, .ofList (config.descriptors ++ extras),
          config.pagination, config.server.baseUrl, customs⟩ := by
  have hextras : (extras.forM fun e => (checkPlural e.plural).mapError BuildError.config) = .ok ()
      ↔ ∀ e ∈ extras, e.plural ∉ reservedPlurals := by
    simp only [forM_eq_ok_iff, mapError_eq_ok_iff, checkPlural_eq_ok_iff]
  unfold build
  rw [check_bind_eq_ok_iff, mapError_eq_ok_iff, check_bind_eq_ok_iff, hextras]
  cases backend with
  | none => simp [throw, throwThe, MonadExceptOf.throw]
  | some b => simp [pure, Except.pure, eq_comm]

theorem backend_of_build {b : Backend} (h : build config extras (some b) customs = .ok s) :
    s.backend = b := by
  obtain ⟨-, -, b', hb, rfl⟩ := build_eq_ok_iff.mp h
  exact (Option.some.inj hb).symm

theorem baseUrl_of_build (h : build config extras backend customs = .ok s) :
    s.baseUrl = config.server.baseUrl := by
  obtain ⟨-, -, b, -, rfl⟩ := build_eq_ok_iff.mp h
  rfl

theorem pagination_of_build (h : build config extras backend customs = .ok s) :
    s.pagination = config.pagination := by
  obtain ⟨-, -, b, -, rfl⟩ := build_eq_ok_iff.mp h
  rfl

/-- No declared entity has the route segment of a fixed route. -/
theorem plural_not_reserved (h : build config extras backend customs = .ok s) {e : Entity}
    (he : e ∈ config.descriptors ++ extras) : e.plural ∉ reservedPlurals := by
  obtain ⟨hvalid, hextras, -⟩ := build_eq_ok_iff.mp h
  rcases List.mem_append.mp he with he | he
  · obtain ⟨settings, hsettings, rfl⟩ := List.mem_map.mp he
    obtain ⟨-, -, hentities⟩ := Config.validate_eq_ok_iff.mp hvalid
    exact ((Config.checkEntities_eq_ok_iff.mp hentities).1 settings hsettings).1
  · exact hextras e he

/-- Configured entities with one route segment are one entity. -/
theorem eq_of_plural_eq (h : config.validate = .ok ()) {e x : Entity}
    (he : e ∈ config.descriptors) (hx : x ∈ config.descriptors) (hp : x.plural = e.plural) :
    x = e := by
  obtain ⟨-, -, hentities⟩ := Config.validate_eq_ok_iff.mp h
  have hnodup := (Config.checkEntities_eq_ok_iff.mp hentities).2.1
  obtain ⟨a, ha, rfl⟩ := List.mem_map.mp he
  obtain ⟨b, hb, rfl⟩ := List.mem_map.mp hx
  rw [List.inj_on_of_nodup_map hnodup hb ha hp]

end Service

/-! ## Routes -/

namespace Route

variable {segment name : String}

theorem segments_list (hslash : '/' ∉ segment.toList) :
    segments ("/" ++ segment) = ["", segment] := by
  have hchars : ("/" ++ segment).toList = [] ++ '/' :: segment.toList := by simp
  rw [segments, hchars, Text.splitBy_append List.not_mem_nil, Text.splitBy_of_not_mem hslash]
  simp

/-- The path of a search has one segment more than that of the list. -/
theorem segments_search (hslash : '/' ∉ segment.toList) :
    segments ("/" ++ segment ++ "/search") = ["", segment, "search"] := by
  have hchars : ("/" ++ segment ++ "/search").toList
      = [] ++ '/' :: (segment.toList ++ '/' :: "search".toList) := by simp
  have hword : '/' ∉ "search".toList := by decide
  rw [segments, hchars, Text.splitBy_append List.not_mem_nil, Text.splitBy_append hslash,
    Text.splitBy_of_not_mem hword]
  simp

/-- The segment `health` writes the name of the fixed route. -/
theorem ne_health_of_not_reserved (h : Text.WritesSegment segment name)
    (hname : name ∉ reservedPlurals) : segment ≠ "health" := by
  rintro rfl
  have hhealth : name = "health" := Except.ok.inj (h.decoded.symm.trans (by decide +kernel))
  exact hname (hhealth ▸ List.mem_singleton.mpr rfl)

/-- The path of a name is the route of its rows, if another route does not take it. -/
theorem ofPath_list {customs : List String} (h : Text.WritesSegment segment name)
    (hname : name ∉ reservedPlurals) (hcustom : "/" ++ segment ∉ customs) :
    ofPath customs ("/" ++ segment) = if name = "" then none else some (.list segment) := by
  have hhealth := ne_health_of_not_reserved h hname
  have hempty : segment.isEmpty = true ↔ name = "" := by
    rw [String.isEmpty_iff, h.eq_empty_iff]
  rw [ofPath, segments_list h.slash_not_mem, if_neg (by simpa using hcustom)]
  by_cases hn : name = "" <;> simp [hempty, hn]

/-- A path with two segments, the second of which is `search`, is a search. -/
theorem ofPath_search {customs : List String} (hslash : '/' ∉ segment.toList)
    (hcustom : "/" ++ segment ++ "/search" ∉ customs) :
    ofPath customs ("/" ++ segment ++ "/search") = some (.search segment) := by
  rw [ofPath, segments_search hslash, if_neg (by simpa using hcustom)]
  simp

end Route

/-! ## What a request reaches -/

namespace Service

def entityOf? (s : Service) (r : Request) : Option Entity :=
  match Route.ofPath (s.customs.map Prod.fst) r.path with
  | some (.list segment) =>
    match Text.percentDecoded segment with
    | .ok plural => s.registry.find? plural
    | .error _ => none
  | _ => none

def only (s : Service) (e : Entity) : Service := { s with registry := ⟨[e]⟩ }

/-- The entity is served: whichever way its route segment is written in a path, `GET` reaches it and
is answered with its rows, as by a service that has no other entity. -/
def Serves (s : Service) (e : Entity) : Prop :=
  ∀ (r : Request) (segment : String), r.method = .get → Text.WritesSegment segment e.plural →
    r.path = "/" ++ segment →
      s.entityOf? r = some e ∧ s.answer r = (s.only e).list e.plural r

variable {s : Service} {r : Request} {segment name : String} {e : Entity} {d : Document}
  {params : SearchParams}

/-- Once its parameters are read, listing is running the empty document. -/
theorem list_eq_run (hparams : paramsOf r = .ok params) :
    s.list name r = s.run name .empty params r.path := by
  rw [list, hparams]

/-- Once its parameters and its body are read, searching is running the document. -/
theorem search_eq_run (hparams : paramsOf r = .ok params) (hd : documentOf r.body = .ok d) :
    s.search name r = s.run name d params r.path := by
  rw [search, hparams, hd]

/-- A body that holds a text in UTF-8 is read as that text. -/
theorem documentOf_bytesOf (text : String) :
    documentOf (Text.bytesOf text)
      = (Document.ofText text).mapError fun f => .compile (.ofFault f) := by
  rw [documentOf, Text.decode_bytesOf]

/-- The entity at a path is the one registered under what its segment writes. -/
theorem entityOf?_of_path (hpath : r.path = "/" ++ segment) (h : Text.WritesSegment segment name)
    (hname : name ∉ reservedPlurals) (hcustoms : s.customs = []) :
    s.entityOf? r = if name = "" then none else s.registry.find? name := by
  rw [entityOf?, hpath, hcustoms, List.map_nil, Route.ofPath_list h hname List.not_mem_nil]
  by_cases hn : name = ""
  · simp [hn]
  · simp [hn, h.decoded]

/-- What a route allows it answers, with its body unless only the head is asked for. -/
theorem answer_of_route {route : Route}
    (hroute : Route.ofPath (s.customs.map Prod.fst) r.path = some route)
    (hallows : route.allows r.method = true) (hhead : r.method ≠ .head) :
    s.answer r = s.answerRoute r route := by
  have hoptions : r.method ≠ .options := by
    intro h
    rw [h] at hallows
    cases route <;> cases hallows
  rw [answer, if_neg hoptions, hroute]
  simp only [hallows, if_true, if_neg hhead]

/-- A request for a plural that no route takes is answered by listing its entity. -/
theorem answer_of_path (hget : r.method = .get) (hpath : r.path = "/" ++ segment)
    (h : Text.WritesSegment segment name) (hname : name ∉ reservedPlurals) (hne : name ≠ "")
    (hcustom : "/" ++ segment ∉ s.customs.map Prod.fst) : s.answer r = s.list name r := by
  have hroute : Route.ofPath (s.customs.map Prod.fst) r.path = some (.list segment) := by
    rw [hpath, Route.ofPath_list h hname hcustom, if_neg hne]
  rw [answer_of_route hroute (by simp [hget, Route.allows]) (by simp [hget])]
  simp [answerRoute, withSegment, h.decoded]

/-- A body within the limit is searched for. -/
theorem answer_of_search_path (hpost : r.method = .post)
    (hpath : r.path = "/" ++ segment ++ "/search") (h : Text.WritesSegment segment name)
    (hcustom : "/" ++ segment ++ "/search" ∉ s.customs.map Prod.fst)
    (hbody : r.body.length ≤ maxBodySize) : s.answer r = s.search name r := by
  have hroute : Route.ofPath (s.customs.map Prod.fst) r.path = some (.search segment) := by
    rw [hpath, Route.ofPath_search h.slash_not_mem hcustom]
  rw [answer_of_route hroute (by simp [hpost, Route.allows]) (by simp [hpost])]
  simp [answerRoute, withSegment, h.decoded, Nat.not_lt.mpr hbody]

/-- An entity is listed as if there were no other. -/
theorem list_only (h : s.registry.find? e.plural = some e) (r : Request) :
    (s.only e).list e.plural r = s.list e.plural r := by
  have hone : (s.only e).registry.find? e.plural = some e := by
    simp [only, Registry.find?]
  unfold list
  split
  · rfl
  · simp only [run, h, hone]
    rfl

/-- An entity is served exactly if a path reaches its segment and the registry has it there. -/
theorem serves_iff (hname : e.plural ∉ reservedPlurals) (hcustoms : s.customs = []) :
    s.Serves e ↔ e.plural ≠ "" ∧ s.registry.find? e.plural = some e := by
  constructor
  · intro h
    have hwrites := Text.writesSegment_percentEncoded e.plural
    have hplain : ∀ c ∈ (Text.percentEncoded e.plural).toList, c ≠ '?' ∧ c ≠ '#' :=
      fun c hc => (hwrites.plain c hc).2
    -- One request tells: the one that writes the plural with escapes.
    let r : Request := ⟨.get, "/" ++ Text.percentEncoded e.plural, []⟩
    have hpath : r.path = "/" ++ Text.percentEncoded e.plural :=
      (Request.path_of_plain rfl hplain).1
    have hreach := (h r _ rfl hwrites hpath).1
    rw [entityOf?_of_path hpath hwrites hname hcustoms] at hreach
    by_cases hn : e.plural = ""
    · simp [hn] at hreach
    · exact ⟨hn, by simpa [hn] using hreach⟩
  · rintro ⟨hne, hfind⟩ r segment hget hwrites hpath
    constructor
    · rw [entityOf?_of_path hpath hwrites hname hcustoms, if_neg hne, hfind]
    · rw [answer_of_path hget hpath hwrites hname hne (by simp [hcustoms]), list_only hfind]

end Service

/-! ## Which entities are served -/

/-- The entity is the last of its route segment in a list. -/
def Entity.IsLastOf (e : Entity) (es : List Entity) : Prop :=
  ∃ before after, es = before ++ e :: after ∧ ∀ x ∈ after, x.plural ≠ e.plural

/-- Of the entities with a plural, the last one is found. -/
theorem Registry.find?_ofList_eq_some_iff {es : List Entity} {e : Entity} :
    (ofList es).find? e.plural = some e ↔ e.IsLastOf es := by
  rw [find?_ofList, List.find?_eq_some_iff_append]
  constructor
  · rintro ⟨-, later, earlier, hes, hlater⟩
    refine ⟨earlier.reverse, later.reverse, ?_, fun x hx => ?_⟩
    · rw [← List.reverse_reverse es, hes]
      simp
    · simpa using hlater x (List.mem_reverse.mp hx)
  · rintro ⟨before, after, rfl, hafter⟩
    refine ⟨beq_self_eq_true _, after.reverse, before.reverse, by simp, fun x hx => ?_⟩
    simpa using hafter x (List.mem_reverse.mp hx)

theorem Registry.mem_of_find?_ofList {es : List Entity} {plural : String} {e : Entity}
    (h : (ofList es).find? plural = some e) : e ∈ es ∧ e.plural = plural := by
  rw [find?_ofList] at h
  exact ⟨List.mem_reverse.mp (List.mem_of_find?_eq_some h), by simpa using List.find?_some h⟩

/-- All entities are the last of their route segments exactly if entities with one route segment are
one entity. -/
theorem forall_isLastOf_iff {es : List Entity} :
    (∀ e ∈ es, e.IsLastOf es) ↔ ∀ e ∈ es, ∀ x ∈ es, x.plural = e.plural → x = e := by
  simp only [← Registry.find?_ofList_eq_some_iff]
  constructor
  · intro h e he x hx hp
    exact Option.some.inj ((h x hx).symm.trans (hp ▸ h e he))
  · intro h e he
    cases hfind : (Registry.ofList es).find? e.plural with
    | none =>
      rw [Registry.find?_ofList, List.find?_eq_none] at hfind
      exact absurd (beq_self_eq_true _) (hfind e (List.mem_reverse.mpr he))
    | some x =>
      obtain ⟨hx, hp⟩ := Registry.mem_of_find?_ofList hfind
      rw [h e he x hx hp]

/-- **Which declared entities are served.** Let a service without additional routes be built. An
entity that was configured or added is served exactly if its route segment is not empty and no
entity declared after it has the same one. So all declared entities are served exactly if no route
segment is empty and no added entity shares its route segment with another one. -/
theorem serves_iff_isLastOf {config : Config} {extras : List Entity} {backend : Option Backend}
    {s : Service} (h : Service.build config extras backend [] = .ok s) :
    (∀ e ∈ config.descriptors ++ extras,
        s.Serves e ↔ e.plural ≠ "" ∧ e.IsLastOf (config.descriptors ++ extras))
      ∧ ((∀ e ∈ config.descriptors ++ extras, s.Serves e)
        ↔ (∀ e ∈ config.descriptors ++ extras, e.plural ≠ "")
          ∧ ∀ x ∈ extras, ∀ e ∈ config.descriptors ++ extras, e.plural = x.plural → e = x) := by
  obtain ⟨hvalid, -, b, -, rfl⟩ := Service.build_eq_ok_iff.mp h
  have hserves : ∀ e ∈ config.descriptors ++ extras,
      Service.Serves ⟨b, .ofList (config.descriptors ++ extras), config.pagination,
          config.server.baseUrl, []⟩ e
        ↔ e.plural ≠ "" ∧ e.IsLastOf (config.descriptors ++ extras) := by
    intro e he
    rw [← Registry.find?_ofList_eq_some_iff]
    exact Service.serves_iff (Service.plural_not_reserved h he) rfl
  refine ⟨hserves, ?_⟩
  rw [forall₂_congr hserves]
  simp only [forall_and]
  rw [forall_isLastOf_iff]
  refine and_congr_right fun _ => ⟨fun hone x hx e he hp => ?_, fun hone e he x hx hp => ?_⟩
  · exact hone x (List.mem_append_right _ hx) e he hp
  · -- Two configured entities never share a segment, so one of the two was added.
    rcases List.mem_append.mp he with hconfigured | hadded
    · rcases List.mem_append.mp hx with hconfigured' | hadded'
      · exact Service.eq_of_plural_eq hvalid hconfigured hconfigured' hp
      · exact (hone x hadded' e he hp.symm).symm
    · exact hone e hadded x hx hp

/-! ### A dish that is found and a user who is not -/

namespace Sample

def userSettings : EntitySettings where
  name := "user"
  plural := none
  table := none
  primaryKey := "id"
  queryable := ["name"]
  hidden := []
  defaultSort := []

def user : Entity := userSettings.entity

def directory : Config := { Config.standard with entities := [userSettings] }

/-- An entity whose route segment is no segment of a path as it is. -/
def dish : Entity := (Entity.new "dish" "dishes").withPlural "food/drink?"

def member : Entity := (Entity.new "member" "members").withPlural "users"

theorem writesSegment_users : Text.WritesSegment "users" "users" := by
  have hencoded : Text.percentEncoded "users" = "users" := by decide +kernel
  exact hencoded ▸ Text.writesSegment_percentEncoded "users"

theorem dish_served :
    ∃ s, Service.build directory [dish] (some Store.empty.backend) [] = .ok s
      ∧ (∀ e ∈ directory.descriptors ++ [dish], s.Serves e)
      ∧ s.entityOf? ⟨.get, "/food%2Fdrink%3F?perPage=5", []⟩ = some dish := by
  have hbuild : Service.build directory [dish] (some Store.empty.backend) [] = .ok _ :=
    Service.build_eq_ok_iff.mpr ⟨by decide +kernel, by decide +kernel, _, rfl, rfl⟩
  have hall := (serves_iff_isLastOf hbuild).2.mpr ⟨by decide +kernel, by decide +kernel⟩
  refine ⟨_, hbuild, hall, ?_⟩
  have hwrites : Text.WritesSegment "food%2Fdrink%3F" dish.plural := by
    have hencoded : Text.percentEncoded dish.plural = "food%2Fdrink%3F" := by decide +kernel
    exact hencoded ▸ Text.writesSegment_percentEncoded dish.plural
  exact (hall dish (by decide +kernel) _ _ rfl hwrites (by decide +kernel)).1

/-- The service is built, and a request for its users reaches the members. -/
theorem member_displaces_user :
    ∃ s, Service.build directory [member] (some Store.empty.backend) [] = .ok s
      ∧ user ∈ directory.descriptors ++ [member] ∧ user.plural = "users"
      ∧ s.entityOf? ⟨.get, "/users", []⟩ = some member ∧ ¬ s.Serves user := by
  have hbuild : Service.build directory [member] (some Store.empty.backend) [] = .ok _ :=
    Service.build_eq_ok_iff.mpr ⟨by decide +kernel, by decide +kernel, _, rfl, rfl⟩
  refine ⟨_, hbuild, List.mem_cons_self, rfl, by decide +kernel, ?_⟩
  intro hserves
  have hreach := (hserves ⟨.get, "/users", []⟩ "users" rfl writesSegment_users
    (by decide +kernel)).1
  exact absurd hreach (by decide +kernel)

end Sample

end Sift
