import Sift.Proofs.Calendar.Pieces
import Sift.Proofs.Compile.Composition
import Sift.Proofs.Like.Footprint
import Sift.Proofs.Like.Ilike
import Sift.Proofs.Sql.Requirement

/-!
# Pattern matches in memory and in SQL

An entry with `like` becomes one requirement of the query. In memory its pattern is built, which
fails if the pattern is too large, and matched with the text of the column, or of the day of the
column. In SQL the pattern is bound to a placeholder, and the database matches it with `ILIKE`.

The two agree on all ASCII texts if the pattern can be built and the operand is portable. An operand
in ASCII with a backslash is not portable, and there are texts on which the two do not agree.

Main statement: `like_agrees_iff_exchangeable`.
-/

namespace Sift

open Like (IsIlike Portable closed)
open Sql (Term ColumnTypes renderCount dayTerm)
open Text (IsAsciiText)

/-! ## Requirements that match a pattern -/

namespace Requirement

def pattern? : Requirement → Option String
  | .predicate p => p.pattern?
  | .date p => p.pattern?
  | _ => none

/-- What the store in memory finds of the row; nothing, if it cannot build the pattern. -/
def outcome? (r : Requirement) (row : Json) : Option Bool :=
  if r.pattern?.any Like.isTooLarge then none else some (r.holds row)

/-- The store in memory finds of the row what the database makes of the pattern and the text. -/
def Agrees (ilike : List Char → List Char → Prop) (r : Requirement) (row : Json)
    (pattern text : String) : Prop :=
  ∃ b, r.outcome? row = some b ∧ (b = true ↔ ilike pattern.toList text.toList)

end Requirement

namespace Query

/-- The patterns of a plan are those of the atoms of its formula. -/
theorem patterns_eq (q : Query) : q.plan.patterns = q.formula.atoms.filterMap (·.pattern?) := by
  have hnulls : q.plan.nullChecks.filterMap (fun c => (Requirement.nullCheck c).pattern?) = [] :=
    List.filterMap_eq_nil_iff.mpr fun _ _ => rfl
  have hranges : q.plan.ranges.filterMap (fun r => (Requirement.range r).pattern?) = [] :=
    List.filterMap_eq_nil_iff.mpr fun _ _ => rfl
  rw [Plan.patterns_eq, atoms_formula, List.filterMap_cons]
  simp only [List.filterMap_append, List.filterMap_map, Function.comp_def, hnulls, hranges,
    List.append_nil]
  rfl

/-- The store evaluates a query exactly if it can evaluate every requirement. -/
theorem largePattern?_eq_none_iff (q : Query) (row : Json) :
    q.plan.largePattern? = none ↔ ∀ r ∈ q.formula.atoms, ∃ b, r.outcome? row = some b := by
  have hrequirement (r : Requirement) : (∃ b, r.outcome? row = some b)
      ↔ ∀ pattern, r.pattern? = some pattern → ¬ Like.isTooLarge pattern = true := by
    unfold Requirement.outcome?
    cases r.pattern? <;> simp
  unfold Plan.largePattern?
  rw [List.find?_eq_none, patterns_eq]
  simp only [hrequirement, List.mem_filterMap]
  grind

/-- The query asks the requirement, and in SQL this is to match the subject with the pattern, which
is bound to a placeholder. -/
structure AsksLike (q : Query) (types : ColumnTypes) (subject : Term) (pattern : String)
    (r : Requirement) : Prop where
  mem : r ∈ q.formula.atoms
  inSql : r.inSql types = .like subject (.param (.text pattern))
  params : r.params = [.text pattern]

end Query

/-- In memory and in the database, a requirement agrees if its pattern can be built and matches
alike. -/
theorem Requirement.agrees_iff {ilike : List Char → List Char → Prop} {r : Requirement} {row : Json}
    {pattern text : String} (hpattern : r.pattern? = some pattern)
    (hholds : r.holds row = Like.matchesText pattern text) :
    r.Agrees ilike row pattern text ↔ Like.isTooLarge pattern = false
      ∧ (Like.Matches (pattern.toList.map Like.symbol) (text.toList.map Text.foldCase)
        ↔ ilike pattern.toList text.toList) := by
  unfold Agrees outcome?
  rw [hpattern, hholds, Option.any_some]
  cases hlarge : Like.isTooLarge pattern with
  | true => simp
  | false =>
    have hmatches := Like.matchesText_iff pattern text
    simp only [Bool.false_eq_true, if_false, Option.some.injEq, exists_eq_left', true_and]
    rw [hmatches]
    rfl

variable {ilike : List Char → List Char → Prop} {e : Entity} {d : Document} {p : Plan}

/-! ## Entries with `like` -/

theorem Predicate.Transcribes.eq_like {q : Predicate} {c : Condition} {operand : String}
    (h : q.Transcribes c) (hlike : c.Means .like) (hvalue : c.value = .string operand) :
    q = ⟨c.field, .like, .text (Like.ofOperand operand)⟩ := by
  obtain ⟨field, op, value⟩ := q
  obtain ⟨rfl, hop, htext⟩ := h
  obtain rfl := hop.unique hlike
  rw [hvalue] at htext
  obtain ⟨_, pattern, hoperand, hwraps, rfl⟩ := htext
  cases hoperand
  rw [wraps_iff.mp hwraps]

theorem DatePredicate.Transcribes.eq_like {q : DatePredicate} {c : Condition} {operand : String}
    (h : q.Transcribes c) (hlike : c.Means .like) (hvalue : c.value = .string operand) :
    q = ⟨c.field, .like, .pattern (Like.ofOperand operand)⟩ := by
  obtain ⟨field, op, value⟩ := q
  obtain ⟨rfl, hop, htext⟩ := h
  obtain rfl := hop.unique hlike
  rw [hvalue] at htext
  obtain ⟨_, pattern, hoperand, hwraps, rfl⟩ := htext
  cases hoperand
  rw [wraps_iff.mp hwraps]

/-- An entry with `like` reaches the statement as a match of the column, written as text. -/
theorem asksLike_of_mem_conditions (h : e.compile d = .ok p) (types : ColumnTypes) {c : Condition}
    (hc : c ∈ d.conditions) (hlike : c.Means .like) {operand : String}
    (hvalue : c.value = .string operand) :
    (Query.resolve e p).AsksLike types (.cast (.column c.field) [.word "text"])
      (Like.ofOperand operand)
      (.predicate ⟨c.field, .like, .text (Like.ofOperand operand)⟩) := by
  have hfilter : c ∈ d.conditions.filter (!·.value.isNull) := by
    rw [List.mem_filter, hvalue]
    exact ⟨hc, rfl⟩
  obtain ⟨q, hq, hcq⟩ := exists_mem_of_forall₂ (transcribes_of_compile h).predicates hfilter
  obtain rfl := hcq.eq_like hlike hvalue
  refine ⟨?_, rfl, rfl⟩
  rw [Query.atoms_formula]
  simp [Query.resolve, hq]

/-- An entry on calendar days reaches it as a match of the day, written as text. -/
theorem asksLike_of_mem_dates (h : e.compile d = .ok p) (types : ColumnTypes) {c : Condition}
    (hc : c ∈ d.dates) (hlike : c.Means .like) {operand : String}
    (hvalue : c.value = .string operand) :
    (Query.resolve e p).AsksLike types (.cast (dayTerm c.field) [.word "text"])
      (Like.ofOperand operand)
      (.date ⟨c.field, .like, .pattern (Like.ofOperand operand)⟩) := by
  obtain ⟨q, hq, hcq⟩ := exists_mem_of_forall₂ (transcribes_of_compile h).datePredicates hc
  obtain rfl := hcq.eq_like hlike hvalue
  refine ⟨?_, rfl, rfl⟩
  rw [Query.atoms_formula]
  simp [Query.resolve, hq]

/-! ## Texts of columns and days -/

theorem holds_like {row : Json} {field pattern text : String}
    (h : row.field? field = some (.string text)) :
    (Requirement.predicate ⟨field, .like, .text pattern⟩).holds row
      = Like.matchesText pattern text := by
  show Predicate.holds _ row = _
  unfold Predicate.holds
  rw [h]
  rfl

theorem holds_likeDay {row : Json} {field pattern : String} {day : Date}
    (h : dayOf? row field = some day) :
    (Requirement.date ⟨field, .like, .pattern pattern⟩).holds row
      = Like.matchesText pattern day.text := by
  show DatePredicate.holds _ row = _
  unfold DatePredicate.holds
  rw [h]

/-- Days are written in ASCII, so the patterns on days are held against ASCII texts. -/
theorem Date.isAsciiText_text (day : Date) : IsAsciiText day.text := by
  intro c hc
  rcases mem_text hc with h | rfl | rfl
  · exact Text.isAscii_of_isDigit h
  · decide
  · decide

theorem Date.backslash_not_mem_text (day : Date) : '\\' ∉ day.text.toList := by
  intro hc
  rcases mem_text hc with h | h | h
  · exact absurd h (by decide)
  · exact absurd h (by decide)
  · exact absurd h (by decide)

/-! ## Agreement -/

/-- The pattern of the operand can be built in memory, and the operand is portable. -/
def Like.Exchangeable (operand : String) : Prop :=
  isTooLarge (ofOperand operand) = false ∧ Portable operand.toList

section

variable {r : Requirement} {row : Json} {operand text : String}

/-- An exchangeable operand agrees on every ASCII text. -/
theorem agrees_of_exchangeable (hilike : IsIlike ilike) (hoperand : Like.Exchangeable operand)
    (hpattern : r.pattern? = some (Like.ofOperand operand))
    (hholds : r.holds row = Like.matchesText (Like.ofOperand operand) text)
    (htext : IsAsciiText text) : r.Agrees ilike row (Like.ofOperand operand) text := by
  rw [Requirement.agrees_iff hpattern hholds]
  refine ⟨hoperand.1, ?_⟩
  exact Like.matches_iff_ilike hilike (Like.portable_ofOperand.mpr hoperand.2) htext

/-- Where the two agree on some text, an operand that is not exchangeable is not portable. -/
theorem not_portable_of_agrees (hoperand : ¬ Like.Exchangeable operand)
    (hpattern : r.pattern? = some (Like.ofOperand operand))
    (hholds : r.holds row = Like.matchesText (Like.ofOperand operand) text)
    (h : r.Agrees ilike row (Like.ofOperand operand) text) :
    ¬ Portable (Like.ofOperand operand).toList := by
  intro hportable
  obtain ⟨hsmall, -⟩ := (Requirement.agrees_iff hpattern hholds).mp h
  exact hoperand ⟨hsmall, Like.portable_ofOperand.mp hportable⟩

end

/-- **Pattern matches agree exactly for exchangeable operands.** Every entry with `like` and a text
is a requirement of the query, with its pattern among the parameters of the statement. In memory and
with `ILIKE` it comes to the same on every ASCII text, and on the text of every day, if the operand
is exchangeable. If it is not, there is an ASCII text on which it does not, unless the operand has a
`%` and ends in an open escape; nor does it on any day that `ILIKE` matches. -/
theorem like_agrees_iff_exchangeable (hilike : IsIlike ilike) (h : e.compile d = .ok p)
    (types : ColumnTypes) :
    (renderCount types (.resolve e p)).params
        = (Query.resolve e p).formula.atoms.flatMap Requirement.params
      ∧ (∀ c ∈ d.conditions, c.Means .like → ∀ operand, c.value = .string operand →
        ∃ r, (Query.resolve e p).AsksLike types (.cast (.column c.field) [.word "text"])
            (Like.ofOperand operand) r
          ∧ (Like.Exchangeable operand → ∀ row text, row.field? c.field = some (.string text) →
            IsAsciiText text → r.Agrees ilike row (Like.ofOperand operand) text)
          ∧ (¬ Like.Exchangeable operand → ('%' ∈ operand.toList → closed operand.toList) →
            ∃ text, IsAsciiText text ∧ ∀ row, row.field? c.field = some (.string text) →
              ¬ r.Agrees ilike row (Like.ofOperand operand) text))
      ∧ ∀ c ∈ d.dates, c.Means .like → ∀ operand, c.value = .string operand →
        ∃ r, (Query.resolve e p).AsksLike types (.cast (dayTerm c.field) [.word "text"])
            (Like.ofOperand operand) r
          ∧ (Like.Exchangeable operand → ∀ row day, dayOf? row c.field = some day →
            r.Agrees ilike row (Like.ofOperand operand) day.text)
          ∧ (¬ Like.Exchangeable operand → ∀ row day, dayOf? row c.field = some day →
            ilike (Like.ofOperand operand).toList day.text.toList →
              ¬ r.Agrees ilike row (Like.ofOperand operand) day.text) := by
  refine ⟨Sql.paramsOf_condition _, ?_, ?_⟩
  · intro c hc hlike operand hvalue
    refine ⟨_, asksLike_of_mem_conditions h types hc hlike hvalue, ?_, ?_⟩
    · intro hoperand row text hrow htext
      exact agrees_of_exchangeable hilike hoperand rfl (holds_like hrow) htext
    · intro hoperand hclosed
      -- An operand is not exchangeable because of its size or because of what its pattern matches.
      by_cases hportable : Portable (Like.ofOperand operand).toList
      · refine ⟨"", by decide, fun row hrow hagrees => ?_⟩
        exact not_portable_of_agrees hoperand rfl (holds_like hrow) hagrees hportable
      · obtain ⟨t, ht, hdiffer⟩ :=
          Like.exists_text_of_not_portable hilike (Like.closed_ofOperand hclosed) hportable
        refine ⟨String.ofList t, by simpa [IsAsciiText] using ht, fun row hrow hagrees => ?_⟩
        rw [Requirement.agrees_iff rfl (holds_like hrow), String.toList_ofList] at hagrees
        exact hdiffer hagrees.2
  · intro c hc hlike operand hvalue
    refine ⟨_, asksLike_of_mem_dates h types hc hlike hvalue, ?_, ?_⟩
    · intro hoperand row day hday
      exact agrees_of_exchangeable hilike hoperand rfl (holds_likeDay hday) day.isAsciiText_text
    · intro hoperand row day hday hmatches hagrees
      have hportable := not_portable_of_agrees hoperand rfl (holds_likeDay hday) hagrees
      obtain ⟨-, hiff⟩ := (Requirement.agrees_iff rfl (holds_likeDay hday)).mp hagrees
      exact Like.not_matches_of_ilike hilike hportable day.isAsciiText_text
        day.backslash_not_mem_text hmatches (hiff.mpr hmatches)

/-! ### Rooms and escapes -/

namespace Sample

def found (name joined : String) : Document :=
  { Document.empty with
    conditions := [⟨"name", some "like", .string name⟩]
    dates := [⟨"joined", some "like", .string joined⟩] }

def foundPlan (name joined : String) : Plan :=
  { Plan.empty with
    predicates := [⟨"name", .like, .text name⟩]
    datePredicates := [⟨"joined", .like, .pattern joined⟩] }

/-- Short operands of wildcards, hyphens and some of the digits are exchangeable. -/
theorem exchangeable_of_digits {operand : String}
    (hpattern : (Like.ofOperand operand).toList.all fun c => c ∈ "%_0124-".toList)
    (hlength : (Like.ofOperand operand).toList.length < 100)
    (hplain : operand.toList.all fun c => Text.IsAscii c ∧ c ≠ '\\') :
    Like.Exchangeable operand := by
  -- These characters have no variants, which is a matter of looking through all runs of foldings.
  have hcaseless : "0124-".toList.all fun c => Text.foldCase c = c
      ∧ ∀ r ∈ Text.foldRuns, r.covers ((c.toNat : Int) - r.offset).toNat = false := by
    decide +kernel
  simp only [List.all_eq_true, decide_eq_true_eq] at hpattern hplain hcaseless
  refine ⟨Like.isTooLarge_eq_false_of_caseless (fun c hc => ?_) ?_, .inl hplain⟩
  · have hmem : c ∈ '%' :: '_' :: "0124-".toList := hpattern c hc
    rw [List.mem_cons, List.mem_cons] at hmem
    rcases hmem with hrun | hone | hdigit
    · exact .inl hrun
    · exact .inr (.inl hone)
    · obtain ⟨hfold, hruns⟩ := hcaseless c hdigit
      exact .inr (.inr (Like.caseless_of_forall_covers hfold hruns))
  · have hframe : Like.Footprint.frame.forward = 192 := rfl
    have hlimit : Like.sizeLimit = 10485760 := rfl
    rw [Like.symbolSize_eq]
    omega

/-- Operands of ASCII characters are not if they have a backslash. -/
theorem not_exchangeable_of_backslash {operand : String} (hmem : '\\' ∈ operand.toList)
    (hascii : operand.toList.all fun c => Text.IsAscii (Text.foldCase c)) :
    ¬ Like.Exchangeable operand := by
  simp only [List.all_eq_true, decide_eq_true_eq] at hascii
  rintro ⟨-, hplain | ⟨c, hc, hfold⟩⟩
  · exact (hplain _ hmem).2 rfl
  · exact hfold (hascii c hc)

/-- For `ILIKE` the operand `a\_b` is the text `a_b`, and `2024\-01` the beginning of many days. In
memory they are not. -/
theorem escapes_disagree :
    let query := Query.resolve guests (foundPlan "%a\\_b%" "%2024\\-01%")
    let name := Requirement.predicate ⟨"name", .like, .text "%a\\_b%"⟩
    let joined := Requirement.date ⟨"joined", .like, .pattern "%2024\\-01%"⟩
    IsIlike (Like.ilike · ·)
      ∧ guests.compile (found "a\\_b" "2024\\-01") = .ok query.plan
      ∧ query.AsksLike .empty (.cast (.column "name") [.word "text"]) "%a\\_b%" name
      ∧ name.holds (guest "a_b" 40) = false
      ∧ Like.ilike "%a\\_b%".toList "a_b".toList = true
      ∧ query.AsksLike .empty (.cast (dayTerm "joined") [.word "text"]) "%2024\\-01%" joined
      ∧ joined.holds (guest "a_b" 40) = false
      ∧ Like.ilike "%2024\\-01%".toList "2024-01-31".toList = true := by
  intro query name joined
  have hname : name ∈ query.formula.atoms := .tail _ (.head _)
  have hjoined : joined ∈ query.formula.atoms := .tail _ (.tail _ (.head _))
  exact ⟨Like.isIlike_ilike, by decide +kernel, ⟨hname, rfl, rfl⟩, by decide +kernel,
    by decide +kernel, ⟨hjoined, rfl, rfl⟩, by decide +kernel, by decide +kernel⟩

/-- A guest who joined in January and is in room 42 is found by both, by the number of the room and
by the month. An escaped number finds no guest in memory whom `ILIKE` finds. -/
theorem room_agrees :
    (∃ r, (Query.resolve guests (foundPlan "%4_%" "%2024-01%")).AsksLike .empty
        (.cast (.column "name") [.word "text"]) "%4_%" r
      ∧ r.Agrees (Like.ilike · ·) (guest "Room 42" 40) "%4_%" "Room 42")
    ∧ (∃ r, (Query.resolve guests (foundPlan "%4_%" "%2024-01%")).AsksLike .empty
        (.cast (dayTerm "joined") [.word "text"]) "%2024-01%" r
      ∧ r.Agrees (Like.ilike · ·) (guest "Room 42" 40) "%2024-01%" "2024-01-31")
    ∧ (∃ r, (Query.resolve guests (foundPlan "%\\4_%" "%2024\\-01%")).AsksLike .empty
        (.cast (.column "name") [.word "text"]) "%\\4_%" r
      ∧ ∃ text, IsAsciiText text
        ∧ ¬ r.Agrees (Like.ilike · ·) (guest text 40) "%\\4_%" text)
    ∧ ∃ r, (Query.resolve guests (foundPlan "%\\4_%" "%2024\\-01%")).AsksLike .empty
        (.cast (dayTerm "joined") [.word "text"]) "%2024\\-01%" r
      ∧ ¬ r.Agrees (Like.ilike · ·) (guest "Room 42" 40) "%2024\\-01%" "2024-01-31" := by
  have hplain : guests.compile (found "4_" "2024-01") = .ok (foundPlan "%4_%" "%2024-01%") := by
    decide +kernel
  have hescaped : guests.compile (found "\\4_" "2024\\-01")
      = .ok (foundPlan "%\\4_%" "%2024\\-01%") := by
    decide +kernel
  have hlike (field operand : String) :
      Condition.Means ⟨field, some "like", .string operand⟩ .like := by
    rw [← meantOperator?_eq_some_iff]
    show Operator.ofText? "like" = _
    decide +kernel
  obtain ⟨-, hnames, hdays⟩ := like_agrees_iff_exchangeable Like.isIlike_ilike hplain .empty
  obtain ⟨-, hnames', hdays'⟩ := like_agrees_iff_exchangeable Like.isIlike_ilike hescaped .empty
  have hname (name : String) : (guest name 40).field? "name" = some (.string name) := rfl
  let day : Date := ⟨2024, 1, 31, by decide⟩
  have hday : dayOf? (guest "Room 42" 40) "joined" = some day := by decide +kernel
  have htext : day.text = "2024-01-31" := by decide +kernel
  have hroom := hnames _ (.head _) (hlike _ _) "4_" rfl
  have hmonth := hdays _ (.head _) (hlike _ _) "2024-01" rfl
  have hroom' := hnames' _ (.head _) (hlike _ _) "\\4_" rfl
  have hmonth' := hdays' _ (.head _) (hlike _ _) "2024\\-01" rfl
  rw [show Like.ofOperand "4_" = "%4_%" by decide +kernel] at hroom
  rw [show Like.ofOperand "2024-01" = "%2024-01%" by decide +kernel] at hmonth
  rw [show Like.ofOperand "\\4_" = "%\\4_%" by decide +kernel] at hroom'
  rw [show Like.ofOperand "2024\\-01" = "%2024\\-01%" by decide +kernel] at hmonth'
  refine ⟨?_, ?_, ?_, ?_⟩
  · obtain ⟨r, hr, hagrees, -⟩ := hroom
    have hoperand : Like.Exchangeable "4_" :=
      exchangeable_of_digits (by decide +kernel) (by decide +kernel) (by decide)
    exact ⟨r, hr, hagrees hoperand (guest "Room 42" 40) "Room 42" (hname _) (by decide)⟩
  · obtain ⟨r, hr, hagrees, -⟩ := hmonth
    have hoperand : Like.Exchangeable "2024-01" :=
      exchangeable_of_digits (by decide +kernel) (by decide +kernel) (by decide)
    exact ⟨r, hr, htext ▸ hagrees hoperand (guest "Room 42" 40) day hday⟩
  · obtain ⟨r, hr, -, hdisagrees⟩ := hroom'
    have hoperand : ¬ Like.Exchangeable "\\4_" :=
      not_exchangeable_of_backslash (by decide) (by decide +kernel)
    obtain ⟨text, hascii, hrow⟩ := hdisagrees hoperand fun hrun => absurd hrun (by decide)
    exact ⟨r, hr, text, hascii, hrow (guest text 40) (hname text)⟩
  · obtain ⟨r, hr, -, hdisagrees⟩ := hmonth'
    have hoperand : ¬ Like.Exchangeable "2024\\-01" :=
      not_exchangeable_of_backslash (by decide) (by decide +kernel)
    rw [← htext]
    exact ⟨r, hr, hdisagrees hoperand (guest "Room 42" 40) day hday (by decide +kernel)⟩

end Sample

end Sift
