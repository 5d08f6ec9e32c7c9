import Mathlib.Data.List.TakeWhile
import Sift.Proofs.Text.Percent
import Sift.Service.Request

/-!
# What a target says

A target that starts with a slash is a path and, after a question mark, a query (`path_of_query`). A
query that gives one count, as it is written in decimal digits, is read as that count
(`ofQuery_page` and `ofQuery_perPage`).

Main statements: `Request.path_of_query`, `SearchParams.ofQuery_page` and
`SearchParams.ofQuery_perPage`.
-/

namespace Sift

/-! ## Targets -/

namespace Request

variable {r : Request} {path query : String}

theorem address_of_slash (h : r.target = "/" ++ path) (hpath : '#' ∉ path.toList) :
    r.address = '/' :: path.toList := by
  have hkeep : ∀ c ∈ r.target.toList, (c != '#') = true := by
    intro c hc
    have hne : c ≠ '#' := by
      rintro rfl
      simp [h, hpath] at hc
    simpa using hne
  rw [address, List.takeWhile_eq_self_iff.mpr hkeep, h, String.toList_append]
  exact afterHost_of_slash _

/-- A path without marks ends at the first question mark, if there is one. -/
theorem keeps_path (hpath : ∀ c ∈ path.toList, c ≠ '?' ∧ c ≠ '#') :
    ∀ c ∈ '/' :: path.toList, (c != '?') = true := by
  intro c hc
  rcases List.mem_cons.mp hc with rfl | hc
  · decide
  · simpa using (hpath c hc).1

/-- A target without a question mark is a path without a query. -/
theorem path_of_plain (h : r.target = "/" ++ path)
    (hpath : ∀ c ∈ path.toList, c ≠ '?' ∧ c ≠ '#') : r.path = r.target ∧ r.query = none := by
  have haddress := address_of_slash h fun hmem => (hpath _ hmem).2 rfl
  constructor
  · rw [Request.path, haddress, List.takeWhile_eq_self_iff.mpr (keeps_path hpath), h,
      ← String.toList_inj]
    simp
  · rw [Request.query, haddress, List.dropWhile_eq_nil_iff.mpr (keeps_path hpath)]

/-- What comes after the first question mark is the query. -/
theorem path_of_query (h : r.target = "/" ++ path ++ "?" ++ query)
    (hpath : ∀ c ∈ path.toList, c ≠ '?' ∧ c ≠ '#') (hquery : '#' ∉ query.toList) :
    r.path = "/" ++ path ∧ r.query = some query := by
  have hrest : '#' ∉ (path ++ "?" ++ query).toList := by
    have hplain : '#' ∉ path.toList := fun hmem => (hpath _ hmem).2 rfl
    simp [hplain, hquery]
  have haddress := address_of_slash (by rw [h]; simp [String.append_assoc]) hrest
  have hsplit : '/' :: (path ++ "?" ++ query).toList
      = ('/' :: path.toList) ++ '?' :: query.toList := by simp
  constructor
  · rw [Request.path, haddress, hsplit, List.takeWhile_append_of_pos (keeps_path hpath),
      ← String.toList_inj]
    simp
  · rw [Request.query, haddress, hsplit, List.dropWhile_append_of_pos (keeps_path hpath)]
    simp

end Request

/-! ## Counts -/

namespace Text

theorem le_ofDigitChars (digits : List Char) (n : Nat) : n ≤ Nat.ofDigitChars 10 digits n := by
  induction digits generalizing n with
  | nil => simp
  | cons c digits ih =>
    have hrest := ih (10 * n + (c.toNat - '0'.toNat))
    rw [Nat.ofDigitChars_cons]
    omega

/-- Digits are read if the count they write keeps the limit. -/
theorem appendDigits_eq_ok {limit n : Nat} {digits : List Char}
    (hdigits : ∀ c ∈ digits, c.isDigit = true) (h : Nat.ofDigitChars 10 digits n ≤ limit) :
    appendDigits limit n digits = .ok (Nat.ofDigitChars 10 digits n) := by
  induction digits generalizing n with
  | nil => simp [appendDigits]
  | cons c digits ih =>
    obtain ⟨hc, hrest⟩ := List.forall_mem_cons.mp hdigits
    rw [Nat.ofDigitChars_cons] at h ⊢
    have hle : 10 * n + (c.toNat - '0'.toNat) ≤ limit := Nat.le_trans (le_ofDigitChars _ _) h
    rw [appendDigits, if_pos hc, if_pos hle, ih hrest h]

theorem isDigit_of_mem_toString {n : Nat} {c : Char} (h : c ∈ (toString n).toList) :
    c.isDigit = true := by
  refine Nat.isDigit_of_mem_toDigits (b := 10) (n := n) (by decide) (by decide) ?_
  simpa [Nat.repr_eq_ofList_toDigits] using h

theorem hash_not_mem_append {word : String} (h : '#' ∉ word.toList) (n : Nat) :
    '#' ∉ (word ++ toString n).toList := by
  have hdigits : '#' ∉ (toString n).toList := fun hmem =>
    absurd (isDigit_of_mem_toString hmem) (by decide)
  rw [String.toList_append, List.mem_append, not_or]
  exact ⟨h, hdigits⟩

/-- A count is read back from its decimal digits. -/
theorem readCount_toString {limit n : Nat} (h : n ≤ limit) :
    readCount limit (toString n) = .ok n := by
  have htext : (toString n).toList = Nat.toDigits 10 n := by
    simp [Nat.repr_eq_ofList_toDigits]
  have hdigits : ∀ c ∈ Nat.toDigits 10 n, c.isDigit = true := fun c hc =>
    isDigit_of_mem_toString (htext ▸ hc)
  have hvalue : Nat.ofDigitChars 10 (Nat.toDigits 10 n) 0 = n :=
    Nat.ofDigitChars_ten_toDigits
  have hread : appendDigits limit 0 (Nat.toDigits 10 n) = .ok n := by
    rw [appendDigits_eq_ok hdigits (by rwa [hvalue]), hvalue]
  rw [readCount, htext]
  split
  · next hnil => exact absurd hnil Nat.toDigits_ne_nil
  · next hplus => simp [hplus] at hdigits
  · next hplus =>
    rw [hplus] at hdigits
    exact absurd (hdigits '+' List.mem_cons_self) (by decide)
  · exact hread

end Text

/-! ## Parameters -/

namespace SearchParams

theorem not_formMark_of_mem_toString {n : Nat} :
    ∀ c ∈ (toString n).toList, c ∉ Text.formMarks := by
  intro c hc hmark
  have hdigit := Text.isDigit_of_mem_toString hc
  simp only [Text.formMarks, List.mem_cons, List.not_mem_nil, or_false] at hmark
  rcases hmark with rfl | rfl | rfl | rfl <;> simp at hdigit

/-- A query of one parameter, without characters that stand for something else. -/
theorem ofQuery_single {name value : String} (hname : ∀ c ∈ name.toList, c ∉ Text.formMarks)
    (hvalue : ∀ c ∈ value.toList, c ∉ Text.formMarks) :
    ofQuery (some (name ++ "=" ++ value)) = takeParam none (name, value) := by
  have hform := Text.formParameters_single hname hvalue
  simp [ofQuery, hform]

/-- A count that fits its word is read from its decimal digits. -/
theorem takeCount_toString {n : Nat} (name : String) (h : n ≤ maxCount) :
    takeCount name .none (toString n) = .ok n := by
  rw [takeCount, Text.readCount_toString h]
  rfl

theorem ofQuery_page {n : Nat} (h : n ≤ maxCount) :
    ofQuery (some ("page=" ++ toString n)) = .ok ⟨some n, .none⟩ := by
  have htext : "page=" ++ toString n = "page" ++ "=" ++ toString n := rfl
  have hname : ∀ c ∈ "page".toList, c ∉ Text.formMarks := List.all_iff_forall_prop.mp (by decide)
  rw [htext, ofQuery_single hname not_formMark_of_mem_toString, takeParam, none,
    takeCount_toString "page" h]
  rfl

theorem ofQuery_perPage {n : Nat} (h : n ≤ maxCount) :
    ofQuery (some ("perPage=" ++ toString n)) = .ok ⟨.none, some n⟩ := by
  have htext : "perPage=" ++ toString n = "perPage" ++ "=" ++ toString n := rfl
  have hname : ∀ c ∈ "perPage".toList, c ∉ Text.formMarks := List.all_iff_forall_prop.mp (by decide)
  rw [htext, ofQuery_single hname not_formMark_of_mem_toString, takeParam, none,
    takeCount_toString "perPage" h]
  rfl

end SearchParams

end Sift
