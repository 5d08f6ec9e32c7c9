import Sift.Proofs.Compile.Inversion
import Sift.Proofs.Sql.Formula
import Sift.Proofs.Sql.Token

/-!
# Reading conditions

How the tokens of a statement are read as SQL reads them. Parentheses come first: tokens are nested
into items (`nest?`). Among the items of one level `OR` binds least. Then comes `AND`, except for
the one that belongs to a `BETWEEN` (`conjuncts`). What is left between them is a test or a
condition in parentheses (`primary?`). A chain of one operator is read from the left.

What a group in parentheses can stand for is settled when it closes: it may be the inside of a
`CAST`, or a condition. So the reader needs no recursion but that over the tokens.

Main statements: `nest?_eq_some_iff`, `condition?_and` and `condition?_or`.
-/

namespace Sift

namespace Sql

/-! ## What is read -/

/-- A value in a test. The type of a cast is kept as its tokens. -/
inductive Term where
  | column (name : String)
  | param (p : Param)
  | null
  | cast (t : Term) (type : List (Token Param))
  deriving DecidableEq

inductive Atom where
  | isNull (t : Term)
  | notNull (t : Term)
  | compare (op : Operator) (left right : Term)
  | like (left right : Term)
  | between (t low high : Term)
  deriving DecidableEq

/-- A token, or a group in parentheses: its tokens, and what they can stand for. -/
inductive Item where
  | token (t : Token Param)
  | group (tokens : List (Token Param)) (cast? : Option (Term × List (Token Param)))
      (condition? : Option (Formula Atom))

namespace Item

def tokens : Item → List (Token Param)
  | .token t => [t]
  | .group ts _ _ => .opening :: ts ++ [.closing]

def isWord (w : String) : Item → Bool
  | .token (.word s) => s == w
  | _ => false

/-- The word that the item is cannot be part of a condition. -/
def endsCondition (i : Item) : Bool := i.isWord "order" || i.isWord "limit"

end Item

def tokensOf (items : List Item) : List (Token Param) := items.flatMap Item.tokens

/-! ## Terms and tests -/

/-- The term at the front of items without a cast behind it, and what follows. -/
def primaryTerm? : List Item → Option (Term × List Item)
  | .token (.word "t") :: .token (.symbol ".") :: .token (.name c) :: rest => some (.column c, rest)
  | .token (.operand p) :: rest => some (.param p, rest)
  | .token (.word "null") :: rest => some (.null, rest)
  | .token (.word "cast") :: .group _ (some (t, type)) _ :: rest => some (.cast t type, rest)
  | _ => none

def term? (items : List Item) : Option (Term × List Item) :=
  match primaryTerm? items with
  | some (t, .token (.symbol "::") :: .token (.word type) :: rest) =>
    some (.cast t [.word type], rest)
  | r => r

def wholeTerm? (items : List Item) : Option Term :=
  match term? items with
  | some (t, []) => some t
  | _ => none

def castBody? (items : List Item) : Option (Term × List (Token Param)) :=
  match term? items with
  | some (t, .token (.word "as") :: type) => some (t, tokensOf type)
  | _ => none

def operatorOf? : String → Option Operator
  | "=" => some .equal
  | "<>" => some .notEqual
  | "<" => some .less
  | "<=" => some .lessOrEqual
  | ">" => some .greater
  | ">=" => some .greaterOrEqual
  | _ => none

def atom? (items : List Item) : Option Atom :=
  match term? items with
  | some (t, [.token (.word "is"), .token (.word "null")]) => some (.isNull t)
  | some (t, [.token (.word "is"), .token (.word "not"), .token (.word "null")]) =>
    some (.notNull t)
  | some (t, .token (.word "ilike") :: rest) => (wholeTerm? rest).map (.like t)
  | some (t, .token (.word "between") :: rest) =>
    match term? rest with
    | some (low, .token (.word "and") :: rest) => (wholeTerm? rest).map (.between t low)
    | _ => none
  | some (t, .token (.symbol s) :: rest) =>
    (operatorOf? s).bind fun op => (wholeTerm? rest).map (.compare op t)
  | _ => none

/-! ## Conditions -/

/-- The parts between the conjunctions. After a `BETWEEN` (`bounded`) the next `AND` is none. -/
def conjuncts (bounded : Bool) : List Item → List (List Item)
  | [] => [[]]
  | i :: rest =>
    if i.isWord "and" then
      if bounded then (conjuncts false rest).modifyHead (i :: ·) else [] :: conjuncts false rest
    else
      (conjuncts (bounded || i.isWord "between") rest).modifyHead (i :: ·)

def primary? : List Item → Option (Formula Atom)
  | [.group _ _ condition?] => condition?
  | items => (atom? items).map .atom

def conjunction? (items : List Item) : Option (Formula Atom) :=
  ((conjuncts false items).mapM primary?).bind (Formula.chain? .and)

def condition? (items : List Item) : Option (Formula Atom) :=
  ((items.splitOnP (·.isWord "or")).mapM conjunction?).bind (Formula.chain? .or)

/-! ## Parentheses -/

def Item.ofGroup (items : List Item) : Item :=
  .group (tokensOf items) (castBody? items) (condition? items)

/-- Takes a token to the items of the groups that are open, the innermost first. -/
def nestStep : List (List Item) → Token Param → Option (List (List Item))
  | levels, .opening => some ([] :: levels)
  | inner :: outer :: rest, .closing => some ((outer ++ [.ofGroup inner]) :: rest)
  | _, .closing => none
  | items :: rest, t => some ((items ++ [.token t]) :: rest)
  | [], _ => none

def nest? (ts : List (Token Param)) : Option (List Item) :=
  match ts.foldlM nestStep [[]] with
  | some [items] => some items
  | _ => none

/-! ## Nesting undoes what parentheses do -/

@[simp] theorem tokensOf_nil : tokensOf [] = [] := rfl

@[simp] theorem tokensOf_cons (i : Item) (items : List Item) :
    tokensOf (i :: items) = i.tokens ++ tokensOf items := rfl

@[simp] theorem tokensOf_append (a b : List Item) : tokensOf (a ++ b) = tokensOf a ++ tokensOf b :=
  List.flatMap_append

@[simp] theorem tokens_token (t : Token Param) : (Item.token t).tokens = [t] := rfl

@[simp] theorem tokens_ofGroup (items : List Item) :
    (Item.ofGroup items).tokens = .opening :: tokensOf items ++ [.closing] := rfl

/-- The item is a token, or a group that says what its inside can stand for. -/
inductive Item.Built : Item → Prop
  | token {t : Token Param} (hopening : t ≠ .opening) (hclosing : t ≠ .closing) : Built (.token t)
  | group {items : List Item} (h : ∀ i ∈ items, i.Built) : Built (.ofGroup items)

@[simp] theorem built_token {t : Token Param} :
    (Item.token t).Built ↔ t ≠ .opening ∧ t ≠ .closing := by
  constructor
  · intro h
    cases h with
    | token hopening hclosing => exact ⟨hopening, hclosing⟩
  · exact fun h => .token h.1 h.2

theorem foldlM_nestStep {items : List Item} {outer : List (List Item)}
    (h : ∀ i ∈ items, ∀ inner,
      i.tokens.foldlM nestStep (inner :: outer) = some ((inner ++ [i]) :: outer))
    (inner : List Item) :
    (tokensOf items).foldlM nestStep (inner :: outer) = some ((inner ++ items) :: outer) := by
  induction items generalizing inner with
  | nil => simp
  | cons i items ih =>
    obtain ⟨hi, hitems⟩ := List.forall_mem_cons.mp h
    simp [hi inner, ih hitems]

theorem Item.Built.foldlM_nestStep {i : Item} (h : i.Built) (inner : List Item)
    (outer : List (List Item)) :
    i.tokens.foldlM nestStep (inner :: outer) = some ((inner ++ [i]) :: outer) := by
  induction h generalizing inner outer with
  | @token t hopening hclosing => cases t <;> first | rfl | contradiction
  | @group items _ ih =>
    have hinside : (tokensOf items).foldlM nestStep ([] :: inner :: outer)
        = some (items :: inner :: outer) :=
      Sql.foldlM_nestStep (fun i hi inner' => ih i hi inner' _) []
    simp [nestStep, hinside]

/-- The tokens that were taken so far, given the items of the groups that are open. -/
def unnest : List (List Item) → List (Token Param)
  | [] => []
  | [items] => tokensOf items
  | inner :: outer :: rest => unnest (outer :: rest) ++ .opening :: tokensOf inner

theorem unnest_append (items more : List Item) (outer : List (List Item)) :
    unnest ((items ++ more) :: outer) = unnest (items :: outer) ++ tokensOf more := by
  cases outer <;> simp [unnest]

/-- A step forgets no token and builds what it makes. -/
theorem unnest_nestStep {levels levels' : List (List Item)} {t : Token Param}
    (h : nestStep levels t = some levels') (hne : levels ≠ [])
    (hbuilt : ∀ items ∈ levels, ∀ i ∈ items, i.Built) :
    levels' ≠ [] ∧ unnest levels' = unnest levels ++ [t]
      ∧ ∀ items ∈ levels', ∀ i ∈ items, i.Built := by
  obtain ⟨inner, outer, rfl⟩ := List.exists_cons_of_ne_nil hne
  obtain ⟨hinner, houter⟩ := List.forall_mem_cons.mp hbuilt
  have hpush : ∀ {i : Item} {items : List Item} {rest : List (List Item)}, i.Built →
      (∀ j ∈ items, j.Built) → (∀ items ∈ rest, ∀ j ∈ items, j.Built) →
      ∀ x ∈ (items ++ [i]) :: rest, ∀ j ∈ x, j.Built := by
    intro i items rest hi hitems hrest
    refine List.forall_mem_cons.mpr ⟨?_, hrest⟩
    exact List.forall_mem_append.mpr ⟨hitems, List.forall_mem_singleton.mpr hi⟩
  cases t with
  | opening =>
    cases h
    refine ⟨by simp, by simp [unnest], List.forall_mem_cons.mpr ⟨by simp, hbuilt⟩⟩
  | closing =>
    -- The group that ends here becomes one item of the level around it, so there must be one.
    cases outer with
    | nil => cases h
    | cons items rest =>
      cases h
      obtain ⟨hitems, hrest⟩ := List.forall_mem_cons.mp houter
      refine ⟨by simp, ?_, hpush (.group hinner) hitems hrest⟩
      rw [unnest_append]
      simp [unnest]
  | _ =>
    cases h
    refine ⟨by simp, ?_, hpush (.token (by simp) (by simp)) hinner houter⟩
    rw [unnest_append]
    simp

theorem unnest_foldlM {ts : List (Token Param)} {levels levels' : List (List Item)}
    (h : ts.foldlM nestStep levels = some levels') (hne : levels ≠ [])
    (hbuilt : ∀ items ∈ levels, ∀ i ∈ items, i.Built) :
    unnest levels' = unnest levels ++ ts ∧ ∀ items ∈ levels', ∀ i ∈ items, i.Built := by
  induction ts generalizing levels with
  | nil => cases h; exact ⟨by simp, hbuilt⟩
  | cons t ts ih =>
    rw [List.foldlM_cons] at h
    obtain ⟨next, hnext, hrest⟩ := Option.bind_eq_some_iff.mp h
    obtain ⟨hne', htokens, hbuilt'⟩ := unnest_nestStep hnext hne hbuilt
    obtain ⟨hall, hall'⟩ := ih hrest hne' hbuilt'
    exact ⟨by simp [hall, htokens], hall'⟩

/-- Tokens are the tokens of the items that they are nested into, and of no others. -/
theorem nest?_eq_some_iff {ts : List (Token Param)} {items : List Item} :
    nest? ts = some items ↔ tokensOf items = ts ∧ ∀ i ∈ items, i.Built := by
  unfold nest?
  constructor
  · intro h
    split at h
    · next hfold =>
      cases h
      obtain ⟨htokens, hbuilt⟩ := unnest_foldlM hfold (by simp) (by simp)
      exact ⟨by simpa [unnest] using htokens, by simpa using hbuilt⟩
    · cases h
  · rintro ⟨rfl, hbuilt⟩
    have hfold : (tokensOf items).foldlM nestStep [[]] = some [items] :=
      foldlM_nestStep (fun i hi inner => (hbuilt i hi).foldlM_nestStep inner []) []
    rw [hfold]

/-! ## Parts that are read on their own -/

/-- No matter what follows the items, they belong to one part of a conjunction. -/
def Solid (items : List Item) : Prop :=
  ∀ rest, conjuncts false (items ++ rest) = (conjuncts false rest).modifyHead (items ++ ·)

theorem conjuncts_append {b : Bool} {items : List Item}
    (h : ∀ i ∈ items, i.isWord "and" = false ∧ i.isWord "between" = false) (rest : List Item) :
    conjuncts b (items ++ rest) = (conjuncts b rest).modifyHead (items ++ ·) := by
  induction items with
  | nil => cases h : conjuncts b rest <;> simp [h]
  | cons i items ih =>
    obtain ⟨⟨hand, hbetween⟩, hitems⟩ := List.forall_mem_cons.mp h
    simp only [List.cons_append, conjuncts, hand, hbetween, Bool.or_false, ih hitems,
      List.modifyHead_modifyHead, Bool.false_eq_true, if_false]
    rfl

/-- The items are one part of a conjunction, which is read as a formula. No word at their level
ends a condition. -/
structure ReadsAs (items : List Item) (f : Formula Atom) : Prop where
  solid : Solid items
  inside : ∀ i ∈ items, i.isWord "or" = false ∧ i.endsCondition = false
  reads : primary? items = some f

/-- The parts of a conjunction are told apart again. -/
theorem conjuncts_intercalate {part : List Item} {parts : List (List Item)}
    (h : ∀ p ∈ part :: parts, Solid p) :
    conjuncts false ([.token (.word "and")].intercalate (part :: parts)) = part :: parts := by
  induction parts generalizing part with
  | nil =>
    have hlast := h part (by simp) []
    simpa [conjuncts] using hlast
  | cons second parts ih =>
    -- The first part is solid, so the `AND` behind it is the next that divides.
    obtain ⟨hpart, hparts⟩ := List.forall_mem_cons.mp h
    rw [List.intercalate_cons_cons, List.append_assoc, hpart, List.singleton_append, conjuncts]
    simp [Item.isWord, ih hparts]

theorem forall_mem_intercalate {P : Item → Prop} {separator : List Item} {parts : List (List Item)}
    (hseparator : ∀ i ∈ separator, P i) (h : ∀ p ∈ parts, ∀ i ∈ p, P i) :
    ∀ i ∈ separator.intercalate parts, P i := by
  induction parts with
  | nil => simp
  | cons part parts ih =>
    obtain ⟨hpart, hparts⟩ := List.forall_mem_cons.mp h
    cases parts with
    | nil => simpa using hpart
    | cons second parts =>
      rw [List.intercalate_cons_cons]
      simp only [List.forall_mem_append]
      exact ⟨⟨hpart, hseparator⟩, ih hparts⟩

theorem mapM_eq_some {α β : Type} {R : α → β → Prop} {f : α → Option β} {l : List α} {m : List β}
    (h : List.Forall₂ R l m) (hf : ∀ {a b}, R a b → f a = some b) : l.mapM f = some m := by
  induction h with
  | nil => rfl
  | cons hab _ ih => simp [List.mapM_cons, hf hab, ih]

theorem conjunction?_intercalate {parts : List (List Item)} {f : Formula Atom}
    {fs : List (Formula Atom)} (h : List.Forall₂ ReadsAs parts (f :: fs)) :
    conjunction? ([.token (.word "and")].intercalate parts) = some (.chain .and f fs) := by
  have hread : parts.mapM primary? = some (f :: fs) := mapM_eq_some h ReadsAs.reads
  have hsolid : ∀ p ∈ parts, Solid p := forall_mem_of_forall₂ h ReadsAs.solid
  cases parts with
  | nil => cases h
  | cons part parts =>
    unfold conjunction?
    rw [conjuncts_intercalate hsolid, hread]
    rfl

/-- A conjunction of parts that read as formulas is read as the conjunction of these. -/
theorem condition?_and {parts : List (List Item)} {f : Formula Atom} {fs : List (Formula Atom)}
    (h : List.Forall₂ ReadsAs parts (f :: fs)) :
    condition? ([.token (.word "and")].intercalate parts) = some (.chain .and f fs) := by
  have hor : ∀ i ∈ [Item.token (.word "and")].intercalate parts, i.isWord "or" = false :=
    forall_mem_intercalate (by simp [Item.isWord])
      (forall_mem_of_forall₂ h fun hp i hi => (hp.inside i hi).1)
  unfold condition?
  rw [List.splitOnP_eq_singleton hor, List.mapM_cons, conjunction?_intercalate h]
  rfl

theorem ReadsAs.conjunction? {items : List Item} {f : Formula Atom} (h : ReadsAs items f) :
    Sql.conjunction? items = some f := by
  have hone := conjunction?_intercalate (.cons h .nil)
  rwa [List.intercalate_singleton] at hone

/-- The parts of a disjunction are told apart again. -/
theorem splitOnP_intercalate {part : List Item} {parts : List (List Item)}
    (h : ∀ p ∈ part :: parts, ∀ i ∈ p, i.isWord "or" = false) :
    ([Item.token (.word "or")].intercalate (part :: parts)).splitOnP (·.isWord "or")
      = part :: parts := by
  induction parts generalizing part with
  | nil =>
    rw [List.intercalate_singleton]
    exact List.splitOnP_eq_singleton (h part (by simp))
  | cons second parts ih =>
    obtain ⟨hpart, hparts⟩ := List.forall_mem_cons.mp h
    rw [List.intercalate_cons_cons, List.append_assoc, List.singleton_append,
      List.splitOnP_append_cons_of_forall_mem hpart _ (by simp [Item.isWord]), ih hparts]

/-- A disjunction of parts that read as formulas is read as the disjunction of these. -/
theorem condition?_or {parts : List (List Item)} {f : Formula Atom} {fs : List (Formula Atom)}
    (h : List.Forall₂ ReadsAs parts (f :: fs)) :
    condition? ([.token (.word "or")].intercalate parts) = some (.chain .or f fs) := by
  have hread : parts.mapM Sql.conjunction? = some (f :: fs) := mapM_eq_some h ReadsAs.conjunction?
  have hinside : ∀ p ∈ parts, ∀ i ∈ p, i.isWord "or" = false :=
    forall_mem_of_forall₂ h fun hp i hi => (hp.inside i hi).1
  cases parts with
  | nil => cases h
  | cons part parts =>
    unfold condition?
    rw [splitOnP_intercalate hinside, hread]
    rfl

/-- A condition in parentheses is one part of whatever it stands in. -/
theorem readsAs_ofGroup {items : List Item} {f : Formula Atom} (h : condition? items = some f) :
    ReadsAs [.ofGroup items] f where
  solid := conjuncts_append (by simp [Item.ofGroup, Item.isWord])
  inside := by simp [Item.ofGroup, Item.endsCondition, Item.isWord]
  reads := h

/-! ## Statements -/

/-- The items between `WHERE` and what may follow a condition. -/
def whereBody? (items : List Item) : Option (List Item) :=
  match items.dropWhile (!·.isWord "where") with
  | _ :: rest => some (rest.takeWhile (!·.endsCondition))
  | [] => none

theorem whereBody?_eq {head body tail : List Item} (hhead : ∀ i ∈ head, i.isWord "where" = false)
    (hbody : ∀ i ∈ body, i.endsCondition = false) (htail : ∀ i ∈ tail.head?, i.endsCondition) :
    whereBody? (head ++ .token (.word "where") :: (body ++ tail)) = some body := by
  have hdrop : (head ++ .token (.word "where") :: (body ++ tail)).dropWhile (!·.isWord "where")
      = .token (.word "where") :: (body ++ tail) := by
    rw [List.dropWhile_append_of_pos (by simpa using hhead)]
    simp [Item.isWord]
  have hend : tail.takeWhile (!·.endsCondition) = [] := by
    cases tail with
    | nil => rfl
    | cons i tail => simp [htail i rfl]
  unfold whereBody?
  rw [hdrop]
  simp only [List.takeWhile_append_of_pos (show ∀ i ∈ body, (!i.endsCondition) = true by
    simpa using hbody), hend, List.append_nil]

/-- The condition that a statement puts on rows, with its parameters in their places. -/
def Statement.condition? (s : Statement) : Option (Formula Atom) := do
  let ts ← tokens? s.text.toList
  let ts ← resolve s.params ts
  let items ← nest? ts
  let body ← whereBody? items
  Sql.condition? body

/-- `AND` binds closer than `OR`, and a `BETWEEN` keeps an `AND` for itself. -/
example :
    Statement.condition?
      ⟨"SELECT 1 WHERE t.\"x\" = $1 OR t.\"y\" BETWEEN $2 AND $1 AND t.\"x\" IS NULL",
        [.integer 1, .integer 0]⟩
      = some (.or (.atom (.compare .equal (.column "x") (.param (.integer 1))))
        (.and (.atom (.between (.column "y") (.param (.integer 0)) (.param (.integer 1))))
          (.atom (.isNull (.column "x"))))) := by
  decide +kernel

/-- The numbers of the placeholders in a statement, in their order. -/
def Statement.placeholders? (s : Statement) : Option (List Nat) :=
  (tokens? s.text.toList).map operandsOf

end Sql

end Sift
