import Sift.Proofs.Sql.Items

/-!
# How conditions and statements are spelled

For every part of a statement, the items that its pieces spell. Texts may be cut anywhere
(`spells_cut`). Pieces are read one after the other where a text leaves nothing pending
(`Spells.text_cons`) or begins with a character that ends what is pending (`Spells.append`). Numbers
of placeholders take care of themselves, since pieces spell their tokens from any number on.

Main statements: `spells_test`, `spells_count` and `spells_select`.
-/

namespace Sift.Sql

open List (Forall₂)

/-! ## Pieces and their tokens -/

/-- The tokens are read off the text of the pieces, and their operands are what the pieces bind. -/
structure Spells (pieces : List Piece) (ts : List (Token Param)) : Prop where
  text : ∀ n, tokens? (textFrom n pieces).toList = some (number n ts)
  params : paramsOf pieces = operandsOf ts

@[simp] theorem paramsOf_text (s : String) (pieces : List Piece) :
    paramsOf (.text s :: pieces) = paramsOf pieces := rfl

@[simp] theorem paramsOf_param (p : Param) (pieces : List Piece) :
    paramsOf (.param p :: pieces) = p :: paramsOf pieces := rfl

theorem paramsOf_append (a b : List Piece) : paramsOf (a ++ b) = paramsOf a ++ paramsOf b :=
  List.filterMap_append

/-- Placeholders are numbered on from one part of the pieces to the next. -/
theorem textFrom_append (n : Nat) (a b : List Piece) :
    textFrom n (a ++ b) = textFrom n a ++ textFrom (n + (paramsOf a).length) b := by
  induction a generalizing n with
  | nil => simp [textFrom, paramsOf]
  | cons x a ih =>
    cases x with
    | text s => simp [textFrom, ih, String.append_assoc]
    | param p => simp [textFrom, ih, String.append_assoc, Nat.add_assoc, Nat.add_comm 1]

theorem spells_nil : Spells [] [] := ⟨fun _ => rfl, rfl⟩

theorem spells_param (p : Param) : Spells [.param p] [.operand p] := by
  refine ⟨fun n => ?_, rfl⟩
  show tokens? ("$" ++ toString n ++ "").toList = some [.operand n]
  rw [String.append_empty]
  exact tokens?_placeholder n

/-- A text without placeholders spells the same tokens wherever it stands. -/
theorem spells_text {s : String} {ts : List (Token Param)}
    (h : ∀ n, tokens? s.toList = some (number n ts)) (hts : operandsOf ts = []) :
    Spells [.text s] ts := by
  refine ⟨fun n => ?_, hts.symm⟩
  rw [textFrom, textFrom, String.append_empty]
  exact h n

/-- A text in one piece may as well be in two. -/
theorem spells_cut {a b : String} {pieces : List Piece} {ts : List (Token Param)}
    (h : Spells (.text a :: .text b :: pieces) ts) : Spells (.text (a ++ b) :: pieces) ts := by
  refine ⟨fun n => ?_, h.params⟩
  have htext := h.text n
  rwa [textFrom, textFrom, ← String.append_assoc] at htext

/-- The text begins with a character that ends what is pending. -/
def IsDetached (s : String) : Prop := ∃ c cs, s.toList = c :: cs ∧ isBreak c = true

theorem IsDetached.append {a : String} (h : IsDetached a) (b : String) : IsDetached (a ++ b) := by
  obtain ⟨c, cs, ha, hc⟩ := h
  exact ⟨c, cs ++ b.toList, by rw [String.toList_append, ha, List.cons_append], hc⟩

/-- Two runs of pieces spell what they spell apart, if no token goes on across the seam. -/
theorem Spells.append {a b : List Piece} {s : String} {ts us : List (Token Param)}
    (ha : Spells a ts) (hb : Spells (.text s :: b) us) (hs : IsDetached s) :
    Spells (a ++ .text s :: b) (ts ++ us) := by
  obtain ⟨c, cs, hs, hc⟩ := hs
  refine ⟨fun n => ?_, ?_⟩
  · have hrest := hb.text (n + (paramsOf a).length)
    rw [textFrom, String.toList_append, hs, List.cons_append] at hrest
    rw [textFrom_append, textFrom, String.toList_append, String.toList_append, hs, List.cons_append,
      tokens?_append_of_isBreak (ha.text n) hc hrest, number_append, ha.params]
  · rw [paramsOf_append, operandsOf_append, ha.params, hb.params]

/-- A text that ends between tokens can be put in front. -/
theorem Spells.text_cons {pieces : List Piece} {ts : List (Token Param)} (h : Spells pieces ts)
    (s : String) (e : List (Token Param))
    (hs : ∀ n, scan .idle s.toList = some (number n e, .idle)) (he : operandsOf e = []) :
    Spells (.text s :: pieces) (e ++ ts) := by
  refine ⟨fun n => ?_, ?_⟩
  · rw [textFrom, String.toList_append, tokens?_append_of_idle (hs n) (h.text n), number_append,
      he]
    rfl
  · rw [operandsOf_append, he, List.nil_append]
    exact h.params

theorem spells_skip {a b : List Piece} {ts : List (Token Param)} (h : Spells (a ++ b) ts) :
    Spells (a ++ .text "" :: b) ts := by
  refine ⟨fun n => ?_, ?_⟩
  · rw [textFrom_append, textFrom, String.empty_append, ← textFrom_append]
    exact h.text n
  · rw [← h.params, paramsOf_append, paramsOf_append, paramsOf_text]

/-- Parts with a text between them that leaves nothing pending on either side. -/
theorem spells_join (separator : String) (t : Token Param) (hseparator : IsDetached separator)
    (hscan : ∀ n, scan .idle separator.toList = some (number n [t], .idle))
    (ht : operandsOf [t] = []) {parts : List (List Piece)} {items : List (List Item)}
    (h : Forall₂ (fun part is => Spells part (tokensOf is)) parts items) :
    Spells (join separator parts) (tokensOf ([.token t].intercalate items)) := by
  induction h with
  | nil => exact spells_nil
  | @cons part is parts items hpart hrest ih =>
    cases hrest with
    | nil => simpa [join] using hpart
    | cons hsecond hrest =>
      -- The induction hypothesis is about what comes after the separator, which is read from idle.
      rw [List.intercalate_cons_cons, List.append_assoc, tokensOf_append, tokensOf_append]
      exact hpart.append (ih.text_cons separator [t] hscan ht) hseparator

theorem textFrom_join_texts (n : Nat) (separator : String) (texts : List String) :
    textFrom n (join separator (texts.map fun s => [.text s])) = separator.intercalate texts
      ∧ paramsOf (join separator (texts.map fun s => [.text s])) = [] := by
  induction texts with
  | nil => exact ⟨rfl, rfl⟩
  | cons s texts ih =>
    cases texts with
    | nil => exact ⟨String.append_empty, rfl⟩
    | cons second texts =>
      obtain ⟨htext, hparams⟩ := ih
      rw [String.intercalate_cons_cons, ← htext]
      exact ⟨by simp [join, textFrom, String.append_assoc], hparams⟩

theorem spells_intercalate {separator : String} {texts : List String} {ts : List (Token Param)}
    (h : Spells (join separator (texts.map fun s => [.text s])) ts) :
    Spells [.text (separator.intercalate texts)] ts := by
  have hts : operandsOf ts = [] := by
    rw [← h.params, (textFrom_join_texts 0 separator texts).2]
  refine spells_text (fun n => ?_) hts
  rw [← (textFrom_join_texts n separator texts).1]
  exact h.text n

/-! ## Operands and tests -/

/-- A column is spelled as its name in quotes behind the name of the table. -/
theorem spells_column (field : String) :
    Spells [.text (column field)] (tokensOf (columnItems field)) := by
  apply spells_text _ rfl
  intro n
  have hname := tokens?_eq_some_iff.mpr ⟨_, _, _, scan_column field, rfl, rfl⟩
  simpa [columnItems, number, String.ofList_toList] using hname

theorem spells_column_append (field : String) {s : String} {pieces : List Piece}
    {ts : List (Token Param)} (h : Spells (.text s :: pieces) ts) (hs : IsDetached s) :
    Spells (.text (column field ++ s) :: pieces) (tokensOf (columnItems field) ++ ts) :=
  spells_cut ((spells_column field).append h hs)

/-- An operand is spelled as its placeholder, with its cast if it has one. -/
theorem spells_operand {o : Operand} (h : o.IsPlain) : Spells o.pieces (tokensOf o.items) := by
  cases o with
  | null => exact spells_text (fun _ => rfl) rfl
  | bound p => exact spells_param p
  | cast p type =>
    -- The name of the type stands between a blank and a parenthesis, so it is read on its own.
    obtain ⟨htokens, -⟩ := tokensOf_typeItems h
    have htype : Spells [.text type] (typeTokens type) :=
      spells_text (fun n => (tokens?_typeName h n).1) (tokens?_typeName h 0).2
    have hclosing : Spells [.text ")"] [.closing] := spells_text (fun _ => rfl) rfl
    have hbehind : Spells [.text (type ++ ")")] (typeTokens type ++ [.closing]) :=
      spells_cut (htype.append hclosing ⟨_, _, rfl, rfl⟩)
    have hinside : Spells [.text (" AS " ++ (type ++ ")"))]
        ([.word "as"] ++ (typeTokens type ++ [.closing])) :=
      spells_cut (hbehind.text_cons " AS " _ (fun _ => rfl) rfl)
    have hcast := (spells_param p).append hinside (IsDetached.append ⟨_, _, rfl, rfl⟩ _)
    have hall := hcast.text_cons "CAST(" [.word "cast", .opening] (fun _ => rfl) rfl
    simpa [Operand.pieces, Operand.items, htokens, String.append_assoc] using hall

theorem spells_between {b : Between} (hlow : b.low.IsPlain) (hhigh : b.high.IsPlain) :
    Spells b.pieces (tokensOf b.items) := by
  have hand := (spells_operand hhigh).text_cons " AND " [.word "and"] (fun _ => rfl) rfl
  have hbounds := (spells_operand hlow).append hand ⟨_, _, rfl, rfl⟩
  have hbetween := hbounds.text_cons " BETWEEN " [.word "between"] (fun _ => rfl) rfl
  have hall := spells_column_append b.field hbetween ⟨_, _, rfl, rfl⟩
  simpa [Between.pieces, Between.items] using hall

theorem spells_operator (op : Operator) {pieces : List Piece} {ts : List (Token Param)}
    (h : Spells pieces ts) :
    Spells (.text (" " ++ op.sql ++ " ") :: pieces) (operatorToken op :: ts) := by
  apply h.text_cons _ [operatorToken op]
  · intro n
    cases op <;> rfl
  · cases op <;> rfl

theorem spells_day (field : String) : Spells [.text (dayOf field)] (tokensOf (dayItems field)) := by
  have hclosing : Spells [.text " AS DATE)"] [.word "as", .word "date", .closing] :=
    spells_text (fun _ => rfl) rfl
  have hcolumn := spells_column_append field hclosing ⟨_, _, rfl, rfl⟩
  have hall := spells_cut (hcolumn.text_cons "CAST(" [.word "cast", .opening] (fun _ => rfl) rfl)
  simpa [dayOf, dayItems, String.append_assoc] using hall

/-- A test spells its items, whatever its columns are called. -/
theorem spells_test {t : Test} (h : t.IsPlain) : Spells t.pieces (tokensOf t.items) := by
  cases t with
  | isNull field =>
    have htest : Spells [.text " IS NULL"] [.word "is", .word "null"] :=
      spells_text (fun _ => rfl) rfl
    simpa [Test.pieces, Test.items] using spells_column_append field htest ⟨_, _, rfl, rfl⟩
  | notNull field =>
    have htest : Spells [.text " IS NOT NULL"] [.word "is", .word "not", .word "null"] :=
      spells_text (fun _ => rfl) rfl
    simpa [Test.pieces, Test.items] using spells_column_append field htest ⟨_, _, rfl, rfl⟩
  | compare field op operand =>
    have htest := spells_operator op (spells_operand h)
    have hall := spells_column_append field htest
      ((IsDetached.append ⟨_, _, rfl, rfl⟩ _).append _)
    simpa [Test.pieces, Test.items, String.append_assoc] using hall
  | like field pattern =>
    -- No break comes after the column here, so the name and the colons are read as one text.
    have hscan : ∀ n, scan .idle (column field ++ "::text ILIKE ").toList = some
        (number n (tokensOf (columnItems field) ++ [.symbol "::", .word "text", .word "ilike"]),
          .idle) := by
      intro n
      rw [String.toList_append]
      exact scan_column_append fun _ => rfl
    have hall := (spells_operand h).text_cons _ _ hscan rfl
    simpa [Test.pieces, Test.items] using hall
  | compareDay field op day =>
    have htest := spells_operator op (spells_param (.date day))
    have hall := spells_cut ((spells_day field).append htest
      ((IsDetached.append ⟨_, _, rfl, rfl⟩ _).append _))
    simpa [Test.pieces, Test.items, String.append_assoc] using hall
  | likeDay field pattern =>
    have htest := (spells_param (.text pattern)).text_cons " AS TEXT) ILIKE "
      [.word "as", .word "text", .closing, .word "ilike"] (fun _ => rfl) rfl
    have hday := spells_cut ((spells_day field).append htest ⟨_, _, rfl, rfl⟩)
    have hall := spells_cut (hday.text_cons "CAST(" [.word "cast", .opening] (fun _ => rfl) rfl)
    simpa [Test.pieces, Test.items, String.append_assoc] using hall
  | anyOf ranges =>
    have hranges : Forall₂ (fun part is => Spells part (tokensOf is)) (ranges.map Between.pieces)
        (ranges.map Between.items) :=
      forall₂_map_map fun b hb => spells_between (h b hb).1 (h b hb).2
    have hjoin := spells_join " OR " (.word "or") ⟨_, _, rfl, rfl⟩ (fun _ => rfl) rfl hranges
    have hclosing : Spells [.text ")"] [.closing] := spells_text (fun _ => rfl) rfl
    have hgroup := hjoin.append hclosing ⟨_, _, rfl, rfl⟩
    have hall := hgroup.text_cons "(" [.opening] (fun _ => rfl) rfl
    simpa [Test.pieces, Test.items] using hall

/-! ## Statements -/

variable {types : ColumnTypes}

theorem spells_table (name : String) :
    Spells [.text (quoteTable name)] (tokensOf (tableItems name)) := by
  apply spells_intercalate
  rw [List.map_map]
  refine spells_join "." (.symbol ".") ⟨_, _, rfl, rfl⟩ (fun _ => rfl) rfl ?_
  apply forall₂_map_map
  intro part _
  apply spells_text _ rfl
  intro n
  have hname := tokens?_eq_some_iff.mpr ⟨_, _, _, scan_quoteName (String.ofList part), rfl, rfl⟩
  simpa [number] using hname

/-- A condition spells the tests one after the other, joined by `AND`. -/
theorem spells_condition (h : types.IsPlain) (q : Query) :
    Spells (condition types q) (tokensOf (conditionItems types q)) := by
  refine spells_join " AND " (.word "and") ⟨_, _, rfl, rfl⟩ (fun _ => rfl) rfl ?_
  exact forall₂_map_map fun t ht => spells_test (isPlain_tests h q t ht)

theorem spells_order (keys : List SortKey) :
    Spells [.text (orderText keys)] (tokensOf (orderItems keys)) := by
  unfold orderText orderItems
  split
  · exact spells_text (fun _ => rfl) rfl
  · have hkeys : Spells [.text (", ".intercalate
          (keys.map fun k => column k.field ++ " " ++ k.direction.text))]
        (tokensOf ([.token (.symbol ",")].intercalate (keys.map keyItems))) := by
      apply spells_intercalate
      rw [List.map_map]
      refine spells_join ", " (.symbol ",") ⟨_, _, rfl, rfl⟩ (fun _ => rfl) rfl ?_
      apply forall₂_map_map
      intro k _
      have hdirection : Spells [.text (" " ++ k.direction.text)]
          [.word (directionWord k.direction)] := by
        refine spells_text (fun n => ?_) rfl
        cases k.direction <;> rfl
      have hkey := spells_column_append k.field hdirection (IsDetached.append ⟨_, _, rfl, rfl⟩ _)
      simpa [keyItems, String.append_assoc] using hkey
    have hall := spells_cut
      (hkeys.text_cons " ORDER BY " [.word "order", .word "by"] (fun _ => rfl) rfl)
    simpa using hall

/-- The statement that counts, from its head to its condition. -/
theorem spells_count (h : types.IsPlain) (q : Query) :
    Spells (countPieces types q) (tokensOf (countHead q.entity.table
      ++ .token (.word "where") :: conditionItems types q)) := by
  have hwhere := (spells_condition h q).text_cons " AS t WHERE "
    [.word "as", .word "t", .word "where"] (fun _ => rfl) rfl
  have htable := spells_cut ((spells_table q.entity.table).append hwhere ⟨_, _, rfl, rfl⟩)
  have hall := spells_cut (htable.text_cons "SELECT COUNT(*) FROM "
    [.word "select", .word "count", .opening, .symbol "*", .closing, .word "from"]
    (fun _ => rfl) rfl)
  simpa [countPieces, countHead, String.append_assoc] using hall

/-- The statement that selects, from its head to its window. -/
theorem spells_select (h : types.IsPlain) (q : Query) (w : Window) :
    Spells (selectPieces types q w) (tokensOf (selectHead q.entity.table
      ++ .token (.word "where") :: (conditionItems types q ++ selectTail q.sort w))) := by
  have hoffset := (spells_param (boundParam w.offset)).text_cons " OFFSET " [.word "offset"]
    (fun _ => rfl) rfl
  have hlimit := ((spells_param (boundParam w.limit)).append hoffset ⟨_, _, rfl, rfl⟩).text_cons
    " LIMIT " [.word "limit"] (fun _ => rfl) rfl
  have hbound : ∀ n, bound n = .param (boundParam n) := fun _ => rfl
  have hbody : Spells (condition types q ++ [.text (orderText q.sort), .text " LIMIT ",
      bound w.limit, .text " OFFSET ", bound w.offset])
      (tokensOf (conditionItems types q ++ selectTail q.sort w)) := by
    cases hkeys : q.sort with
    | nil =>
      have hall := spells_skip ((spells_condition h q).append hlimit ⟨_, _, rfl, rfl⟩)
      simpa [selectTail, orderItems, orderText, hbound] using hall
    | cons k keys =>
      -- An order is there, and it begins with a blank.
      have horder : IsDetached (orderText (k :: keys)) := IsDetached.append ⟨_, _, rfl, rfl⟩ _
      have htail := (spells_order (k :: keys)).append hlimit ⟨_, _, rfl, rfl⟩
      simpa [selectTail, hbound] using (spells_condition h q).append htail horder
  have hwhere := hbody.text_cons " AS t WHERE "
    [.word "as", .word "t", .word "where"] (fun _ => rfl) rfl
  have htable := spells_cut ((spells_table q.entity.table).append hwhere ⟨_, _, rfl, rfl⟩)
  have hall := spells_cut (htable.text_cons "SELECT to_jsonb(t) AS row FROM "
    [.word "select", .word "to_jsonb", .opening, .word "t", .closing, .word "as", .word "row",
      .word "from"]
    (fun _ => rfl) rfl)
  simpa [selectPieces, selectHead, String.append_assoc] using hall

end Sift.Sql
