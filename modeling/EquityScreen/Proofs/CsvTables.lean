import EquityScreen.Csv
import Mathlib.Data.List.Basic
import Mathlib.Data.List.TakeWhile

/-! Tables of comma-separated values. A field stands as it is or in quotes, rows end with line
feeds or carriage returns, and blank lines may stand anywhere. A table is read back from every
written form, each field without the white space around it. -/
namespace EquityScreen.Csv

/-- A character that ends a field that is not quoted. -/
def endsField (c : Char) : Bool := c == ',' || isTerminator c

theorem endsField_eq_false_iff {c : Char} :
    endsField c = false ↔ c ≠ ',' ∧ isTerminator c = false := by
  rw [endsField, Bool.or_eq_false_iff, beq_eq_false_iff_ne]

/-- The text of a field inside quotes. -/
def doubled (s : List Char) : List Char := s.flatMap fun c => if c = '"' then ['"', '"'] else [c]

/-- The written forms of a field. -/
inductive FieldForm : List Char → List Char → Prop
  | plain {s : List Char} (hQuote : s.head? ≠ some '"') (hInside : ∀ c ∈ s, endsField c = false) :
      FieldForm s s
  | quoted (s : List Char) : FieldForm s ('"' :: (doubled s ++ ['"']))

/-- The written forms of the fields of a row. -/
inductive RowForm : List (List Char) → List Char → Prop
  | last {s text : List Char} (hField : FieldForm s text) : RowForm [s] text
  | comma {s text rest : List Char} {fields : List (List Char)} (hField : FieldForm s text)
      (hRest : RowForm fields rest) : RowForm (s :: fields) (text ++ ',' :: rest)

/-- Line ends without anything between them. -/
def BlankLines (cs : List Char) : Prop := ∀ c ∈ cs, isTerminator c = true

/-- The written forms of a table. The text of a row must not be empty, since a blank line is no
row. -/
inductive TableForm : List (List (List Char)) → List Char → Prop
  | none {blank : List Char} (hBlank : BlankLines blank) : TableForm [] blank
  | last {blank text : List Char} {fields : List (List Char)} (hBlank : BlankLines blank)
      (hRow : RowForm fields text) (hSome : text ≠ []) : TableForm [fields] (blank ++ text)
  | row {blank text rest : List Char} {fields : List (List Char)} {rows : List (List (List Char))}
      {c : Char} (hBlank : BlankLines blank) (hRow : RowForm fields text) (hSome : text ≠ [])
      (hEnd : isTerminator c = true) (hRest : TableForm rows rest) :
      TableForm (fields :: rows) (blank ++ (text ++ c :: rest))

/-! One field is read off the front of a text. -/

theorem fieldsFrom_plain {s : List Char} (h : ∀ c ∈ s, endsField c = false)
    (field rest : List Char) :
    fieldsFrom .plain field (s ++ rest) = fieldsFrom .plain (s.reverse ++ field) rest := by
  induction s generalizing field with
  | nil => rfl
  | cons c s ih =>
      obtain ⟨hHere, hLater⟩ := List.forall_mem_cons.mp h
      obtain ⟨hComma, hLine⟩ := endsField_eq_false_iff.mp hHere
      have hNext := ih hLater (c :: field)
      rw [List.reverse_cons, List.append_assoc, List.singleton_append, ← hNext]
      simp [fieldsFrom, hComma, hLine]

theorem fieldsFrom_quoted (s field rest : List Char) :
    fieldsFrom .quoted field (doubled s ++ '"' :: rest) =
      fieldsFrom .quoteSeen (s.reverse ++ field) rest := by
  induction s generalizing field with
  | nil => simp [doubled, fieldsFrom]
  | cons c s ih =>
      have hNext := ih (c :: field)
      rw [List.reverse_cons, List.append_assoc, List.singleton_append, ← hNext]
      by_cases hQuote : c = '"'
      · simp [doubled, hQuote, fieldsFrom]
      · simp [doubled, hQuote, fieldsFrom]

/-- Behind a field the reader is not inside quotes, and holds the field. -/
theorem FieldForm.fieldsFrom {s text : List Char} (h : FieldForm s text) :
    ∃ state, state ≠ .quoted ∧
      ∀ rest, fieldsFrom .start [] (text ++ rest) = fieldsFrom state s.reverse rest := by
  cases h with
  | plain hQuote hInside =>
      cases s with
      | nil => exact ⟨.start, by decide, fun _ => rfl⟩
      | cons c s =>
          obtain ⟨hHere, hLater⟩ := List.forall_mem_cons.mp hInside
          have hHead : c ≠ '"' := fun hHead => hQuote (congrArg some hHead)
          obtain ⟨hComma, hLine⟩ := endsField_eq_false_iff.mp hHere
          refine ⟨.plain, by decide, fun rest => ?_⟩
          rw [List.reverse_cons, ← fieldsFrom_plain hLater]
          simp [Csv.fieldsFrom, hHead, hComma, hLine]
  | quoted =>
      refine ⟨.quoteSeen, by decide, fun rest => ?_⟩
      have hBody := fieldsFrom_quoted s [] rest
      rw [List.append_nil] at hBody
      rw [← hBody]
      simp [Csv.fieldsFrom]

theorem fieldsFrom_comma {state : FieldState} (h : state ≠ .quoted) (field rest : List Char) :
    fieldsFrom state field (',' :: rest) =
      (field.reverse :: (fieldsFrom .start [] rest).1, (fieldsFrom .start [] rest).2) := by
  simp [fieldsFrom, h]

/-- A row ends before a line end, which is taken, and at the end of the text. -/
theorem fieldsFrom_end {state : FieldState} (h : state ≠ .quoted) (field : List Char)
    {rest : List Char} (hRest : ∀ c ∈ rest.head?, isTerminator c = true) :
    fieldsFrom state field rest = ([field.reverse], rest.tail) := by
  cases rest with
  | nil => rfl
  | cons c rest =>
      have hLine := hRest c rfl
      have hOther : c ≠ '"' ∧ c ≠ ',' := by
        constructor <;>
        · rintro rfl
          exact absurd hLine (by decide)
      simp [fieldsFrom, h, hOther, hLine]

/-- The fields of a row are read off the front of a text. -/
theorem RowForm.fieldsFrom {fields : List (List Char)} {text : List Char}
    (h : RowForm fields text) {rest : List Char}
    (hRest : ∀ c ∈ rest.head?, isTerminator c = true) :
    fieldsFrom .start [] (text ++ rest) = (fields, rest.tail) := by
  induction h with
  | last hField =>
      obtain ⟨state, hState, hRead⟩ := hField.fieldsFrom
      rw [hRead, fieldsFrom_end hState _ hRest, List.reverse_reverse]
  | comma hField _ ih =>
      obtain ⟨state, hState, hRead⟩ := hField.fieldsFrom
      rw [List.append_assoc, List.cons_append, hRead, fieldsFrom_comma hState, ih,
        List.reverse_reverse]

/-! A row does not start with a line end, so that no line end in front of it belongs to it. -/

theorem FieldForm.head {s text : List Char} (h : FieldForm s text) {c : Char}
    (hc : c ∈ text.head?) : c = '"' ∨ c ∈ s.head? := by
  cases h with
  | plain => exact .inr hc
  | quoted =>
      cases hc
      exact .inl rfl

theorem FieldForm.not_terminator {s text : List Char} (h : FieldForm s text) :
    ∀ c ∈ text.head?, isTerminator c = false := by
  intro c hc
  cases h with
  | plain _ hInside => exact (endsField_eq_false_iff.mp (hInside c (List.mem_of_head? hc))).2
  | quoted =>
      cases hc
      rfl

theorem RowForm.not_terminator {fields : List (List Char)} {text : List Char}
    (h : RowForm fields text) : ∀ c ∈ text.head?, isTerminator c = false := by
  cases h with
  | last hField => exact hField.not_terminator
  | @comma _ text rest _ hField _ =>
      intro c hc
      cases text with
      | nil =>
          cases hc
          rfl
      | cons d text => exact hField.not_terminator c hc

/-- A row starts with a quote, a comma or its first field. -/
theorem RowForm.head {fields : List (List Char)} {text : List Char} (h : RowForm fields text)
    {c : Char} (hc : c ∈ text.head?) :
    c = '"' ∨ c = ',' ∨ ∃ s ∈ fields.head?, c ∈ s.head? := by
  cases h with
  | last hField => exact (hField.head hc).imp_right fun hc => .inr ⟨_, rfl, hc⟩
  | @comma _ text rest _ hField _ =>
      cases text with
      | nil =>
          cases hc
          exact .inr (.inl rfl)
      | cons d text => exact (hField.head hc).imp_right fun hc => .inr ⟨_, rfl, hc⟩

/-- A table starts with a line end or with its first row. -/
theorem TableForm.head {fields : List (List Char)} {rows : List (List (List Char))}
    {text : List Char} (h : TableForm (fields :: rows) text) {c : Char} (hc : c ∈ text.head?) :
    isTerminator c = true ∨ c = '"' ∨ c = ',' ∨ ∃ s ∈ fields.head?, c ∈ s.head? := by
  have hFirst {blank row rest : List Char} (hBlank : BlankLines blank) (hRow : RowForm fields row)
      (hSome : row ≠ []) (hc : c ∈ (blank ++ (row ++ rest)).head?) :
      isTerminator c = true ∨ c = '"' ∨ c = ',' ∨ ∃ s ∈ fields.head?, c ∈ s.head? := by
    cases blank with
    | nil =>
        rw [List.nil_append, List.head?_append_of_ne_nil _ hSome] at hc
        exact .inr (hRow.head hc)
    | cons d blank =>
        cases hc
        exact .inl (hBlank c List.mem_cons_self)
  cases h with
  | last hBlank hRow hSome =>
      rw [← List.append_nil (_ ++ _), List.append_assoc] at hc
      exact hFirst hBlank hRow hSome hc
  | row hBlank hRow hSome _ _ => exact hFirst hBlank hRow hSome hc

theorem RowForm.ne_nil {fields : List (List Char)} {text : List Char} (h : RowForm fields text)
    (hMany : 2 ≤ fields.length) : text ≠ [] := by
  cases h with
  | last => exact absurd hMany (Nat.not_succ_le_self 1)
  | comma => exact List.append_ne_nil_of_right_ne_nil _ (List.cons_ne_nil _ _)

/-! The rows of a table are read one after another. -/

theorem dropWhile_blankLines {blank : List Char} (h : BlankLines blank) {text : List Char}
    (hText : ∀ c ∈ text.head?, isTerminator c = false) (rest : List Char) (hSome : text ≠ []) :
    (blank ++ (text ++ rest)).dropWhile isTerminator = text ++ rest := by
  obtain ⟨c, text, rfl⟩ := List.exists_cons_of_ne_nil hSome
  have hHead : isTerminator c = false := hText c rfl
  rw [List.dropWhile_append_of_pos h, List.cons_append,
    List.dropWhile_cons_of_neg (by simp [hHead])]

theorem recordsFrom_row {fields : List (List Char)} {blank text rest : List Char}
    (hBlank : BlankLines blank) (hRow : RowForm fields text) (hSome : text ≠ [])
    (hRest : ∀ c ∈ rest.head?, isTerminator c = true) (n line byte : Nat) :
    ∃ line' byte', recordsFrom (n + 1) line byte (blank ++ (text ++ rest)) =
      ⟨fields.map Text.trim, line, byte⟩ :: recordsFrom n line' byte' rest.tail := by
  have hSkip := dropWhile_blankLines hBlank hRow.not_terminator rest hSome
  have hFields := hRow.fieldsFrom hRest
  obtain ⟨c, more, rfl⟩ := List.exists_cons_of_ne_nil hSome
  rw [List.cons_append] at hSkip hFields
  rw [recordsFrom, List.cons_append, hSkip]
  simp only [hFields]
  exact ⟨_, _, rfl⟩

theorem recordsFrom_table {rows : List (List (List Char))} {text : List Char}
    (h : TableForm rows text) {n : Nat} (hEnough : rows.length < n) (line byte : Nat) :
    (recordsFrom n line byte text).map Record.fields = rows.map fun fields =>
      fields.map Text.trim := by
  induction h generalizing n line byte with
  | none hBlank =>
      obtain ⟨n, rfl⟩ := Nat.exists_eq_add_one_of_ne_zero (by omega : n ≠ 0)
      rw [recordsFrom, List.dropWhile_eq_nil_iff.mpr hBlank]
      rfl
  | @last blank text fields hBlank hRow hSome =>
      obtain ⟨n, rfl⟩ := Nat.exists_eq_add_one_of_ne_zero (by omega : n ≠ 0)
      have hNothing : ∀ c ∈ ([] : List Char).head?, isTerminator c = true := fun _ hc => by cases hc
      obtain ⟨line', byte', hRead⟩ := recordsFrom_row hBlank hRow hSome hNothing n line byte
      rw [List.append_nil] at hRead
      rw [hRead]
      cases n <;> rfl
  | @row blank text rest fields rows c hBlank hRow hSome hEnd _ ih =>
      obtain ⟨n, rfl⟩ := Nat.exists_eq_add_one_of_ne_zero (by omega : n ≠ 0)
      have hLine : ∀ d ∈ (c :: rest).head?, isTerminator d = true := by
        rintro d ⟨⟩
        exact hEnd
      obtain ⟨line', byte', hRead⟩ := recordsFrom_row hBlank hRow hSome hLine n line byte
      rw [hRead, List.map_cons, List.map_cons, List.tail_cons, ih (by simpa using hEnough)]

theorem TableForm.length_le {rows : List (List (List Char))} {text : List Char}
    (h : TableForm rows text) : rows.length ≤ text.length := by
  induction h with
  | none => exact Nat.zero_le _
  | last _ _ hSome =>
      have hLength := List.length_pos_iff.mpr hSome
      rw [List.length_append, List.length_singleton]
      omega
  | row _ _ _ _ _ ih =>
      simp only [List.length_append, List.length_cons]
      omega

/-- The records of a table are its rows, unless the text starts with a byte order mark. -/
theorem records_table {rows : List (List (List Char))} {text : List Char}
    (h : TableForm rows text) (hMark : text.head? ≠ some '\ufeff') :
    (records text).map Record.fields = rows.map fun fields => fields.map Text.trim := by
  have hLength := h.length_le
  unfold records
  split
  · exact absurd rfl hMark
  · exact recordsFrom_table h (by omega) 1 0

/-! Every table can be written, with quotes where they are needed. -/

/-- The text of a field, in quotes if it would not be read back without them. -/
def fieldText (s : List Char) : List Char :=
  if s.head? = some '"' ∨ s.any endsField = true then '"' :: (doubled s ++ ['"']) else s

/-- The text of the fields of a row. -/
def rowText : List (List Char) → List Char
  | [] => []
  | [s] => fieldText s
  | s :: fields => fieldText s ++ ',' :: rowText fields

/-- The text of a table, with a line feed behind each row. -/
def tableText (rows : List (List (List Char))) : List Char :=
  rows.flatMap fun fields => rowText fields ++ ['\n']

theorem fieldForm_fieldText (s : List Char) : FieldForm s (fieldText s) := by
  unfold fieldText
  split
  · exact .quoted s
  · next hPlain =>
      obtain ⟨hQuote, hInside⟩ := not_or.mp hPlain
      exact .plain hQuote (by simpa using hInside)

theorem rowForm_rowText {fields : List (List Char)} (h : fields ≠ []) :
    RowForm fields (rowText fields) := by
  induction fields with
  | nil => exact absurd rfl h
  | cons s fields ih =>
      cases fields with
      | nil => exact .last (fieldForm_fieldText s)
      | cons t fields => exact .comma (fieldForm_fieldText s) (ih (List.cons_ne_nil t fields))

/-- With two columns at least, no row is a blank line. -/
theorem tableForm_tableText {rows : List (List (List Char))}
    (h : ∀ fields ∈ rows, 2 ≤ fields.length) : TableForm rows (tableText rows) := by
  have hBlank : BlankLines [] := fun _ hc => absurd hc List.not_mem_nil
  induction rows with
  | nil => exact .none hBlank
  | cons fields rows ih =>
      obtain ⟨hMany, hLater⟩ := List.forall_mem_cons.mp h
      have hRow : RowForm fields (rowText fields) :=
        rowForm_rowText (List.ne_nil_of_length_pos (by omega))
      have hText : tableText (fields :: rows) =
          [] ++ (rowText fields ++ '\n' :: tableText rows) := by
        rw [tableText, List.flatMap_cons, List.append_assoc]
        rfl
      rw [hText]
      exact .row hBlank hRow (hRow.ne_nil hMany) rfl (ih hLater)

end EquityScreen.Csv
