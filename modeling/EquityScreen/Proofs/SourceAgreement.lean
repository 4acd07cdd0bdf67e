import EquityScreen.Proofs.CsvStocks
import EquityScreen.Proofs.CsvTables
import EquityScreen.Proofs.StockReading
import Mathlib.Data.List.Forall2

/-! The same records in JSON and in comma-separated values are loaded as the same stocks. The
columns may stand in any order, tickers may have any characters inside, and a number is the same
literal in both texts. A cell that is no number must not become one without the white space
around it, since cells are trimmed. -/
namespace EquityScreen

open Json Csv

/-- The written forms of a metric: a literal where it is a number, and otherwise one of some texts
that are no numbers. -/
inductive MetricForm (other : List Char → Prop) : Option Literal → List Char → Prop
  | number (l : Literal) : MetricForm other (some l) l.text
  | other {text : List Char} (h : other text) : MetricForm other none text

theorem MetricForm.of_elim {other : List Char → Prop} {text : List Char} (h : other text)
    (literal? : Option Literal) : MetricForm other literal? (literal?.elim text Literal.text) := by
  cases literal? with
  | none => exact .other h
  | some l => exact .number l

/-- A record to be written: a ticker, and a literal for each metric that is a number. -/
structure WrittenStock where
  ticker : String
  literal? : Metric → Option Literal

namespace WrittenStock

/-- The stock that the record is about. -/
def stock (w : WrittenStock) : Stock := ⟨w.ticker, fun m => (w.literal? m).map Literal.value⟩

/-- The ticker is a text without white space around it, and every literal is in the range of the
finite doubles and of the exponents that are read. -/
structure Sound (w : WrittenStock) : Prop where
  ticker_ne_nil : w.ticker.toList ≠ []
  trim_ticker : Text.trim w.ticker.toList = w.ticker.toList
  inRange : ∀ m, ∀ l ∈ w.literal? m, l.InRange
  isFinite : ∀ m, ∀ l ∈ w.literal? m, l.value.isFinite = true

/-- The written forms of what stands in a column, in JSON. -/
def JsonCell (w : WrittenStock) : Column → List Char → Prop
  | .ticker => StringForm w.ticker.toList
  | .metric m => MetricForm OtherForm (w.literal? m)

/-- The written forms of a record as an object, in which a metric that is no number may be
missing. -/
def JsonRecord (w : WrittenStock) (text : List Char) : Prop :=
  ∃ columns : List Column, columns.Nodup ∧ .ticker ∈ columns ∧
    (∀ m, w.literal? m ≠ none → .metric m ∈ columns) ∧
    EnclosedForm (fun c => MemberForm c.identifier.toList (w.JsonCell c)) '\x7b' '\x7d' columns text

/-- The written forms of records in JSON. -/
inductive JsonTable (written : List WrittenStock) : List Char → Prop
  | mk {before text after : List Char} (hBefore : Json.AllBlank before)
      (hAfter : Json.AllBlank after) (hText : EnclosedForm JsonRecord '[' ']' written text) :
      JsonTable written (before ++ (text ++ after))

/-- The row has the cells of the record. -/
structure CsvRow (other : List Char → Prop) (w : WrittenStock) (cell : Column → List Char) :
    Prop where
  ticker : cell .ticker = w.ticker.toList
  metric : ∀ m, MetricForm other (w.literal? m) (cell (.metric m))

/-- The written forms of records in comma-separated values, given those of a cell that is no
number. The header names the columns in any order. -/
inductive CsvTable (other : List Char → Prop) (written : List WrittenStock) : List Char → Prop
  | mk {columns : List Column} {rows : List (Column → List Char)} {text : List Char}
      (hColumns : columns.Perm Column.all) (hRows : List.Forall₂ (CsvRow other) written rows)
      (hText : TableForm
        ((columns.map fun c => c.identifier.toList) :: rows.map fun cell => columns.map cell)
        text) :
      CsvTable other written text

/-! From JSON. -/

theorem Sound.cellForm {w : WrittenStock} (h : w.Sound) {c : Column} {text : List Char}
    (hText : w.JsonCell c text) : w.stock.CellForm c text := by
  cases c with
  | ticker => exact hText
  | metric m =>
      change ReadsNumber ((w.literal? m).map Literal.value) text
      change MetricForm OtherForm (w.literal? m) text at hText
      cases hLiteral : w.literal? m with
      | none =>
          rw [hLiteral] at hText
          cases hText with
          | other hOther => exact hOther.readsNumber
      | some l =>
          rw [hLiteral] at hText
          cases hText
          exact Literal.readsNumber (h.inRange m l hLiteral) (h.isFinite m l hLiteral)

theorem Sound.objectForm {w : WrittenStock} (h : w.Sound) {text : List Char}
    (hText : w.JsonRecord text) : w.stock.ObjectForm text := by
  obtain ⟨columns, hNodup, hTicker, hPresent, hMembers⟩ := hText
  refine ⟨columns, hNodup, hTicker, fun m hSome => hPresent m fun hNone => ?_, ?_⟩
  · exact hSome (congrArg (Option.map Literal.value) hNone)
  · exact hMembers.mono fun c _ text hMember => hMember.mono fun text hCell => h.cellForm hCell

theorem stocksOfJson_table {written : List WrittenStock} (hSound : ∀ w ∈ written, w.Sound)
    {text : List Char} (hText : JsonTable written text) :
    stocksOfJson text = .ok (written.map stock) := by
  obtain ⟨hBefore, hAfter, hRecords⟩ := hText
  have hObjects := hRecords.map stock fun w hw text hRecord => (hSound w hw).objectForm hRecord
  rw [stocksOfJson, Stock.listOfJson_form hObjects hBefore hAfter]

/-! From comma-separated values. -/

theorem Sound.ofCells {w : WrittenStock} (h : w.Sound) {columns : List Column}
    (hColumns : columns.Perm Column.all) {cell : Column → List Char}
    (hRow : w.CsvRow (fun cell => Binary64.ofNumeral? (Text.trim cell) = none) cell) :
    Stock.ofCells columns (fun c => Text.trim (cell c)) = w.stock := by
  refine Stock.ext ?_ fun m => ?_
  · change String.ofList (Text.trim (cell .ticker)) = w.ticker
    rw [hRow.ticker, h.trim_ticker, String.ofList_toList]
  · have hColumn : .metric m ∈ columns := hColumns.mem_iff.mpr (Column.mem_all _)
    have hMetric := hRow.metric m
    have hValue : (Stock.ofCells columns fun c => Text.trim (cell c)).metric m =
        Binary64.ofNumeral? (Text.trim (cell (.metric m))) := if_pos hColumn
    change _ = (w.literal? m).map Literal.value
    rw [hValue]
    generalize cell (.metric m) = text at hMetric
    cases hLiteral : w.literal? m with
    | none =>
        rw [hLiteral] at hMetric
        cases hMetric with
        | other hOther => exact hOther
    | some l =>
        rw [hLiteral] at hMetric
        cases hMetric
        rw [l.trim_text, l.ofNumeral?_text]
        rfl

theorem trim_identifier (c : Column) :
    Text.trim c.identifier.toList = c.identifier.toList := by
  cases c with
  | ticker => decide
  | metric m => cases m <;> decide

/-- A header does not start with a byte order mark. -/
theorem head_ne_mark {columns : List Column} {rows : List (List (List Char))} {text : List Char}
    (h : TableForm ((columns.map fun c => c.identifier.toList) :: rows) text) :
    text.head? ≠ some '\ufeff' := by
  intro hMark
  rcases h.head hMark with hLine | hQuote | hComma | ⟨s, hName, hFirst⟩
  · exact absurd hLine (by decide)
  · exact absurd hQuote (by decide)
  · exact absurd hComma (by decide)
  · obtain ⟨c, -, rfl⟩ := List.mem_map.mp (List.mem_of_head? hName)
    revert hFirst
    cases c with
    | ticker => decide
    | metric m => cases m <;> decide

theorem map_ofCells {written : List WrittenStock} (hSound : ∀ w ∈ written, w.Sound)
    {columns : List Column} (hColumns : columns.Perm Column.all)
    {rows : List (Column → List Char)}
    (hRows : List.Forall₂ (CsvRow fun cell => Binary64.ofNumeral? (Text.trim cell) = none)
      written rows) :
    (rows.map fun cell c => Text.trim (cell c)).map (Stock.ofCells columns) =
      written.map stock := by
  induction hRows with
  | nil => rfl
  | cons hRow _ ih =>
      obtain ⟨hHere, hLater⟩ := List.forall_mem_cons.mp hSound
      simp only [List.map_cons, hHere.ofCells hColumns hRow, ih hLater]

theorem stocksOfCsv_table {written : List WrittenStock} (hSound : ∀ w ∈ written, w.Sound)
    {text : List Char}
    (hText : CsvTable (fun cell => Binary64.ofNumeral? (Text.trim cell) = none) written text) :
    stocksOfCsv text = .ok (written.map stock) := by
  obtain @⟨columns, rows, text, hColumns, hRows, hTable⟩ := hText
  have hStocks := map_ofCells hSound hColumns hRows
  have hHeader : (columns.map fun c => c.identifier.toList).map Text.trim =
      columns.map fun c => c.identifier.toList := by
    simp only [List.map_map, Function.comp_def, trim_identifier]
  have hRecords : (records text).map Record.fields =
      (columns.map fun c => c.identifier.toList) ::
        (rows.map fun cell c => Text.trim (cell c)).map fun cell => columns.map cell := by
    rw [records_table hTable (head_ne_mark hTable), List.map_cons, hHeader]
    simp only [List.map_map, Function.comp_def]
  have hTickers : ∀ cell ∈ rows.map fun cell c => Text.trim (cell c), cell .ticker ≠ [] := by
    intro cell hCell hNone
    have hMem : Stock.ofCells columns cell ∈ written.map stock :=
      hStocks ▸ List.mem_map_of_mem hCell
    obtain ⟨w, hw, hStock⟩ := List.mem_map.mp hMem
    have hTicker : w.ticker = String.ofList (cell .ticker) := congrArg Stock.ticker hStock
    exact (hSound w hw).ticker_ne_nil (by rw [hTicker, hNone]; rfl)
  have hColumn : .ticker ∈ columns := hColumns.mem_iff.mpr (Column.mem_all _)
  rw [stocksOfCsv, Stock.listOfCsv, Stock.listOfRecords_columns hColumn hTickers hRecords, hStocks]

def jsonCell (w : WrittenStock) : Column → List Char
  | .ticker => stringText w.ticker.toList
  | .metric m => (w.literal? m).elim "null".toList Literal.text

def jsonText (written : List WrittenStock) : List Char :=
  enclosedText '[' ']' (written.map fun w =>
    enclosedText '\x7b' '\x7d' (Column.all.map fun c => memberText c.identifier (w.jsonCell c)))

def csvCell (w : WrittenStock) : Column → List Char
  | .ticker => w.ticker.toList
  | .metric m => (w.literal? m).elim [] Literal.text

def csvText (written : List WrittenStock) : List Char :=
  tableText ((Column.all.map fun c => c.identifier.toList) ::
    (written.map csvCell).map fun cell => Column.all.map cell)

theorem jsonRecord_text (w : WrittenStock) :
    w.JsonRecord (enclosedText '\x7b' '\x7d'
      (Column.all.map fun c => memberText c.identifier (w.jsonCell c))) := by
  have hNodup : Column.all.Nodup := by decide
  have hCell (c : Column) : w.JsonCell c (w.jsonCell c) := by
    cases c with
    | ticker => exact stringForm_stringText _
    | metric m => exact MetricForm.of_elim OtherForm.null (w.literal? m)
  exact ⟨Column.all, hNodup, Column.mem_all _, fun m _ => Column.mem_all _,
    enclosedForm_text (fun c _ => memberForm_text (hCell c)) _ _⟩

theorem jsonTable_jsonText (written : List WrittenStock) :
    JsonTable written (jsonText written) := by
  have hText : EnclosedForm JsonRecord '[' ']' written (jsonText written) :=
    enclosedForm_text (fun w _ => w.jsonRecord_text) _ _
  have hTable := JsonTable.mk allBlank_nil allBlank_nil hText
  rwa [List.nil_append, List.append_nil] at hTable

/-- A table of all columns is a table of the records of its rows. -/
theorem csvTable_tableText {other : List Char → Prop} {written : List WrittenStock}
    {rows : List (Column → List Char)} (hRows : List.Forall₂ (CsvRow other) written rows) :
    CsvTable other written (tableText ((Column.all.map fun c => c.identifier.toList) ::
      rows.map fun cell => Column.all.map cell)) := by
  refine .mk (List.Perm.refl _) hRows (tableForm_tableText ?_)
  refine List.forall_mem_cons.mpr ⟨by decide, fun fields hFields => ?_⟩
  obtain ⟨cell, -, rfl⟩ := List.mem_map.mp hFields
  rw [List.length_map]
  decide

theorem csvTable_csvText {other : List Char → Prop} (hEmpty : other [])
    (written : List WrittenStock) : CsvTable other written (csvText written) := by
  refine csvTable_tableText (List.forall₂_map_right_iff.mpr (List.forall₂_same.mpr fun w _ => ?_))
  exact ⟨rfl, fun m => MetricForm.of_elim hEmpty (w.literal? m)⟩

/-- The literal `-0.0E+5`. -/
def minusZero : Literal where
  negative := true
  whole := ['0']
  fraction := some ['0']
  exponent := some ⟨true, .plus, ['5'], by decide, List.all_eq_true.mp rfl⟩
  whole_ne_nil := by decide
  isDigit_whole := List.all_eq_true.mp rfl
  lead_whole := .inr rfl
  fraction_ne_nil := by
    rintro _ ⟨⟩
    decide
  isDigit_fraction := by
    rintro _ ⟨⟩
    exact List.all_eq_true.mp rfl

/-- A record with a comma, a quote and a line feed in the ticker, and a negative zero. -/
def quotedRecord : WrittenStock :=
  ⟨"A,\"\nB", fun m => if m = .roe then some minusZero else none⟩

theorem sound_quotedRecord : quotedRecord.Sound := by
  have hRange : minusZero.InRange := .inl (by decide)
  have hFinite : minusZero.value.isFinite = true := by decide +kernel
  have hMember : ∀ m, ∀ l ∈ quotedRecord.literal? m, l = minusZero := by
    intro m l hl
    rw [quotedRecord, Option.mem_def, Option.ite_none_right_eq_some] at hl
    exact (Option.some.inj hl.2).symm
  exact ⟨by decide, by decide, fun m l hl => hMember m l hl ▸ hRange,
    fun m l hl => hMember m l hl ▸ hFinite⟩

end WrittenStock

end EquityScreen
