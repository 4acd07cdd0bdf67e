import EquityScreen.Stock.Csv
import EquityScreen.Proofs.AddressRoundTrip
import EquityScreen.Proofs.FiniteMetrics
import Mathlib.Data.List.Induction

/-! Stocks in records. The header decides which field of a row is which column, so that columns
may stand in any order, and every row with a ticker gives the stock of its cells. -/
namespace EquityScreen.Stock

/-- Setting metrics one after another, the last entry for a metric decides. -/
theorem metric_foldl (value : Nat → Option Binary64) (entries : List (Nat × Metric)) (s : Stock)
    (m : Metric) :
    (entries.foldl (fun s (index, m) => s.setMetric m (value index)) s).metric m =
      (entries.reverse.find? fun entry => entry.2 == m).elim (s.metric m) fun entry =>
        value entry.1 := by
  induction entries using List.reverseRecOn with
  | nil => rfl
  | append_singleton entries entry ih =>
      obtain ⟨index, other⟩ := entry
      rw [List.foldl_append, List.reverse_append, List.foldl_cons, List.foldl_nil, metric_setMetric,
        ih, List.reverse_singleton, List.singleton_append, List.find?_cons]
      by_cases hSame : other = m
      · simp [hSame]
      · rw [if_neg (Ne.symm hSame), beq_false_of_ne hSame]

theorem ticker_foldl (value : Nat → Option Binary64) (entries : List (Nat × Metric)) (s : Stock) :
    (entries.foldl (fun s (index, m) => s.setMetric m (value index)) s).ticker = s.ticker := by
  induction entries generalizing s with
  | nil => rfl
  | cons entry entries ih => exact ih _

/-- The cell of a row that a metric is read from: the last one in a column of its name. -/
def usedCell? (columns : CsvColumns) (fields : List (List Char)) (m : Metric) :
    Option (List Char) :=
  (columns.metrics.reverse.find? fun entry => entry.2 == m).bind fun entry => fields[entry.1]?

/-- What a row gives: a stock with the numbers in its cells, if the row has a ticker. -/
theorem ofCsvRow?_eq (columns : CsvColumns) (fields : List (List Char)) :
    ofCsvRow? columns fields =
      if (fields[columns.ticker]?).getD [] = [] then none
      else some ⟨String.ofList ((fields[columns.ticker]?).getD []), fun m =>
        (usedCell? columns fields m).bind Binary64.ofNumeral?⟩ := by
  unfold ofCsvRow?
  generalize (fields[columns.ticker]?).getD [] = ticker
  cases ticker with
  | nil => rfl
  | cons c ticker =>
      rw [if_neg (List.cons_ne_nil c ticker)]
      refine congrArg some (Stock.ext ?_ fun m => ?_)
      · exact ticker_foldl _ _ _
      · refine (metric_foldl _ _ _ m).trans ?_
        change _ = ((columns.metrics.reverse.find? fun entry => entry.2 == m).bind fun entry =>
          fields[entry.1]?).bind Binary64.ofNumeral?
        cases columns.metrics.reverse.find? fun entry => entry.2 == m <;> rfl

/-- Rows as wide as the header give the stocks. -/
theorem ofCsvRows_of_widths {columns : CsvColumns} {width : Nat} {records : List Csv.Record}
    (h : ∀ record ∈ records, record.fields.length = width) (row : Nat) :
    ofCsvRows columns width row records =
      .ok (records.filterMap fun record => ofCsvRow? columns record.fields) := by
  induction records generalizing row with
  | nil => rfl
  | cons record records ih =>
      obtain ⟨hHere, hLater⟩ := List.forall_mem_cons.mp h
      rw [ofCsvRows, if_pos hHere, ih hLater, List.filterMap_cons]
      cases ofCsvRow? columns record.fields <;> rfl

/-- A row of another width is a fault. -/
theorem ofCsvRows_of_ragged {columns : CsvColumns} {width : Nat} {records : List Csv.Record}
    (h : ∃ record ∈ records, record.fields.length ≠ width) (row : Nat) :
    ∃ fault, ofCsvRows columns width row records = .error fault := by
  induction records generalizing row with
  | nil =>
      obtain ⟨record, hRecord, -⟩ := h
      cases hRecord
  | cons record records ih =>
      rw [ofCsvRows]
      split
      · next hHere =>
          obtain ⟨other, hOther, hWidth⟩ := h
          have hLater : other ∈ records := (List.mem_cons.mp hOther).resolve_left fun hSame =>
            hWidth (hSame ▸ hHere)
          obtain ⟨fault, hFault⟩ := ih ⟨other, hLater, hWidth⟩ (row + 1)
          exact ⟨fault, by rw [hFault]; rfl⟩
      · exact ⟨_, rfl⟩

theorem eq_filterMap_of_ofCsvRows {columns : CsvColumns} {width row : Nat}
    {records : List Csv.Record} {stocks : List Stock}
    (h : ofCsvRows columns width row records = .ok stocks) :
    stocks = records.filterMap fun record => ofCsvRow? columns record.fields := by
  by_cases hWidths : ∀ record ∈ records, record.fields.length = width
  · rw [ofCsvRows_of_widths hWidths] at h
    exact (Except.ok.inj h).symm
  · have hRagged : ∃ record ∈ records, record.fields.length ≠ width := by simpa using hWidths
    obtain ⟨fault, hFault⟩ : ∃ fault, ofCsvRows columns width row records = .error fault :=
      ofCsvRows_of_ragged hRagged row
    rw [hFault] at h
    cases h

/-- The columns that the header of a text names. -/
def columnsOf? (text : List Char) : Option CsvColumns :=
  (Csv.records text).head?.bind fun header => csvColumns? header.fields

/-- The rows behind the header give the stocks. -/
theorem exists_columns_of_listOfCsv {text : List Char} {stocks : List Stock}
    (h : listOfCsv text = .ok stocks) :
    ∃ columns, columnsOf? text = some columns ∧
      stocks = (Csv.records text).tail.filterMap fun record => ofCsvRow? columns record.fields := by
  unfold listOfCsv listOfRecords at h
  split at h
  · cases h
  · next header rows hRecords =>
      split at h
      · cases h
      · next columns hColumns =>
          refine ⟨columns, ?_, ?_⟩
          · rw [columnsOf?, hRecords]
            exact hColumns
          · rw [hRecords]
            exact eq_filterMap_of_ofCsvRows h

/-! Where the columns are. -/

/-- The name of a column of tickers, in any case. -/
def namesTicker (name : List Char) : Bool := Text.sameIgnoringAsciiCase name "ticker".toList

theorem ofIdentifier?_toList_iff {name : List Char} {m : Metric} :
    Metric.ofIdentifier? (String.ofList name) = some m ↔ name = m.identifier.toList := by
  constructor
  · intro h
    have hName := List.find?_some h
    rw [beq_iff_eq.mp hName, String.toList_ofList]
  · rintro rfl
    rw [String.ofList_toList, Metric.ofIdentifier?_identifier]

theorem column?_eq_some_iff {name : List Char} {c : Column} :
    Column.ofIdentifier? (String.ofList name) = some c ↔ name = c.identifier.toList := by
  constructor
  · intro h
    unfold Column.ofIdentifier? at h
    split at h
    · next hName =>
        cases h
        exact String.ofList_injective (beq_iff_eq.mp hName)
    · obtain ⟨m, hMetric, rfl⟩ := Option.map_eq_some_iff.mp h
      exact ofIdentifier?_toList_iff.mp hMetric
  · rintro rfl
    rw [String.ofList_toList, Column.ofIdentifier?_identifier]

theorem identifier_injective {c d : Column} (h : c.identifier.toList = d.identifier.toList) :
    c = d :=
  Option.some.inj ((column?_eq_some_iff.mpr rfl).symm.trans (column?_eq_some_iff.mpr h))

theorem exists_csvColumns {header : List (List Char)}
    (h : ∃ name ∈ header, namesTicker name = true) :
    ∃ columns, csvColumns? header = some columns := by
  have hFound : (header.findIdx? namesTicker).isSome = true := by
    rw [List.findIdx?_isSome]
    exact List.any_eq_true.mpr h
  obtain ⟨index, hIndex⟩ := Option.isSome_iff_exists.mp hFound
  exact ⟨_, congrArg (Option.map _) hIndex⟩

section Places

variable {header : List (List Char)} {columns : CsvColumns}
  (hColumns : csvColumns? header = some columns)
include hColumns

theorem exists_ticker_name :
    ∃ name, header[columns.ticker]? = some name ∧ namesTicker name = true := by
  obtain ⟨index, hIndex, rfl⟩ := Option.map_eq_some_iff.mp hColumns
  obtain ⟨hBelow, hName, -⟩ := List.findIdx?_eq_some_iff_getElem.mp hIndex
  exact ⟨header[index], List.getElem?_eq_getElem hBelow, hName⟩

theorem mem_metrics_iff {index : Nat} {m : Metric} :
    (index, m) ∈ columns.metrics ↔ header[index]? = some m.identifier.toList := by
  obtain ⟨ticker, -, rfl⟩ := Option.map_eq_some_iff.mp hColumns
  simp only [List.mem_filterMap, Prod.exists, List.mem_zipIdx_iff_getElem?, Option.map_eq_some_iff,
    Prod.mk.injEq]
  constructor
  · rintro ⟨name, i, hName, other, hMetric, rfl, rfl⟩
    rw [hName, ofIdentifier?_toList_iff.mp hMetric]
  · intro hName
    exact ⟨_, index, hName, m, ofIdentifier?_toList_iff.mpr rfl, rfl, rfl⟩

end Places

/-- A metric is read from the cell at one of its places, if it has any. -/
theorem usedCell?_cases (columns : CsvColumns) (row : List (List Char)) (m : Metric) :
    ((∀ index, (index, m) ∉ columns.metrics) ∧ usedCell? columns row m = none) ∨
      ∃ index, (index, m) ∈ columns.metrics ∧ usedCell? columns row m = row[index]? := by
  rw [usedCell?]
  cases hLast : columns.metrics.reverse.find? fun entry => entry.2 == m with
  | none =>
      refine .inl ⟨fun index hEntry => ?_, rfl⟩
      exact List.find?_eq_none.mp hLast _ (List.mem_reverse.mpr hEntry) BEq.rfl
  | some entry =>
      have hMatch := (List.find?_eq_some_iff_append.mp hLast).1
      refine .inr ⟨entry.1, ?_, rfl⟩
      rw [← beq_iff_eq.mp hMatch]
      exact List.mem_reverse.mp (List.mem_of_find?_eq_some hLast)

/-- A table whose rows are as wide as its header gives the stocks of its rows. -/
theorem listOfRecords_of_widths {records : List Csv.Record} {header : List (List Char)}
    {rows : List (List (List Char))} (hRecords : records.map Csv.Record.fields = header :: rows)
    (hWidths : ∀ row ∈ rows, row.length = header.length) {columns : CsvColumns}
    (hColumns : csvColumns? header = some columns) :
    listOfRecords records = .ok (rows.filterMap (ofCsvRow? columns)) := by
  obtain ⟨first, records, rfl, rfl, rfl⟩ := List.map_eq_cons_iff.mp hRecords
  have hFields : ∀ record ∈ records, record.fields.length = first.fields.length :=
    fun record hRecord => hWidths _ (List.mem_map_of_mem hRecord)
  simp only [listOfRecords, hColumns]
  rw [ofCsvRows_of_widths hFields, List.filterMap_map]
  rfl

/-! Tables of named columns, in any order. -/

/-- The stock with given cells in given columns. -/
def ofCells (columns : List Column) (cell : Column → List Char) : Stock where
  ticker := String.ofList (cell .ticker)
  metric m := if .metric m ∈ columns then Binary64.ofNumeral? (cell (.metric m)) else none

/-- The places of columns. -/
structure CsvColumns.Places (places : CsvColumns) (columns : List Column) : Prop where
  ticker : columns[places.ticker]? = some .ticker
  metrics : ∀ index m, (index, m) ∈ places.metrics ↔ columns[index]? = some (.metric m)

theorem namesTicker_identifier (c : Column) :
    namesTicker c.identifier.toList = (c == .ticker) := by
  cases c with
  | ticker => decide
  | metric m => cases m <;> decide

/-- A header of column names gives the places of the columns. -/
theorem exists_places {columns : List Column} (hTicker : .ticker ∈ columns) :
    ∃ places, csvColumns? (columns.map fun c => c.identifier.toList) = some places ∧
      places.Places columns := by
  obtain ⟨places, hPlaces⟩ := exists_csvColumns
    ⟨_, List.mem_map_of_mem (f := fun c : Column => c.identifier.toList) hTicker, by decide⟩
  refine ⟨places, hPlaces, ?_, fun index m => ?_⟩
  · obtain ⟨name, hName, hNames⟩ := exists_ticker_name hPlaces
    rw [List.getElem?_map, Option.map_eq_some_iff] at hName
    obtain ⟨c, hColumn, rfl⟩ := hName
    rw [namesTicker_identifier] at hNames
    rw [hColumn, beq_iff_eq.mp hNames]
  · rw [mem_metrics_iff hPlaces, List.getElem?_map, Option.map_eq_some_iff]
    constructor
    · rintro ⟨c, hColumn, hName⟩
      rw [hColumn, identifier_injective (d := .metric m) hName]
    · exact fun hColumn => ⟨_, hColumn, rfl⟩

theorem CsvColumns.Places.usedCell? {places : CsvColumns} {columns : List Column}
    (h : places.Places columns) (cell : Column → List Char) (m : Metric) :
    usedCell? places (columns.map cell) m =
      if .metric m ∈ columns then some (cell (.metric m)) else none := by
  rcases usedCell?_cases places (columns.map cell) m with ⟨hNone, hCell⟩ | ⟨index, hEntry, hCell⟩
  · have hAbsent : .metric m ∉ columns := by
      intro hColumn
      obtain ⟨index, hIndex⟩ := List.getElem?_of_mem hColumn
      exact hNone index ((h.metrics index m).mpr hIndex)
    rw [hCell, if_neg hAbsent]
  · have hPlace := (h.metrics index m).mp hEntry
    rw [hCell, if_pos (List.mem_of_getElem? hPlace), List.getElem?_map, hPlace]
    rfl

/-- A row with a ticker gives the stock of its cells. -/
theorem CsvColumns.Places.ofCsvRow? {places : CsvColumns} {columns : List Column}
    (h : places.Places columns) {cell : Column → List Char} (hTicker : cell .ticker ≠ []) :
    ofCsvRow? places (columns.map cell) = some (ofCells columns cell) := by
  have hField : ((columns.map cell)[places.ticker]?).getD [] = cell .ticker := by
    rw [List.getElem?_map, h.ticker]
    rfl
  rw [ofCsvRow?_eq, hField, if_neg hTicker]
  refine congrArg some (Stock.ext rfl fun m => ?_)
  change (Stock.usedCell? places (columns.map cell) m).bind Binary64.ofNumeral? =
    if .metric m ∈ columns then Binary64.ofNumeral? (cell (.metric m)) else none
  rw [h.usedCell?]
  split <;> rfl

/-- A table with a column of tickers gives a stock for every row. -/
theorem listOfRecords_columns {columns : List Column} (hTicker : .ticker ∈ columns)
    {rows : List (Column → List Char)} (hTickers : ∀ cell ∈ rows, cell .ticker ≠ [])
    {records : List Csv.Record}
    (hRecords : records.map Csv.Record.fields =
      (columns.map fun c => c.identifier.toList) :: rows.map fun cell => columns.map cell) :
    listOfRecords records = .ok (rows.map (ofCells columns)) := by
  obtain ⟨places, hPlaces, h⟩ := exists_places hTicker
  have hWidths : ∀ row ∈ rows.map (fun cell => columns.map cell),
      row.length = (columns.map fun c => c.identifier.toList).length := by
    intro row hRow
    obtain ⟨cell, -, rfl⟩ := List.mem_map.mp hRow
    rw [List.length_map, List.length_map]
  have hStocks : rows.filterMap (fun cell => Stock.ofCsvRow? places (columns.map cell)) =
      rows.map (ofCells columns) := by
    rw [← List.filterMap_eq_map]
    exact List.filterMap_congr fun cell hCell => h.ofCsvRow? (hTickers cell hCell)
  rw [listOfRecords_of_widths hRecords hWidths hPlaces, List.filterMap_map]
  exact congrArg Except.ok hStocks

end EquityScreen.Stock
