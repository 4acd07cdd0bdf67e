import EquityScreen.Source.Load
import EquityScreen.Proofs.CsvStocks

/-! Tables of stocks in any layout. The header alone says which cell of a row is the ticker and
which is which metric. So each row with a ticker gives the stock of its named cells, and columns
may be moved or added as long as the cells that stocks are made of stay under their names. A row
that does not fit the header, or a header without tickers, makes the whole table fail. -/
namespace EquityScreen.Stock

/-- Exactly one column is the ticker, and no metric has two columns. -/
structure ClearHeader (header : List (List Char)) : Prop where
  ticker : header.countP namesTicker = 1
  metric : ∀ m : Metric, header.count m.identifier.toList ≤ 1

/-- The row has a ticker that is not empty. -/
def hasTicker (header row : List (List Char)) : Bool :=
  (header.zip row).any fun cell => namesTicker cell.1 && !cell.2.isEmpty

/-- The stock with the ticker of a row, and with the number in the cell of each metric, if there is
such a cell and it is a number. -/
structure RowGives (header row : List (List Char)) (s : Stock) : Prop where
  ticker : ∃ name cell, (name, cell) ∈ header.zip row ∧ namesTicker name = true ∧ cell ≠ [] ∧
    s.ticker = String.ofList cell
  metric : ∀ m x, s.metric m = some x ↔
    ∃ cell, (m.identifier.toList, cell) ∈ header.zip row ∧ Binary64.ofNumeral? cell = some x

/-! Where the columns are. -/

/-- A property that one element has at most is found in one place. -/
theorem eq_of_countP_le_one {α : Type} {p : α → Bool} {l : List α} (h : l.countP p ≤ 1)
    {i j : Nat} {a b : α} (ha : l[i]? = some a) (hb : l[j]? = some b) (hpa : p a = true)
    (hpb : p b = true) :
    i = j := by
  have hApart {i j : Nat} {a b : α} (ha : l[i]? = some a) (hb : l[j]? = some b) (hpa : p a = true)
      (hpb : p b = true) (hBefore : i < j) : False := by
    have hFront : 0 < (l.take j).countP p := List.countP_pos_iff.mpr
      ⟨a, List.mem_of_getElem? ((List.getElem?_take_of_lt hBefore).trans ha), hpa⟩
    have hFirst : (l.drop j)[0]? = some b := by rwa [List.getElem?_drop, Nat.add_zero]
    have hBack : 0 < (l.drop j).countP p := List.countP_pos_iff.mpr
      ⟨b, List.mem_of_getElem? hFirst, hpb⟩
    rw [← List.take_append_drop j l, List.countP_append] at h
    omega
  rcases Nat.lt_trichotomy i j with hBefore | hSame | hBehind
  · exact (hApart ha hb hpa hpb hBefore).elim
  · exact hSame
  · exact (hApart hb ha hpb hpa hBehind).elim

theorem mem_zip_iff {header row : List (List Char)} {name cell : List Char} :
    (name, cell) ∈ header.zip row ↔ ∃ i : Nat, header[i]? = some name ∧ row[i]? = some cell := by
  rw [List.mem_iff_getElem?]
  simp only [List.getElem?_zip_eq_some]

section Places

variable {header : List (List Char)} {columns : CsvColumns}
  (hColumns : csvColumns? header = some columns)
include hColumns

/-- A metric with one column is read from the cell under its name. -/
theorem usedCell?_eq_some_iff {m : Metric} (hOnce : header.count m.identifier.toList ≤ 1)
    {row : List (List Char)} {cell : List Char} :
    usedCell? columns row m = some cell ↔ (m.identifier.toList, cell) ∈ header.zip row := by
  rw [mem_zip_iff]
  rcases usedCell?_cases columns row m with ⟨hNone, hUsed⟩ | ⟨place, hEntry, hUsed⟩
  · rw [hUsed]
    refine iff_of_false nofun fun ⟨index, hName, _⟩ => ?_
    exact hNone index ((mem_metrics_iff hColumns).mpr hName)
  · have hPlace := (mem_metrics_iff hColumns).mp hEntry
    rw [hUsed]
    constructor
    · exact fun hCell => ⟨place, hPlace, hCell⟩
    · rintro ⟨index, hName, hCell⟩
      rwa [eq_of_countP_le_one hOnce hPlace hName BEq.rfl BEq.rfl]

/-- The cell under the one name of the ticker is the one that is looked at. -/
theorem ticker_cell_iff (hOnce : header.countP namesTicker = 1) {row : List (List Char)}
    {cell : List Char} :
    row[columns.ticker]? = some cell ↔
      ∃ name, (name, cell) ∈ header.zip row ∧ namesTicker name = true := by
  obtain ⟨ticker, hTicker, hNames⟩ := exists_ticker_name hColumns
  constructor
  · exact fun hCell => ⟨ticker, mem_zip_iff.mpr ⟨_, hTicker, hCell⟩, hNames⟩
  · rintro ⟨name, hCell, hName⟩
    obtain ⟨index, hHere, hCell⟩ := mem_zip_iff.mp hCell
    rwa [← eq_of_countP_le_one hOnce.le hHere hTicker hName hNames]

end Places

/-! What rows give. -/

section Rows

variable {header : List (List Char)} {columns : CsvColumns} (hClear : ClearHeader header)
  (hColumns : csvColumns? header = some columns)
include hClear hColumns

/-- A row gives the stock of its named cells, and nothing else. -/
theorem ofCsvRow?_eq_some_iff {row : List (List Char)} {s : Stock} :
    ofCsvRow? columns row = some s ↔ RowGives header row s := by
  have hMetric {m : Metric} {x : Binary64} :
      (usedCell? columns row m).bind Binary64.ofNumeral? = some x ↔
        ∃ cell, (m.identifier.toList, cell) ∈ header.zip row ∧
          Binary64.ofNumeral? cell = some x := by
    rw [Option.bind_eq_some_iff]
    simp only [usedCell?_eq_some_iff hColumns (hClear.metric m)]
  rw [ofCsvRow?_eq]
  constructor
  · intro h
    split at h
    · cases h
    · next hSome =>
        cases h
        refine ⟨?_, fun m x => hMetric⟩
        cases hCell : row[columns.ticker]? with
        | none => exact absurd (by rw [hCell]; rfl) hSome
        | some cell =>
            rw [hCell] at hSome
            obtain ⟨name, hMem, hName⟩ := (ticker_cell_iff hColumns hClear.ticker).mp hCell
            exact ⟨name, cell, hMem, hName, hSome, rfl⟩
  · rintro ⟨⟨name, cell, hMem, hName, hSome, hTicker⟩, hMetrics⟩
    have hCell := (ticker_cell_iff hColumns hClear.ticker).mpr ⟨name, hMem, hName⟩
    rw [hCell, Option.getD_some, if_neg hSome]
    refine congrArg some (Stock.ext hTicker.symm fun m => Option.ext fun x => ?_)
    exact hMetric.trans (hMetrics m x).symm

theorem hasTicker_eq_isSome (row : List (List Char)) :
    hasTicker header row = (ofCsvRow? columns row).isSome := by
  rw [Bool.eq_iff_iff, Option.isSome_iff_exists, hasTicker, List.any_eq_true]
  constructor
  · rintro ⟨⟨name, cell⟩, hMem, hCell⟩
    rw [Bool.and_eq_true, Bool.not_eq_true', List.isEmpty_eq_false_iff] at hCell
    have hHere := (ticker_cell_iff hColumns hClear.ticker).mpr ⟨name, hMem, hCell.1⟩
    rw [ofCsvRow?_eq, hHere, Option.getD_some, if_neg hCell.2]
    exact ⟨_, rfl⟩
  · rintro ⟨s, hRow⟩
    obtain ⟨name, cell, hMem, hName, hSome, -⟩ :=
      ((ofCsvRow?_eq_some_iff hClear hColumns).mp hRow).ticker
    refine ⟨(name, cell), hMem, ?_⟩
    rw [hName, List.isEmpty_eq_false_iff.mpr hSome]
    rfl

/-- Rows without a ticker are left out, and every other row gives one stock. -/
theorem rowGives_filterMap (rows : List (List (List Char))) :
    List.Forall₂ (RowGives header) (rows.filter (hasTicker header))
      (rows.filterMap (ofCsvRow? columns)) := by
  induction rows with
  | nil => exact .nil
  | cons row rows ih =>
      cases hRow : ofCsvRow? columns row with
      | none =>
          have hNone : ¬hasTicker header row = true := by
            rw [hasTicker_eq_isSome hClear hColumns, hRow]
            exact Bool.false_ne_true
          rwa [List.filter_cons_of_neg hNone, List.filterMap_cons_none hRow]
      | some s =>
          have hSome : hasTicker header row = true := by
            rw [hasTicker_eq_isSome hClear hColumns, hRow]
            rfl
          rw [List.filter_cons_of_pos hSome, List.filterMap_cons_some hRow]
          exact .cons ((ofCsvRow?_eq_some_iff hClear hColumns).mp hRow) ih

end Rows

/-! What tables give. -/

/-- The name belongs to a column that stocks are made of. -/
def IsKnown (name : List Char) : Prop :=
  namesTicker name = true ∨ ∃ m : Metric, name = m.identifier.toList

/-- What a row gives depends on the cells under known names, not on their places. -/
theorem RowGives.of_mem_iff {header row header' row' : List (List Char)}
    (h : ∀ name cell, IsKnown name →
      ((name, cell) ∈ header.zip row ↔ (name, cell) ∈ header'.zip row'))
    {s : Stock} (hGives : RowGives header row s) : RowGives header' row' s where
  ticker := by
    obtain ⟨name, cell, hMem, hName, hRest⟩ := hGives.ticker
    exact ⟨name, cell, (h name cell (.inl hName)).mp hMem, hName, hRest⟩
  metric m x := by
    rw [hGives.metric m x]
    exact exists_congr fun cell => and_congr_left fun _ => h _ cell (.inr ⟨m, rfl⟩)

/-- A column of a table, with a cell for the number of each row. -/
structure TableColumn where
  name : List Char
  cell : Nat → List Char

def headerOf (columns : List TableColumn) : List (List Char) := columns.map TableColumn.name

def rowOf (columns : List TableColumn) (i : Nat) : List (List Char) := columns.map fun c => c.cell i

def rowsOf (columns : List TableColumn) (count : Nat) : List (List (List Char)) :=
  (List.range count).map (rowOf columns)

/-- The columns of a table. -/
def columnsOf (header : List (List Char)) (rows : List (List (List Char))) : List TableColumn :=
  header.zipIdx.map fun (name, place) => ⟨name, fun i => ((rows.getD i []).getD place [])⟩

theorem headerOf_columnsOf (header : List (List Char)) (rows : List (List (List Char))) :
    headerOf (columnsOf header rows) = header := by
  rw [headerOf, columnsOf, List.map_map]
  exact List.zipIdx_map_fst 0 header

theorem rowOf_columnsOf {header : List (List Char)} {rows : List (List (List Char))} {i : Nat}
    (hBelow : i < rows.length) (hWidth : rows[i].length = header.length) :
    rowOf (columnsOf header rows) i = rows[i] := by
  refine List.ext_getElem (by simp [rowOf, columnsOf, hWidth]) fun place _ hPlace => ?_
  simp [rowOf, columnsOf, hBelow, hPlace]

theorem rowsOf_columnsOf {header : List (List Char)} {rows : List (List (List Char))}
    (h : ∀ row ∈ rows, row.length = header.length) :
    rowsOf (columnsOf header rows) rows.length = rows := by
  refine List.ext_getElem (by rw [rowsOf, List.length_map, List.length_range]) fun i _ hBelow => ?_
  simp only [rowsOf, List.getElem_map, List.getElem_range]
  exact rowOf_columnsOf hBelow (h _ (List.getElem_mem hBelow))

/-- Other columns that hold the columns of a table in any order and, apart from these, columns of
unknown names only. -/
def Rearranges (columns others : List TableColumn) : Prop :=
  ∃ extra : List TableColumn, (∀ c ∈ extra, ¬IsKnown c.name) ∧ others.Perm (columns ++ extra)

section Rearranges

variable {columns others : List TableColumn} (h : Rearranges columns others)
include h

/-- Names are counted as before, if only known names count. -/
theorem Rearranges.countP_eq {p : List Char → Bool}
    (hKnown : ∀ name, p name = true → IsKnown name) :
    (headerOf others).countP p = (headerOf columns).countP p := by
  obtain ⟨extra, hUnknown, hPerm⟩ := h
  have hNone : (headerOf extra).countP p = 0 := by
    rw [List.countP_eq_zero]
    intro name hName hCounted
    obtain ⟨c, hColumn, rfl⟩ := List.mem_map.mp hName
    exact hUnknown c hColumn (hKnown _ hCounted)
  calc (headerOf others).countP p
      = (headerOf (columns ++ extra)).countP p := (hPerm.map TableColumn.name).countP_eq p
    _ = (headerOf columns).countP p + (headerOf extra).countP p := by
        rw [headerOf, List.map_append, List.countP_append]
        rfl
    _ = (headerOf columns).countP p := by rw [hNone, Nat.add_zero]

theorem Rearranges.clearHeader (hClear : ClearHeader (headerOf columns)) :
    ClearHeader (headerOf others) where
  ticker := (h.countP_eq fun _ hName => .inl hName).trans hClear.ticker
  metric m := (h.countP_eq fun _ hName => .inr ⟨m, beq_iff_eq.mp hName⟩).trans_le (hClear.metric m)

/-- The cells under known names are as before. -/
theorem Rearranges.mem_zip_iff (i : Nat) {name cell : List Char} (hKnown : IsKnown name) :
    (name, cell) ∈ (headerOf columns).zip (rowOf columns i) ↔
      (name, cell) ∈ (headerOf others).zip (rowOf others i) := by
  obtain ⟨extra, hUnknown, hPerm⟩ := h
  rw [headerOf, rowOf, List.zip_map', headerOf, rowOf, List.zip_map', (hPerm.map _).mem_iff,
    List.map_append, List.mem_append]
  refine ⟨.inl, fun hMem => hMem.resolve_right fun hExtra => ?_⟩
  obtain ⟨c, hColumn, hCell⟩ := List.mem_map.mp hExtra
  exact hUnknown c hColumn ((Prod.mk.inj hCell).1 ▸ hKnown)

theorem Rearranges.ofCsvRow?_eq {places places' : CsvColumns}
    (hClear : ClearHeader (headerOf columns))
    (hPlaces : csvColumns? (headerOf columns) = some places)
    (hPlaces' : csvColumns? (headerOf others) = some places') (i : Nat) :
    ofCsvRow? places' (rowOf others i) = ofCsvRow? places (rowOf columns i) := by
  refine Option.ext fun s => ?_
  rw [ofCsvRow?_eq_some_iff (h.clearHeader hClear) hPlaces',
    ofCsvRow?_eq_some_iff hClear hPlaces]
  exact ⟨.of_mem_iff fun _ _ hKnown => (h.mem_zip_iff i hKnown).symm,
    .of_mem_iff fun _ _ hKnown => h.mem_zip_iff i hKnown⟩

end Rearranges

/-! Loading a table. -/

theorem ClearHeader.exists_csvColumns {header : List (List Char)} (h : ClearHeader header) :
    ∃ places, csvColumns? header = some places :=
  Stock.exists_csvColumns (List.countP_pos_iff.mp (h.ticker ▸ Nat.one_pos))

theorem csvColumns?_eq_none {header : List (List Char)}
    (h : ∀ name ∈ header, namesTicker name = false) : csvColumns? header = none :=
  congrArg (Option.map _) (List.findIdx?_eq_none_iff.mpr h)

section Records

variable {records : List Csv.Record} {header : List (List Char)} {rows : List (List (List Char))}
  (hRecords : records.map Csv.Record.fields = header :: rows)
include hRecords

theorem listOfRecords_of_ragged (h : ∃ row ∈ rows, row.length ≠ header.length) :
    ∃ fault, listOfRecords records = .error fault := by
  obtain ⟨first, records, rfl, rfl, rfl⟩ := List.map_eq_cons_iff.mp hRecords
  have hRagged : ∃ record ∈ records, record.fields.length ≠ first.fields.length := by
    obtain ⟨_, hRow, hWidth⟩ := h
    obtain ⟨record, hRecord, rfl⟩ := List.mem_map.mp hRow
    exact ⟨record, hRecord, hWidth⟩
  cases hPlaces : csvColumns? first.fields with
  | none => exact ⟨.missingTickerColumn, by simp only [listOfRecords, hPlaces]⟩
  | some places =>
      simp only [listOfRecords, hPlaces]
      exact ofCsvRows_of_ragged hRagged 1

theorem listOfRecords_of_no_ticker (h : ∀ name ∈ header, namesTicker name = false) :
    listOfRecords records = .error .missingTickerColumn := by
  obtain ⟨first, records, rfl, rfl, rfl⟩ := List.map_eq_cons_iff.mp hRecords
  simp only [listOfRecords, csvColumns?_eq_none h]

end Records

/-- Loading from records as a text of comma-separated values is split into. -/
def stocksOfRecords (records : List Csv.Record) : Except Failure (List Stock) :=
  (listOfRecords records).mapError fun fault => .dataFormat fault.message

theorem stocksOfCsv_eq (text : List Char) :
    stocksOfCsv text = stocksOfRecords (Csv.records text) := by
  unfold stocksOfCsv listOfCsv stocksOfRecords
  cases listOfRecords (Csv.records text) <;> rfl

/-- A rearranged table gives the same stocks. -/
theorem stocksOfRecords_rearranged {header : List (List Char)} {rows : List (List (List Char))}
    {records records' : List Csv.Record} {others : List TableColumn}
    (hRecords : records.map Csv.Record.fields = header :: rows) (hClear : ClearHeader header)
    (hWidths : ∀ row ∈ rows, row.length = header.length)
    (hOthers : Rearranges (columnsOf header rows) others)
    (hRecords' : records'.map Csv.Record.fields = headerOf others :: rowsOf others rows.length) :
    stocksOfRecords records' = stocksOfRecords records := by
  have hHeader := headerOf_columnsOf header rows
  have hClear' := hOthers.clearHeader (hHeader.symm ▸ hClear)
  obtain ⟨places, hPlaces⟩ := hClear.exists_csvColumns
  obtain ⟨places', hPlaces'⟩ := hClear'.exists_csvColumns
  have hWidths' : ∀ row ∈ rowsOf others rows.length, row.length = (headerOf others).length := by
    intro row hRow
    obtain ⟨i, -, rfl⟩ := List.mem_map.mp hRow
    rw [rowOf, headerOf, List.length_map, List.length_map]
  have hRows : (rowsOf others rows.length).filterMap (ofCsvRow? places') =
      rows.filterMap (ofCsvRow? places) := by
    conv_rhs => rw [← rowsOf_columnsOf hWidths]
    rw [rowsOf, rowsOf, List.filterMap_map, List.filterMap_map]
    refine List.filterMap_congr fun i _ => ?_
    exact hOthers.ofCsvRow?_eq (hHeader.symm ▸ hClear) (hHeader.symm ▸ hPlaces) hPlaces' i
  rw [stocksOfRecords, stocksOfRecords, listOfRecords_of_widths hRecords' hWidths' hPlaces',
    listOfRecords_of_widths hRecords hWidths hPlaces, hRows]

/-- A table is loaded by the names of its columns. If one column is the ticker, no metric has two
columns and all rows are as wide as the header, then each row with a ticker gives one stock, in
order, with the ticker and the numbers of its cells, and columns may be reordered and unknown ones
added. A row of another width or the lack of a column of tickers makes the load fail. -/
theorem loaded_by_column_names {records : List Csv.Record} {header : List (List Char)}
    {rows : List (List (List Char))}
    (hRecords : records.map Csv.Record.fields = header :: rows) :
    (ClearHeader header → (∀ row ∈ rows, row.length = header.length) →
      (∃ stocks, stocksOfRecords records = .ok stocks ∧
        List.Forall₂ (RowGives header) (rows.filter (hasTicker header)) stocks) ∧
      ∀ (others : List TableColumn) (records' : List Csv.Record),
        Rearranges (columnsOf header rows) others →
        records'.map Csv.Record.fields = headerOf others :: rowsOf others rows.length →
        stocksOfRecords records' = stocksOfRecords records) ∧
    ((∃ row ∈ rows, row.length ≠ header.length) →
      ∃ reason, stocksOfRecords records = .error (.dataFormat reason)) ∧
    ((∀ name ∈ header, namesTicker name = false) →
      stocksOfRecords records = .error (.dataFormat "missing ticker column")) ∧
    ∀ text, Csv.records text = records → stocksOfCsv text = stocksOfRecords records := by
  refine ⟨fun hClear hWidths => ⟨?_, fun others records' hOthers hRecords' => ?_⟩,
    fun hRagged => ?_, fun hNone => ?_, fun text hText => ?_⟩
  · obtain ⟨places, hPlaces⟩ := hClear.exists_csvColumns
    refine ⟨_, ?_, rowGives_filterMap hClear hPlaces rows⟩
    rw [stocksOfRecords, listOfRecords_of_widths hRecords hWidths hPlaces]
    rfl
  · exact stocksOfRecords_rearranged hRecords hClear hWidths hOthers hRecords'
  · obtain ⟨fault, hFault⟩ := listOfRecords_of_ragged hRecords hRagged
    exact ⟨fault.message, by rw [stocksOfRecords, hFault]; rfl⟩
  · rw [stocksOfRecords, listOfRecords_of_no_ticker hRecords hNone]
    rfl
  · rw [stocksOfCsv_eq, hText]

/-- A row without a ticker is left out, a cell that is no number is an absent metric, and neither
another order of the columns nor a column of sectors makes a difference. -/
theorem loaded_by_column_names_moved :
    (∃ stocks, stocksOfCsv "roe,Ticker\n5,A\n7,\nx,B\n".toList = .ok stocks ∧
      List.Forall₂ (RowGives ["roe".toList, "Ticker".toList])
        [["5".toList, "A".toList], ["x".toList, "B".toList]] stocks) ∧
    stocksOfCsv "sector,Ticker,roe\nIT,A,5\nIT,,7\nIT,B,x\n".toList =
      stocksOfCsv "roe,Ticker\n5,A\n7,\nx,B\n".toList := by
  let header := ["roe".toList, "Ticker".toList]
  let rows := [["5".toList, "A".toList], ["7".toList, []], ["x".toList, "B".toList]]
  let sector : TableColumn := ⟨"sector".toList, fun _ => "IT".toList⟩
  have hClear : ClearHeader header := ⟨by decide, fun m => by cases m <;> decide⟩
  have hOthers :
      Rearranges (columnsOf header rows) (sector :: (columnsOf header rows).reverse) := by
    refine ⟨[sector], List.forall_mem_singleton.mpr ?_, ?_⟩
    · rintro (hTicker | ⟨m, hMetric⟩)
      · exact absurd hTicker (by decide)
      · revert hMetric
        cases m <;> decide
    · exact ((List.reverse_perm _).cons sector).trans (List.perm_append_singleton _ _).symm
  have hRecords : (Csv.records "roe,Ticker\n5,A\n7,\nx,B\n".toList).map Csv.Record.fields =
      header :: rows := by decide
  obtain ⟨hLoads, -, -, hText⟩ := loaded_by_column_names hRecords
  obtain ⟨hStocks, hMoved⟩ := hLoads hClear (by decide)
  rw [hText _ rfl, stocksOfCsv_eq]
  exact ⟨hStocks, hMoved _ _ hOthers (by decide)⟩

end EquityScreen.Stock
