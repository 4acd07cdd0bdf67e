import EquityScreen.Condition
import EquityScreen.Source.Load
import EquityScreen.Table.Order
import EquityScreen.Proofs.CsvStocks

/-! The metrics of loaded stocks. From JSON a metric is a finite double or absent. From
comma-separated values it may also be an infinity or a NaN, since a cell may name one or stand
for a number past the doubles. Such a metric is absent in JSON and present in the table; for
filter and sort a NaN is absent and an infinity is a number. -/
namespace EquityScreen

namespace Stock

/-- No cell that a metric is read from stands for an infinity or a NaN. Rows without a ticker give
no stocks, so that their cells do not matter. -/
def FiniteCells (text : List Char) : Prop :=
  ∀ columns ∈ columnsOf? text, ∀ record ∈ (Csv.records text).tail,
    (record.fields[columns.ticker]?).getD [] ≠ [] →
      ∀ m, ∀ cell ∈ usedCell? columns record.fields m,
        ∀ x ∈ Binary64.ofNumeral? cell, x.isFinite = true

theorem mem_metric_of_ofCsvRow? {columns : CsvColumns} {fields : List (List Char)} {s : Stock}
    (h : ofCsvRow? columns fields = some s) {m : Metric} {x : Binary64} (hx : x ∈ s.metric m) :
    (fields[columns.ticker]?).getD [] ≠ [] ∧
      ∃ cell ∈ usedCell? columns fields m, x ∈ Binary64.ofNumeral? cell := by
  rw [ofCsvRow?_eq] at h
  split at h
  · cases h
  · next hTicker =>
      cases h
      exact ⟨hTicker, Option.bind_eq_some_iff.mp hx⟩

/-- Exactly with finite cells, all metrics are finite or absent. -/
theorem allFinite_iff_finiteCells {text : List Char} {stocks : List Stock}
    (h : listOfCsv text = .ok stocks) : (∀ s ∈ stocks, s.AllFinite) ↔ FiniteCells text := by
  obtain ⟨columns, hColumns, rfl⟩ := exists_columns_of_listOfCsv h
  constructor
  · intro hAll other hOther record hRecord hTicker m cell hCell x hx
    obtain rfl : columns = other := Option.some.inj (hColumns.symm.trans hOther)
    have hRow := (ofCsvRow?_eq columns record.fields).trans (if_neg hTicker)
    exact hAll _ (List.mem_filterMap.mpr ⟨record, hRecord, hRow⟩) m x
      (Option.bind_eq_some_iff.mpr ⟨cell, hCell, hx⟩)
  · intro hCells s hs m x hx
    obtain ⟨record, hRecord, hRow⟩ := List.mem_filterMap.mp hs
    obtain ⟨hTicker, cell, hCell, hNumeral⟩ := mem_metric_of_ofCsvRow? hRow hx
    exact hCells columns hColumns record hRecord hTicker m cell hCell x hNumeral

/-! How a metric is treated once it has been loaded. -/

/-- The metric is absent: so it is for filter and sort, in the table and in JSON. -/
structure CountsAsMissing (s : Stock) (m : Metric) : Prop where
  metric : s.metric m = none
  filter : ∀ c : Condition, c.field = m → c.holds s = false
  sort : s.sortValue? m = none
  cell : s.cell (.metric m) = ['-']
  json : metricJson (s.metric m) = .null

/-- The metric is a finite number: so it is for filter and sort, in the table and in JSON. -/
structure CountsAsNumber (s : Stock) (m : Metric) (x : Binary64) : Prop where
  metric : s.metric m = some x
  finite : x.isFinite = true
  filter : ∀ c : Condition, c.field = m → c.holds s = c.operator.holds x c.value
  sort : s.sortValue? m = some x
  cell : s.cell (.metric m) = x.text
  json : metricJson (s.metric m) = .number (.real x)

/-- The metric is present and no finite number. It is absent in JSON and not in the table, and
for filter and sort it is absent only if it is a NaN. -/
structure CountsAsBoth (s : Stock) (m : Metric) (x : Binary64) : Prop where
  metric : s.metric m = some x
  special : ∃ negative, x = .infinity negative ∨ x = .nan negative
  filter : (∀ c : Condition, c.field = m → c.holds s = false) ↔ x.isNaN = true
  sort : s.sortValue? m = none ↔ x.isNaN = true
  cell : s.cell (.metric m) ≠ ['-']
  json : metricJson (s.metric m) = .null

variable {s : Stock} {m : Metric} {x : Binary64}

theorem holds_of_metric (h : s.metric m = some x) (c : Condition) (hc : c.field = m) :
    c.holds s = c.operator.holds x c.value := by
  subst hc
  rw [Condition.holds, h]

theorem cell_of_metric (h : s.metric m = some x) : s.cell (.metric m) = x.text := by
  rw [cell, h]

theorem sortValue?_of_metric (h : s.metric m = some x) :
    s.sortValue? m = if x.isNaN then none else some x := by
  rw [sortValue?, h, Option.filter_some]
  cases x.isNaN <;> rfl

/-- Nothing holds of a NaN, and every other value at least equals itself. -/
theorem forall_holds_eq_false_iff (h : s.metric m = some x) :
    (∀ c : Condition, c.field = m → c.holds s = false) ↔ x.isNaN = true := by
  constructor
  · intro hNone
    have hSelf := hNone ⟨m, .equal, x⟩ rfl
    rw [holds_of_metric h _ rfl] at hSelf
    simpa [Operator.holds, Binary64.same] using hSelf
  · intro hNaN c hc
    rw [holds_of_metric h c hc]
    cases c.operator <;> simp [Operator.holds, Binary64.less, Binary64.same, hNaN]

theorem countsAsMissing (h : s.metric m = none) : s.CountsAsMissing m where
  metric := h
  filter := by
    rintro c rfl
    rw [Condition.holds, h]
  sort := by rw [sortValue?, h, Option.filter_none]
  cell := by rw [cell, h]
  json := by rw [h]; rfl

theorem countsAsNumber (h : s.metric m = some x) (hFinite : x.isFinite = true) :
    s.CountsAsNumber m x where
  metric := h
  finite := hFinite
  filter := holds_of_metric h
  sort := by
    have hNumber : x.isNaN = false :=
      decide_eq_false (Nat.not_lt_of_lt (of_decide_eq_true hFinite))
    rw [sortValue?_of_metric h, hNumber]
    rfl
  cell := cell_of_metric h
  json := by
    rw [h, metricJson, Json.Value.ofBinary64, if_pos hFinite]

theorem countsAsBoth (h : s.metric m = some x)
    (hSpecial : ∃ negative, x = .infinity negative ∨ x = .nan negative) :
    s.CountsAsBoth m x where
  metric := h
  special := hSpecial
  filter := forall_holds_eq_false_iff h
  sort := by
    rw [sortValue?_of_metric h]
    cases x.isNaN <;> simp
  cell := by
    rw [cell_of_metric h]
    obtain ⟨negative, rfl | rfl⟩ := hSpecial <;> cases negative <;> decide
  json := by
    rw [h]
    obtain ⟨negative, rfl | rfl⟩ := hSpecial <;> cases negative <;> rfl

theorem allFinite_iff :
    s.AllFinite ↔ ∀ m, s.CountsAsMissing m ∨ ∃ x, s.CountsAsNumber m x := by
  constructor
  · intro hFinite m
    cases hMetric : s.metric m with
    | none => exact .inl (countsAsMissing hMetric)
    | some x => exact .inr ⟨x, countsAsNumber hMetric (hFinite m x hMetric)⟩
  · intro hAll m x hx
    rcases hAll m with hMissing | ⟨y, hNumber⟩
    · rw [hMissing.metric] at hx
      cases hx
    · rw [hNumber.metric] at hx
      cases hx
      exact hNumber.finite

/-- Every metric in a row is absent, a finite number, or an infinity or a NaN. -/
theorem metric_cases_of_ofCsvRow? {columns : CsvColumns} {fields : List (List Char)}
    (h : ofCsvRow? columns fields = some s) (m : Metric) :
    s.CountsAsMissing m ∨ (∃ x, s.CountsAsNumber m x) ∨ ∃ x, s.CountsAsBoth m x := by
  cases hMetric : s.metric m with
  | none => exact .inl (countsAsMissing hMetric)
  | some x =>
      obtain ⟨-, cell, -, hNumeral⟩ := mem_metric_of_ofCsvRow? h hMetric
      rcases Binary64.ofNumeral?_cases hNumeral with hFinite | hSpecial
      · exact .inr (.inl ⟨x, countsAsNumber hMetric hFinite⟩)
      · exact .inr (.inr ⟨x, countsAsBoth hMetric hSpecial⟩)

/-- From JSON each metric is absent or a finite number. From comma-separated values this is so
exactly if no cell in use stands for an infinity or a NaN, and the metrics that break it are
the infinities and NaNs. -/
theorem loaded_metrics (text : List Char) :
    (∀ stocks, stocksOfJson text = .ok stocks →
      ∀ s ∈ stocks, ∀ m, s.CountsAsMissing m ∨ ∃ x, s.CountsAsNumber m x) ∧
    (∀ stocks, stocksOfCsv text = .ok stocks →
      ((∀ s ∈ stocks, ∀ m, s.CountsAsMissing m ∨ ∃ x, s.CountsAsNumber m x) ↔ FiniteCells text) ∧
      ∀ s ∈ stocks, ∀ m,
        s.CountsAsMissing m ∨ (∃ x, s.CountsAsNumber m x) ∨ ∃ x, s.CountsAsBoth m x) := by
  constructor
  · intro stocks h s hs
    unfold stocksOfJson at h
    split at h
    · next read hRead =>
        cases h
        exact allFinite_iff.mp (allFinite_listOfJson hRead s hs)
    · cases h
  · intro stocks h
    unfold stocksOfCsv at h
    split at h
    · next read hRead =>
        cases h
        refine ⟨?_, fun s hs m => ?_⟩
        · rw [← allFinite_iff_finiteCells hRead]
          exact forall₂_congr fun s _ => allFinite_iff.symm
        · obtain ⟨columns, -, rfl⟩ := exists_columns_of_listOfCsv hRead
          obtain ⟨record, -, hRow⟩ := List.mem_filterMap.mp hs
          exact metric_cases_of_ofCsvRow? hRow m
    · cases h

/-- A record with a number and a text in JSON, and a row with a number, an infinity, a NaN and a
text. -/
theorem loaded_metrics_mixed :
    (∃ stocks, stocksOfJson "[\x7b\"ticker\":\"A\",\"roe\":1.5,\"peRatio\":\"x\"\x7d]".toList =
        .ok stocks ∧ stocks ≠ [] ∧
      ∀ s ∈ stocks, ∀ m, s.CountsAsMissing m ∨ ∃ x, s.CountsAsNumber m x) ∧
    (∃ stocks, stocksOfCsv
          "ticker,roe,peRatio,grossMargin,epsGrowth\nA,1.5,-INF,nan,n/a\n".toList = .ok stocks ∧
        stocks ≠ [] ∧
      ((∀ s ∈ stocks, ∀ m, s.CountsAsMissing m ∨ ∃ x, s.CountsAsNumber m x) ↔
        FiniteCells "ticker,roe,peRatio,grossMargin,epsGrowth\nA,1.5,-INF,nan,n/a\n".toList) ∧
      ∀ s ∈ stocks, ∀ m,
        s.CountsAsMissing m ∨ (∃ x, s.CountsAsNumber m x) ∨ ∃ x, s.CountsAsBoth m x) := by
  have hJson : (stocksOfJson
      "[\x7b\"ticker\":\"A\",\"roe\":1.5,\"peRatio\":\"x\"\x7d]".toList).toOption.map
        List.length = some 1 := by decide +kernel
  have hCsv : (stocksOfCsv
      "ticker,roe,peRatio,grossMargin,epsGrowth\nA,1.5,-INF,nan,n/a\n".toList).toOption.map
        List.length = some 1 := by decide +kernel
  have hSome {text : Except Failure (List Stock)}
      (h : text.toOption.map List.length = some 1) : ∃ stocks, text = .ok stocks ∧ stocks ≠ [] := by
    cases text with
    | error e => cases h
    | ok stocks => exact ⟨stocks, rfl, fun hNone => by rw [hNone] at h; cases h⟩
  obtain ⟨fromJson, hJson, hJsonSome⟩ := hSome hJson
  obtain ⟨fromCsv, hCsv, hCsvSome⟩ := hSome hCsv
  exact ⟨⟨fromJson, hJson, hJsonSome, (loaded_metrics _).1 _ hJson⟩,
    ⟨fromCsv, hCsv, hCsvSome, (loaded_metrics _).2 _ hCsv⟩⟩

/-- A cell that says it is no number is loaded as one: such a metric is neither absent nor a
finite number. -/
theorem nan_cell_loaded :
    ¬∀ text stocks, stocksOfCsv text = .ok stocks → ∀ s ∈ stocks, ∀ m,
      s.CountsAsMissing m ∨ ∃ x, s.CountsAsNumber m x := by
  intro hAll
  have hRow : (stocksOfCsv "ticker,roe\nA,NaN\n".toList).toOption.map
      (List.map fun s => s.metric .roe) = some [some (.nan false)] := by decide +kernel
  cases hRead : stocksOfCsv "ticker,roe\nA,NaN\n".toList with
  | error e =>
      rw [hRead] at hRow
      cases hRow
  | ok stocks =>
      rw [hRead] at hRow
      obtain ⟨s, hs, hMetric⟩ := List.mem_map.mp
        (Option.some.inj hRow ▸ List.mem_singleton_self (some (Binary64.nan false)))
      rcases hAll _ stocks hRead s hs .roe with hMissing | ⟨x, hNumber⟩
      · rw [hMissing.metric] at hMetric
        cases hMetric
      · rw [hNumber.metric] at hMetric
        obtain rfl := Option.some.inj hMetric
        exact absurd hNumber.finite (by decide)

end Stock

end EquityScreen
