import EquityScreen.Proofs.JsonWriting
import EquityScreen.Proofs.Shells
import EquityScreen.Proofs.StockRoundTrip
import EquityScreen.Proofs.TableAlignment

/-! What the command line shows of a page. A text table has every cell of every row in the place of
its column, and a JSON object tells every row by the members of a record. Both are said of the
characters that are written, not of the way in which they are put together. -/
namespace EquityScreen

open Json

/-- The members tell a number under a name, in decimal digits. -/
def TellsNumber (members : List (List Char × Tree)) (name : String) (n : Nat) : Prop :=
  ∃ l : Literal, l.text = (toString n).toList ∧ (name.toList, .number l) ∈ members

/-- The members of an object tell a stock: its ticker, a number for each metric that is finite, and
null for the others. -/
structure Stock.ToldBy (s : Stock) (members : List (List Char × Tree)) : Prop where
  once : (members.map Prod.fst).Nodup
  ticker : ("ticker".toList, .string s.ticker.toList) ∈ members
  finite : ∀ m x, s.metric m = some x → x.isFinite = true →
    ∃ l : Literal, l.value = x ∧ (m.identifier.toList, .number l) ∈ members
  other : ∀ m, (∀ x, s.metric m = some x → x.isFinite = false) →
    (m.identifier.toList, .null) ∈ members

theorem Condition.exists_saidBy_toJson (c : Condition) (size : Nat) :
    ∃ t, c.toJson.SaidBy (size + 1) t := by
  rw [toJson, Value.exists_saidBy_object]
  simp only [List.forall_mem_cons, List.not_mem_nil, false_implies, implies_true, and_true,
    Value.exists_saidBy_ofString, Value.exists_saidBy_ofBinary64, true_and]
  exact ⟨.string [c.operator.symbol], by rw [Value.SaidBy]⟩

theorem Stock.exists_saidBy_toJson (s : Stock) (size : Nat) :
    ∃ t, s.toJson.SaidBy (size + 1) t := by
  rw [toJson_eq, Value.exists_saidBy_object]
  refine List.forall_mem_map.mpr fun c _ => ?_
  cases c with
  | ticker => exact Value.exists_saidBy_ofString size s.ticker
  | metric m =>
      rw [columnJson]
      cases s.metric m with
      | none => exact ⟨.null, by rw [metricJson, Value.SaidBy]⟩
      | some x => exact Value.exists_saidBy_ofBinary64 size x

/-- A record with its members sorted tells its stock. -/
theorem Stock.toldBy_of_saidBy {s : Stock} {size : Nat} {t : Tree}
    (h : s.toJson.sortMembers.SaidBy (size + 1) t) :
    ∃ members, t = .object members ∧ s.ToldBy members := by
  have hNames : (Column.all.map Column.identifier).Nodup := by decide
  rw [toJson_eq] at h
  obtain ⟨members, rfl, hOnce, hMembers⟩ := h.members_of_sorted (by rwa [List.map_map])
  have hColumn (c : Column) : ∃ u, (c.identifier.toList, u) ∈ members ∧
      (s.columnJson c).sortMembers.SaidBy size u :=
    hMembers _ _ (List.mem_map_of_mem c.mem_all)
  refine ⟨members, rfl, hOnce, ?ticker, fun m x hMetric hFinite => ?finite, fun m hOther => ?other⟩
  case ticker =>
    obtain ⟨u, hu, hSaid⟩ := hColumn .ticker
    rw [columnJson, sortMembers_ofString, Value.ofString, Value.SaidBy] at hSaid
    exact hSaid ▸ hu
  case finite =>
    obtain ⟨u, hu, hSaid⟩ := hColumn (.metric m)
    rw [columnJson, hMetric, metricJson, sortMembers_ofBinary64, Value.ofBinary64, if_pos hFinite,
      Value.SaidBy] at hSaid
    obtain ⟨l, rfl, -, hValue⟩ := hSaid
    exact ⟨l, hValue, hu⟩
  case other =>
    have hNull : (s.columnJson (.metric m)).sortMembers = .null := by
      rw [columnJson]
      cases hMetric : s.metric m with
      | none => rfl
      | some x =>
          rw [metricJson, sortMembers_ofBinary64, Value.ofBinary64,
            if_neg (Bool.eq_false_iff.mp (hOther x hMetric))]
    obtain ⟨u, hu, hSaid⟩ := hColumn (.metric m)
    rw [hNull, Value.SaidBy] at hSaid
    exact hSaid ▸ hu

namespace CommandLine

/-- A page of results as it is printed. -/
structure Printed where
  rows : List Stock
  page : Nat
  totalPages : Nat
  totalRows : Nat
  queryString : String

namespace Printed

def ofView (state : ScreenState) (view : TableView) : Printed :=
  ⟨view.rows, view.page, view.totalPages, view.totalRows, state.queryString⟩

/-- The page as text: lines for the headers, the rule and the rows, each with all of its cells in
their places, and under them the place of the page and its address. -/
def AsTable (p : Printed) (written : List Char) : Prop :=
  ∃ widths lines, List.Forall₂ (PlacesCells widths) (tableCells widths p.rows) lines ∧
    written = lines.flatMap (· ++ ['\n']) ++ ("page " ++ toString p.page ++ " of " ++
      toString p.totalPages ++ " (" ++ toString p.totalRows ++ " rows)\n" ++
      ("?" ++ p.queryString) ++ "\n").toList

/-- The members of an object tell the page: its rows, one record for each, the numbers and the
address. -/
structure ToldBy (p : Printed) (members : List (List Char × Tree)) : Prop where
  once : (members.map Prod.fst).Nodup
  rows : ∃ records, ("rows".toList, .array (records.map Tree.object)) ∈ members ∧
    List.Forall₂ Stock.ToldBy p.rows records
  page : TellsNumber members "page" p.page
  totalPages : TellsNumber members "totalPages" p.totalPages
  totalRows : TellsNumber members "totalRows" p.totalRows
  queryString : ("queryString".toList, .string p.queryString.toList) ∈ members

/-- The page as JSON: a written form of an object that tells the page, and a line break. -/
def AsObject (p : Printed) (written : List Char) : Prop :=
  ∃ members text, (Tree.object members).Form text ∧ p.ToldBy members ∧ written = text ++ ['\n']

/-- The output shows the page, as JSON or as text. -/
def On (p : Printed) (json : Bool) (stdout : String) : Prop :=
  if json then p.AsObject stdout.toList else p.AsTable stdout.toList

end Printed

open Printed

/-! The page as text. -/

/-- A table that is written is one line after another, with all cells in their places. -/
theorem asTable_of_pageText? {state : ScreenState} {view : TableView} {text : List Char}
    (h : pageText? state view = some text) : (ofView state view).AsTable text := by
  obtain ⟨table, hTable, hText⟩ := Option.bind_eq_some_iff.mp h
  rw [renderTable?_eq, Option.ite_none_right_eq_some, Option.some.injEq] at hTable
  refine ⟨_, _, placesCells_tableLines view.rows, ?_⟩
  rw [← Option.some.inj hText, ← hTable.2, renderTable_eq]
  rfl

/-! The page as JSON. -/

/-- A JSON value of a page can be said by a tree, and all of its rows are in the tree. -/
theorem exists_saidBy_pageJson (conditions : List Condition) (state : ScreenState)
    (view : TableView) : ∃ t, (pageJson conditions state view).SaidBy 3 t := by
  refine Value.exists_saidBy_sortMembers (Value.exists_saidBy_object.mpr ?_)
  simp only [pageMembers, List.forall_mem_cons, List.not_mem_nil, false_implies, implies_true,
    and_true, Value.exists_saidBy_ofNat, Value.exists_saidBy_ofString, true_and]
  refine ⟨Value.exists_saidBy_array.mpr ?conditions, Value.exists_saidBy_array.mpr ?rows⟩
  case conditions => exact List.forall_mem_map.mpr fun c _ => c.exists_saidBy_toJson 0
  case rows => exact List.forall_mem_map.mpr fun s _ => s.exists_saidBy_toJson 0

/-- Rows whose records are said by trees are told by objects. -/
theorem exists_records {size : Nat} {rows : List Stock} {trees : List Tree}
    (h : List.Forall₂ (fun s t => s.toJson.sortMembers.SaidBy (size + 1) t) rows trees) :
    ∃ records, trees = records.map Tree.object ∧ List.Forall₂ Stock.ToldBy rows records := by
  induction h with
  | nil => exact ⟨[], rfl, .nil⟩
  | cons hHere _ ih =>
      obtain ⟨members, rfl, hTold⟩ := Stock.toldBy_of_saidBy hHere
      obtain ⟨records, rfl, hLater⟩ := ih
      exact ⟨members :: records, rfl, .cons hTold hLater⟩

theorem tellsNumber_of_saidBy {members : List (List Char × Tree)} {name : String} {size n : Nat}
    (h : ∃ u, (name.toList, u) ∈ members ∧ (Value.ofNat n).sortMembers.SaidBy size u) :
    TellsNumber members name n := by
  obtain ⟨u, hu, hSaid⟩ := h
  rw [sortMembers_ofNat, Value.ofNat, Value.SaidBy] at hSaid
  obtain ⟨l, rfl, hText, -⟩ := hSaid
  exact ⟨l, hText, hu⟩

theorem toldBy_of_saidBy {conditions : List Condition} {state : ScreenState} {view : TableView}
    {size : Nat} {t : Tree} (h : (pageJson conditions state view).SaidBy (size + 3) t) :
    ∃ members, t = .object members ∧ (ofView state view).ToldBy members := by
  have hNames : ((pageMembers conditions state view).map Prod.fst).Nodup := by
    change ["conditions", "page", "pageSize", "totalPages", "totalRows", "rows",
      "queryString"].Nodup
    decide
  obtain ⟨members, rfl, hOnce, hMembers⟩ := h.members_of_sorted hNames
  refine ⟨members, rfl, hOnce, ?rows, ?page, ?pages, ?count, ?address⟩
  case rows =>
    obtain ⟨u, hu, hSaid⟩ := hMembers "rows" (Stock.listToJson view.rows) (by simp [pageMembers])
    rw [Stock.listToJson, sortMembers_array] at hSaid
    obtain ⟨trees, rfl, hTrees⟩ := hSaid
    rw [List.map_map, List.forall₂_map_left_iff] at hTrees
    obtain ⟨records, rfl, hRecords⟩ := exists_records hTrees
    exact ⟨records, hu, hRecords⟩
  case page => exact tellsNumber_of_saidBy (hMembers _ _ (by simp [pageMembers, ofView]))
  case pages => exact tellsNumber_of_saidBy (hMembers _ _ (by simp [pageMembers, ofView]))
  case count => exact tellsNumber_of_saidBy (hMembers _ _ (by simp [pageMembers, ofView]))
  case address =>
    obtain ⟨u, hu, hSaid⟩ :=
      hMembers "queryString" (.ofString state.queryString) (by simp [pageMembers])
    rw [sortMembers_ofString, Value.ofString, Value.SaidBy] at hSaid
    exact hSaid ▸ hu

theorem asObject_pageJson (conditions : List Condition) (state : ScreenState) (view : TableView) :
    (ofView state view).AsObject ((pageJson conditions state view).pretty 0 ++ ['\n']) := by
  obtain ⟨t, hSaid⟩ := exists_saidBy_pageJson conditions state view
  obtain ⟨members, rfl, hTold⟩ := toldBy_of_saidBy hSaid
  exact ⟨members, _, ⟨_, hSaid.formWithin_pretty 0⟩, hTold, rfl⟩

/-- The output of a screening with rows shows a page of them, if it could be written. -/
theorem on_screenOutput {options : ScreenOptions} {stocks selected : List Stock}
    {conditions : List Condition} {pageSize : Nat}
    (hScreen : screen stocks options.state.query.toList = .selected conditions selected)
    (hExit : (screenOutput options pageSize stocks).exitCode = 0) :
    (ofView options.state (.ofRows selected options.state.table pageSize)).On options.json
      (screenOutput options pageSize stocks).stdout := by
  rw [screenOutput_selected hScreen] at hExit ⊢
  generalize options.json = json at hExit ⊢
  cases json with
  | true =>
      change AsObject _ (String.ofList _).toList
      rw [String.toList_ofList]
      exact asObject_pageJson ..
  | false =>
      cases hText : pageText? options.state (.ofRows selected options.state.table pageSize) with
      | none =>
          rw [hText] at hExit
          cases hExit
      | some text =>
          change AsTable _ (String.ofList text).toList
          rw [String.toList_ofList]
          exact asTable_of_pageText? hText

theorem head?_asTable {p : Printed} {written : List Char} (h : p.AsTable written) :
    written.head? = some 'T' := by
  obtain ⟨widths, _, hLines, rfl⟩ := h
  obtain ⟨first, others, hFirst, -, rfl⟩ := List.forall₂_cons_left_iff.mp hLines
  obtain ⟨n, hTicker⟩ := hFirst.first Column.ticker.header.toList rfl
  have hHead : ((first.drop (columnStart widths 0)).take (widths.getD 0 0)).head? = some 'T' :=
    congrArg List.head? hTicker
  rw [columnStart_zero, List.drop_zero, List.head?_take, Option.ite_none_left_eq_some] at hHead
  simp [hHead.2]

theorem head?_asObject {p : Printed} {written : List Char} (h : p.AsObject written) :
    written.head? = some '\x7b' := by
  obtain ⟨members, text, ⟨size, hForm⟩, -, rfl⟩ := h
  cases size with
  | zero => exact hForm.elim
  | succ size =>
      rw [Tree.FormWithin] at hForm
      obtain ⟨tail, rfl⟩ := hForm.exists_cons
      rfl

/-- A page is not mistaken for the message that there is none. -/
theorem Printed.On.ne_message {p : Printed} {json : Bool} {stdout : String}
    (h : p.On json stdout) : stdout ≠ ScreenOutcome.noMatchesMessage ++ "\n" := by
  rintro rfl
  cases json with
  | false => exact absurd (head?_asTable h) (by decide)
  | true => exact absurd (head?_asObject h) (by decide)

end CommandLine

end EquityScreen
