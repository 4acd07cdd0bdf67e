import EquityScreen.CommandLine.Run
import EquityScreen.Proofs.AddressRoundTrip
import EquityScreen.Proofs.PageReading
import EquityScreen.Proofs.QueryReport
import EquityScreen.Proofs.Utf8RoundTrip

/-! What the shells answer to a query over loaded stocks. The screener page, the screening
as JSON and both commands are each described by the outcome of the screening. -/
namespace EquityScreen

/-- A screening has one of three outcomes. -/
theorem screen_cases (stocks : List Stock) (query : List Char) :
    (Query.parse query = [] ∧ screen stocks query = .noValidConditions) ∨
    (Query.parse query ≠ [] ∧ filterStocks stocks (Query.parse query) = [] ∧
      screen stocks query = .noMatches (Query.parse query)) ∨
    (Query.parse query ≠ [] ∧ filterStocks stocks (Query.parse query) ≠ [] ∧
      screen stocks query =
        .selected (Query.parse query) (filterStocks stocks (Query.parse query))) := by
  unfold screen
  dsimp only
  split
  · next hNone => exact .inl ⟨List.isEmpty_iff.mp hNone, rfl⟩
  · next hSome =>
      have hParse : Query.parse query ≠ [] := fun h => hSome (List.isEmpty_iff.mpr h)
      split
      · next hEmpty => exact .inr (.inl ⟨hParse, hEmpty, rfl⟩)
      · next hRows => exact .inr (.inr ⟨hParse, hRows, rfl⟩)

theorem screen_eq_noValidConditions_iff {stocks : List Stock} {query : List Char} :
    screen stocks query = .noValidConditions ↔ Query.parse query = [] := by
  obtain ⟨hParse, hScreen⟩ | ⟨hParse, -, hScreen⟩ | ⟨hParse, -, hScreen⟩ :=
    screen_cases stocks query <;> simp [hParse, hScreen]

theorem screen_eq_noMatches_iff {stocks : List Stock} {query : List Char} :
    (∃ conditions, screen stocks query = .noMatches conditions) ↔
      Query.parse query ≠ [] ∧ filterStocks stocks (Query.parse query) = [] := by
  obtain ⟨hParse, hScreen⟩ | ⟨hParse, hNone, hScreen⟩ | ⟨hParse, hSome, hScreen⟩ :=
    screen_cases stocks query
  · simp [hParse, hScreen]
  · simp [hParse, hNone, hScreen]
  · simp [hSome, hScreen]

theorem screen_eq_selected {stocks : List Stock} {query : List Char}
    (hParse : Query.parse query ≠ []) (hRows : filterStocks stocks (Query.parse query) ≠ []) :
    screen stocks query =
      .selected (Query.parse query) (filterStocks stocks (Query.parse query)) := by
  obtain ⟨h, -⟩ | ⟨-, h, -⟩ | ⟨-, -, hScreen⟩ := screen_cases stocks query
  · exact absurd h hParse
  · exact absurd h hRows
  · exact hScreen

/-- Nothing is selected exactly if no stock satisfies all conditions. -/
theorem filterStocks_eq_nil_iff {stocks : List Stock} {conditions : List Condition} :
    filterStocks stocks conditions = [] ↔ ∀ s ∈ stocks, matchesAll conditions s = false := by
  simp [filterStocks, List.filter_eq_nil_iff]

/-- A query with something to read is never taken for no query. -/
theorem isEmpty_trim_eq_false {query : List Char} (h : ¬Text.AllBlank query) :
    (Text.trim query).isEmpty = false :=
  Bool.eq_false_iff.mpr (mt Text.isEmpty_trim_iff.mp h)

/-- The address of a state does not reach behind its parameters. -/
theorem ScreenState.hash_not_mem_queryString (s : ScreenState) : '#' ∉ s.queryString.toList := by
  rw [queryString, String.toList_ofList]
  exact Form.hash_not_mem_serialize _

namespace Web

/-- The request reads what stands under a path. -/
structure Request.Gets (request : Request) (path : String) : Prop where
  method : request.method = "GET"
  path : request.path = path

theorem respond_root {request : Request} (h : request.Gets "/") (server : Server) :
    server.respond request = server.screenerPage request := by
  simp [Server.respond, Server.route?, h.method, h.path]

theorem respond_screen {request : Request} (h : request.Gets "/api/screen") (server : Server) :
    server.respond request = server.screenStocks request := by
  simp [Server.respond, Server.route?, h.method, h.path]

/-- The server answers with the page that is asked for, or with its failure. -/
theorem respond_requested {server : Server} {request : Request}
    {requested : Except Failure Page.ScreenerPage} (hGet : request.Gets "/")
    (h : server.requestedPage request = requested) :
    server.respond request = pageResponse request requested := by
  rw [respond_root hGet, Server.screenerPage, h]

/-- A target of the root with parameters behind it, and nothing behind them. -/
theorem Request.of_target (request : Request) {text : String}
    (hTarget : request.target = "/?" ++ text) (hText : '#' ∉ text.toList) :
    request.path = "/" ∧ request.queryText = text := by
  have hChars : request.target.toList = '/' :: '?' :: text.toList := by
    rw [hTarget, String.toList_append]
    rfl
  have hWhole : ∀ c ∈ '/' :: '?' :: text.toList, (c != '#') = true := by
    simp only [List.forall_mem_cons, bne_iff_ne]
    exact ⟨by decide, by decide, fun c hc h => hText (h ▸ hc)⟩
  have hResource : request.resource = '/' :: '?' :: text.toList := by
    rw [resource, hChars, List.takeWhile_eq_self_iff.mpr hWhole]
    rfl
  constructor
  · rw [path, hResource]
    rfl
  · rw [queryText, hResource]
    exact String.ofList_toList

/-- The page of a state with a query is that of its screening, over stocks that could be loaded. -/
theorem requestedPage_of_query {request : Request} {state : ScreenState}
    (hState : ScreenState.ofQueryString request.queryText = state)
    (hQuery : ¬Text.AllBlank state.query.toList) (stocks : List Stock) (pageSize : Nat) :
    (⟨.ok stocks, pageSize⟩ : Server).requestedPage request =
      .ok (screenedPage state stocks pageSize) := by
  rw [Server.requestedPage, hState]
  simp only [isEmpty_trim_eq_false hQuery, Bool.false_eq_true, if_false]
  rfl

theorem respond_of_query {request : Request} {state : ScreenState} (hGet : request.Gets "/")
    (hState : ScreenState.ofQueryString request.queryText = state)
    (hQuery : ¬Text.AllBlank state.query.toList) (stocks : List Stock) (pageSize : Nat) :
    (⟨.ok stocks, pageSize⟩ : Server).respond request =
      pageResponse request (.ok (screenedPage state stocks pageSize)) :=
  respond_requested hGet (requestedPage_of_query hState hQuery stocks pageSize)

/-- An outcome without stocks is told by its message alone. -/
theorem screenedPage_unselected (state : ScreenState) {stocks : List Stock}
    (hNone : (screen stocks state.query.toList).stocks = []) (pageSize : Nat) :
    screenedPage state stocks pageSize =
      { Page.ScreenerPage.ofState state with
        alert := Page.Alert.ofOutcome? (screen stocks state.query.toList) } := by
  simp only [screenedPage, hNone]
  rfl

theorem screenedPage_selected (state : ScreenState) {stocks : List Stock}
    {conditions : List Condition} {selected : List Stock}
    (hScreen : screen stocks state.query.toList = .selected conditions selected)
    (hRows : selected ≠ []) (pageSize : Nat) :
    screenedPage state stocks pageSize =
      { Page.ScreenerPage.ofState state with
        results := some (.ofView state (.ofRows selected state.table pageSize)) } := by
  obtain ⟨first, others, rfl⟩ := List.exists_cons_of_ne_nil hRows
  simp only [screenedPage, hScreen]
  rfl

/-- The cells of a page with results are those of the rows that are on it. -/
theorem cells_of_results {page : Page.ScreenerPage} {state : ScreenState} {view : TableView}
    (h : page.results = some (.ofView state view)) :
    page.seen.texts .cell = view.rows.flatMap fun s => s.cells.map String.ofList := by
  have hRows : page.seen.texts .cell = (Page.ResultsTable.ofView state view).rows.flatten := by
    simp [Page.ScreenerPage.seen, h]
  rw [hRows, List.flatMap_def]
  rfl

end Web

namespace CommandLine

/-- The options and the configuration that they name lead to a page size and to stocks. -/
def Loads (read : FileReader Id) (options : ScreenOptions) (pageSize : Nat)
    (stocks : List Stock) : Prop :=
  ∃ settings, Config.loadSettings read options.config = .ok settings ∧
    (settings.withOverrides options.data options.pageSize none).pageSize = pageSize ∧
    (StockSource.ofPath? (settings.withOverrides options.data options.pageSize none).dataPath).load
      read = .ok stocks

/-- The stocks of a file with a text in it are those that the text lists. -/
theorem load_csvFile {read : FileReader Id} {path : String} {text : List Char}
    (h : read path = Except.ok (Text.utf8Bytes text)) :
    (StockSource.csvFile path).load read = stocksOfCsv text := by
  have hLoad : (StockSource.csvFile path).load read =
      StockSource.stocksOfFile path stocksOfCsv (textOfBytes (read path)) := rfl
  rw [hLoad, h, textOfBytes, Text.decodeUtf8?_utf8Bytes]
  rfl

theorem run_screen {read : FileReader Id} {options : ScreenOptions} {pageSize : Nat}
    {stocks : List Stock} (h : Loads read options pageSize stocks) :
    run read (.screen options) = Outcome.finished (screenOutput options pageSize stocks) := by
  obtain ⟨settings, hSettings, hSize, hStocks⟩ := h
  have hBind {α β : Type} (x : Id α) (f : α → Id β) : x >>= f = f x := rfl
  have hScreen : runScreen read options = screenOutput options pageSize stocks := by
    rw [runScreen, hBind, hSettings]
    dsimp only
    rw [hBind, hStocks, ← hSize]
    rfl
  exact congrArg Outcome.finished hScreen

theorem screenOutput_selected {options : ScreenOptions} {stocks selected : List Stock}
    {conditions : List Condition} {pageSize : Nat}
    (hScreen : screen stocks options.state.query.toList = .selected conditions selected) :
    screenOutput options pageSize stocks =
      if options.json then
        .ofText ((pageJson conditions options.state
          (.ofRows selected options.state.table pageSize)).pretty 0 ++ ['\n'])
      else
        (pageText? options.state (.ofRows selected options.state.table pageSize)).elim
          (.stopped widthFault) .ofText := by
  rw [screenOutput, hScreen]

/-- A screening ends with this code for want of conditions alone. -/
theorem exitCode_screenOutput_iff (options : ScreenOptions) (pageSize : Nat)
    (stocks : List Stock) :
    (screenOutput options pageSize stocks).exitCode = 4 ↔
      Query.parse options.query.toList = [] := by
  have hQuery : options.state.query = options.query := rfl
  rw [screenOutput, hQuery]
  obtain ⟨hParse, hScreen⟩ | ⟨hParse, -, hScreen⟩ | ⟨hParse, -, hScreen⟩ :=
    screen_cases stocks options.query.toList
  · rw [hScreen]
    exact iff_of_true rfl hParse
  · rw [hScreen]
    simp [Output.ofText, hParse]
  · rw [hScreen]
    dsimp only
    split
    · simp [Output.ofText, hParse]
    · cases pageText? options.state _ <;> simp [Output.ofText, Output.stopped, hParse]

/-- Where no stock satisfies all conditions, the message is all that is written. -/
theorem screenOutput_noMatches (options : ScreenOptions) (pageSize : Nat) {stocks : List Stock}
    (hParse : Query.parse options.query.toList ≠ [])
    (hNone : filterStocks stocks (Query.parse options.query.toList) = []) :
    screenOutput options pageSize stocks = ⟨ScreenOutcome.noMatchesMessage ++ "\n", "", 0⟩ := by
  obtain ⟨conditions, hScreen⟩ := screen_eq_noMatches_iff.mpr ⟨hParse, hNone⟩
  have hQuery : options.state.query = options.query := rfl
  rw [screenOutput, hQuery, hScreen]
  exact congrArg (Output.mk · "" 0) String.ofList_toList

/-- And so does reading a query. -/
theorem exitCode_runParse (query : String) :
    (runParse query).exitCode = if Query.parse query.toList = [] then 4 else 0 := by
  unfold runParse
  dsimp only
  rw [Query.conditions_explain]
  simp only [List.isEmpty_iff]
  split <;> rfl

end CommandLine

end EquityScreen
