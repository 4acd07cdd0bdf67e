import EquityScreen.Proofs.PrintedPage

/-! The address that a screening on the command line prints leads to a page with what was
printed. The state of the command line is put together in another order than the one read
from an address, and the page is read off the text of the response. -/
namespace EquityScreen

namespace CommandLine

open Web Page

/-- What a web page has to show to show the same: one table, no message, the same cells in the same
order, and the same place among the pages. -/
structure Printed.ShownBy (p : Printed) (seen : Seen) : Prop where
  alerts : seen.texts .alert = []
  tables : seen.texts .table = ["results"]
  cells : seen.texts .cell = p.rows.flatMap fun s => s.cells.map String.ofList
  summary : seen.texts .summary = ["Page " ++ toString p.page ++ " of " ++ toString p.totalPages ++
    " (" ++ toString p.totalRows ++ " rows)"]

/-- The forms of a page carry the query, the search and the sort of the options. -/
structure ScreenOptions.CarriedBy (options : ScreenOptions) (seen : Seen) : Prop where
  query : seen.texts .query = [options.query]
  search : seen.texts .search = [Text.trimString (options.search.getD "")]
  sort : seen.hidden = options.state.sortFields ++
    (ScreenState.queryParam, options.query) :: options.state.sortFields

/-- Under the address that is printed a server shows the same page, which carries the options. -/
def Printed.LeadsTo (p : Printed) (options : ScreenOptions) (server : Server) : Prop :=
  ∀ request : Request, request.method = "GET" → request.target = "/?" ++ p.queryString →
    let response := server.respond request
    response.status = 200 ∧ p.ShownBy (Seen.ofBody response.body) ∧
      options.CarriedBy (Seen.ofBody response.body)

/-- A screening of stocks that could be loaded prints a page: it neither fails nor ends with the
message that no stock satisfies all conditions. -/
structure PrintsPage (read : FileReader Id) (options : ScreenOptions) (pageSize : Nat)
    (stocks : List Stock) (output : Output) : Prop where
  loads : Loads read options pageSize stocks
  first : 1 ≤ options.page
  word : options.page < 2 ^ 64
  finished : run read (.screen options) = Outcome.finished output
  succeeds : output.exitCode = 0
  matched : output.stdout ≠ ScreenOutcome.noMatchesMessage ++ "\n"

theorem printsPage_of_screen {read : FileReader Id} {options : ScreenOptions} {pageSize : Nat}
    {stocks selected : List Stock} {conditions : List Condition}
    (hLoads : Loads read options pageSize stocks) (hFirst : 1 ≤ options.page)
    (hWord : options.page < 2 ^ 64)
    (hScreen : screen stocks options.state.query.toList = .selected conditions selected)
    (hExit : (screenOutput options pageSize stocks).exitCode = 0) :
    PrintsPage read options pageSize stocks (screenOutput options pageSize stocks) :=
  ⟨hLoads, hFirst, hWord, run_screen hLoads, hExit, (on_screenOutput hScreen hExit).ne_message⟩

/-- The state of the command line is restored from its own address. -/
theorem ofQueryString_state {options : ScreenOptions} (hFirst : 1 ≤ options.page)
    (hWord : options.page < 2 ^ 64) :
    ScreenState.ofQueryString options.state.queryString = options.state := by
  rw [ScreenState.ofQueryString_queryString hFirst hWord]
  simp [ScreenOptions.state, ScreenState.withTable, TableState.withPage, TableState.applySearch,
    Text.trimString_trimString]

/-- The address of a state leads to the page of its results, if there are any. -/
theorem leadsTo_ofView {options : ScreenOptions} (hFirst : 1 ≤ options.page)
    (hWord : options.page < 2 ^ 64) {stocks selected : List Stock} {conditions : List Condition}
    (hScreen : screen stocks options.state.query.toList = .selected conditions selected)
    (hQuery : ¬Text.AllBlank options.state.query.toList) (hRows : selected ≠ [])
    (pageSize : Nat) :
    (Printed.ofView options.state (.ofRows selected options.state.table pageSize)).LeadsTo options
      ⟨.ok stocks, pageSize⟩ := by
  intro request hGet hTarget
  obtain ⟨hPath, hText⟩ := request.of_target hTarget options.state.hash_not_mem_queryString
  have hState : ScreenState.ofQueryString request.queryText = options.state :=
    hText ▸ ofQueryString_state hFirst hWord
  have hResponse := respond_of_query ⟨hGet, hPath⟩ hState hQuery stocks pageSize
  rw [screenedPage_selected options.state hScreen hRows] at hResponse
  dsimp only
  rw [hResponse, seen_pageResponse]
  refine ⟨rfl, ⟨rfl, rfl, ?cells, rfl⟩, rfl, rfl, ?sort⟩
  case cells => exact cells_of_results rfl
  case sort => exact congrArg (_ ++ ·) (List.append_nil _)

/-- The address that a screening prints leads to a page of the same rows in the same place, with the
query, the search and the sort of the options in its forms. -/
theorem printed_page_shown {read : FileReader Id} {options : ScreenOptions} {pageSize : Nat}
    {stocks : List Stock} {output : Output} (h : PrintsPage read options pageSize stocks output) :
    ∃ p : Printed, p.On options.json output.stdout ∧
      p.LeadsTo options ⟨.ok stocks, pageSize⟩ := by
  obtain rfl : screenOutput options pageSize stocks = output :=
    Outcome.finished.inj ((run_screen h.loads).symm.trans h.finished)
  rcases screen_cases stocks options.state.query.toList with
    ⟨hNone, -⟩ | ⟨hParse, hNone, -⟩ | ⟨hParse, hRows, hScreen⟩
  · have hCode := (exitCode_screenOutput_iff options pageSize stocks).mpr hNone
    rw [h.succeeds] at hCode
    cases hCode
  · exact absurd (congrArg Output.stdout (screenOutput_noMatches options pageSize hParse hNone))
      h.matched
  · have hQuery : ¬Text.AllBlank options.state.query.toList := fun hBlank =>
      hParse (Query.parse_of_allBlank hBlank)
    exact ⟨_, on_screenOutput hScreen h.succeeds,
      leadsTo_ofView h.first h.word hScreen hQuery hRows pageSize⟩

/-- The contents of a file with three stocks. -/
def listedText : String := "ticker,roe,peRatio\nAb,20,\nB,10,2\nΣ A,1e22,-1.5\n"

def listedStocks : List Stock := (stocksOfCsv listedText.toList).toOption.getD []

theorem stocksOfCsv_listedText : stocksOfCsv listedText.toList = .ok listedStocks := by
  have hRead : (stocksOfCsv listedText.toList).toOption.isSome = true := by decide +kernel
  obtain ⟨stocks, hStocks⟩ := Option.isSome_iff_exists.mp hRead
  rw [listedStocks, hStocks]
  exact Json.toOption_eq_some.mp hStocks

/-- The second page of the two stocks that a query selects. -/
def listedPage : String :=
  "Ticker  Market Capitalization (B)  P/E Ratio                  ROE (%)  Debt-to-Equity  " ++
  "Dividend Yield (%)  Revenue Growth (%)  EPS Growth (%)  Current Ratio  Gross Margin (%)\n" ++
  "------  -------------------------  ---------  -----------------------  --------------  " ++
  "------------------  ------------------  --------------  -------------  ----------------\n" ++
  "Σ A                             -       -1.5  10000000000000000000000               -  " ++
  "                 -                   -               -              -                 -\n" ++
  "page 2 of 2 (2 rows)\n?query=roe+%3E+15%0Aand+%23%26&page=2&search=a\n"

/-- A page as text, and one as JSON, which is sorted. -/
theorem printed_page_shown_listed :
    let read : FileReader Id := fun _ => .ok (Text.utf8Bytes listedText.toList)
    let query := "roe > 15\nand #&"
    let paged : ScreenOptions :=
      ⟨none, some "s.csv", query, none, .descending, 2, some " a ", some 1, false⟩
    let sorted : ScreenOptions :=
      ⟨none, some "s.csv", query, some (.metric .roe), .descending, 1, none, none, true⟩
    PrintsPage read paged 1 listedStocks ⟨listedPage, "", 0⟩ ∧
    (∃ p : Printed, p.On false listedPage ∧ p.LeadsTo paged ⟨.ok listedStocks, 1⟩) ∧
    ∃ output, PrintsPage read sorted 10 listedStocks output ∧
      ∃ p : Printed, p.On true output.stdout ∧ p.LeadsTo sorted ⟨.ok listedStocks, 10⟩ := by
  intro read query paged sorted
  have hSource : (StockSource.ofPath? (some "s.csv")).load read = Except.ok listedStocks := by
    have hPath : StockSource.ofPath? (some "s.csv") = .csvFile "s.csv" := by decide +kernel
    rw [hPath, load_csvFile rfl]
    exact stocksOfCsv_listedText
  have hPaged : Loads read paged 1 listedStocks := ⟨.default, rfl, rfl, hSource⟩
  have hSorted : Loads read sorted 10 listedStocks := ⟨.default, rfl, rfl, hSource⟩
  have hScreen : screen listedStocks query.toList = .selected _ _ :=
    screen_eq_selected (by decide +kernel) (by decide +kernel)
  have hScreenPaged : screen listedStocks paged.state.query.toList = .selected _ _ := hScreen
  have hScreenSorted : screen listedStocks sorted.state.query.toList = .selected _ _ := hScreen
  have hText : pageText? paged.state (.ofRows (filterStocks listedStocks (Query.parse
      query.toList)) paged.state.table 1) = some listedPage.toList := by
    unfold listedPage
    rewrite [listedStocks, listedText]
    simp only [String.toList_append]
    -- Lists of characters are compared quickly, and strings are not.
    repeat rewrite [String.toList_ofList]
    decide +kernel
  have hOutput : screenOutput paged 1 listedStocks = ⟨listedPage, "", 0⟩ := by
    rw [screenOutput_selected hScreenPaged, if_neg Bool.false_ne_true, hText]
    exact congrArg (Output.mk · "" 0) String.ofList_toList
  have hPrinted : PrintsPage read paged 1 listedStocks ⟨listedPage, "", 0⟩ := by
    rw [← hOutput]
    exact printsPage_of_screen hPaged (by decide) (by decide) hScreenPaged (congrArg _ hOutput)
  have hExit : (screenOutput sorted 10 listedStocks).exitCode = 0 := by
    rw [screenOutput_selected hScreenSorted, if_pos rfl]
    rfl
  have hJson : PrintsPage read sorted 10 listedStocks (screenOutput sorted 10 listedStocks) :=
    printsPage_of_screen hSorted (by decide) (by decide) hScreenSorted hExit
  exact ⟨hPrinted, printed_page_shown hPrinted, _, hJson, printed_page_shown hJson⟩

end CommandLine

end EquityScreen
