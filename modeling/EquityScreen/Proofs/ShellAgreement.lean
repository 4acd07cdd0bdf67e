import EquityScreen.Proofs.JsonMembers
import EquityScreen.Proofs.Paging
import EquityScreen.Proofs.QueryConjunction
import EquityScreen.Proofs.Shells
import Mathlib.Tactic.TFAE

/-! All shells classify a query alike. A query that states no condition and one that no stock
satisfies are told apart in the same way by the screener page, by the screening as JSON and by
both commands, and where rows are found the page and the JSON give the same ones. -/
namespace EquityScreen

open Page Web CommandLine

namespace Web

/-- The request sends a query as the one parameter of that name. Parameters of other names may
stand beside it. -/
structure Request.Sends (request : Request) (query : String) : Prop where
  once : (Form.parse request.queryText.toList).filter (fun pair => pair.1 == "query") =
    [("query", query)]
  unmarked : request.queryText.toList.head? ≠ some '?'

theorem lookup_of_filter {params : List (String × String)} {name value : String}
    (h : params.filter (fun pair => pair.1 == name) = [(name, value)]) :
    params.lookup name = some value := by
  induction params with
  | nil => cases h
  | cons param params ih =>
      by_cases hName : param.1 = name
      · rw [List.filter_cons_of_pos (by simpa using hName)] at h
        rw [(List.cons.inj h).1, List.lookup_cons_self]
      · rw [List.filter_cons_of_neg (by simpa using hName)] at h
        rw [List.lookup_cons, beq_false_of_ne (Ne.symm hName)]
        exact ih h

theorem Request.Sends.query_eq {request : Request} {query : String} (h : request.Sends query) :
    (ScreenState.ofQueryString request.queryText).query = query := by
  have hRead : ScreenState.ofQueryString request.queryText =
      ScreenState.ofParams (Form.parse request.queryText.toList) := by
    unfold ScreenState.ofQueryString
    split
    · next hText => exact absurd (by rw [hText]; rfl) h.unmarked
    · rfl
  have hLookup : (Form.parse request.queryText.toList).lookup ScreenState.queryParam = some query :=
    lookup_of_filter h.once
  rw [hRead, ScreenState.ofParams, hLookup]
  rfl

/-- The text of a screening ends with its results, and there are none. -/
def EmptyResults (body : String) : Prop := "\"results\":[]\x7d".toList <:+ body.toList

/-- The screening of a query as JSON: its conditions, the clauses that were rejected, and the
stocks that were selected. -/
def screeningObject (query : List Char) (selected : List Stock) : Json.Value :=
  .object [("conditions", .array ((Query.parse query).map Condition.toJson)),
    ("rejected", .array ((Query.explain query).rejected.map fun r =>
      (rejectedJson r).sortMembers)),
    ("results", .array (selected.map fun s => s.toJson.sortMembers))]

theorem screeningJson_eq (query : List Char) (stocks : List Stock) :
    screeningJson (Query.explain query) stocks =
      screeningObject query (filterStocks stocks (Query.parse query)) := by
  have hNames : ["conditions", "rejected", "results"].Pairwise (· < ·) := by decide
  have hConditions : (Query.parse query).map (fun c => c.toJson.sortMembers) =
      (Query.parse query).map Condition.toJson :=
    List.map_congr_left fun c _ => c.sortMembers_toJson
  rw [screeningJson, Json.Value.sortMembers]
  refine (congrArg Json.Value.object (Json.sortedMembers_of_pairwise ?_)).trans ?_
  · exact hNames
  · simp only [List.map_cons, List.map_nil, Query.conditions_explain, screeningObject,
      Json.sortMembers_array, Stock.listToJson, List.map_map, Function.comp_def, hConditions]

/-- The text of a screening ends with the text of its results. -/
theorem exists_compact_screeningObject (query : List Char) (selected : List Stock) :
    ∃ front, (screeningObject query selected).compact =
      front ++ ("\"results\":[".toList ++
        (Json.compactElements (selected.map fun s => s.toJson.sortMembers) ++ [']', '\x7d'])) := by
  have hName : "\"results\":[".toList = Json.stringText "results".toList ++ [':', '['] := rfl
  refine ⟨'\x7b' :: (Json.stringText "conditions".toList ++ ':' ::
    (Json.Value.array ((Query.parse query).map Condition.toJson)).compact ++ ',' ::
    (Json.stringText "rejected".toList ++ ':' ::
      (Json.Value.array ((Query.explain query).rejected.map fun r =>
        (rejectedJson r).sortMembers)).compact ++ [','])), ?_⟩
  rw [hName]
  simp only [screeningObject, Json.Value.compact, Json.compactMembers, List.append_assoc,
    List.cons_append, List.nil_append]

theorem emptyResults_iff (query : List Char) (selected : List Stock) :
    EmptyResults (String.ofList (screeningObject query selected).compact) ↔ selected = [] := by
  obtain ⟨front, hText⟩ := exists_compact_screeningObject query selected
  have hBody : (String.ofList (screeningObject query selected).compact).toList = _ :=
    String.toList_ofList.trans hText
  rw [EmptyResults, hBody]
  constructor
  · intro hEmpty
    by_contra hSome
    -- With rows the bracket at the end has a brace in front of it.
    have hObjects : ∀ v ∈ selected.map (fun s => s.toJson.sortMembers),
        ∃ members, v = .object members := by
      intro v hv
      obtain ⟨s, -, rfl⟩ := List.mem_map.mp hv
      exact ⟨_, rfl⟩
    obtain ⟨rows, hRows⟩ := Json.exists_compactElements (by simpa using hSome) hObjects
    rw [hRows] at hEmpty
    have hBracket : ['[', ']', '\x7d'] <:+ "\"results\":[]\x7d".toList := by decide
    have hBrace : ['\x7d', ']', '\x7d'] <:+
        front ++ ("\"results\":[".toList ++ (rows ++ ['\x7d'] ++ [']', '\x7d'])) := by
      refine ⟨front ++ ("\"results\":[".toList ++ rows), ?_⟩
      simp
    have hSame := (List.suffix_of_suffix_length_le (hBracket.trans hEmpty) hBrace
      (Nat.le_refl 3)).eq_of_length rfl
    exact absurd hSame (by decide)
  · rintro rfl
    exact ⟨front, rfl⟩

/-- The response to a query as JSON, over stocks that could be loaded. -/
theorem respond_query {request : Request} {query : String} (hGet : request.Gets "/api/screen")
    (hSends : request.Sends query) (stocks : List Stock) (pageSize : Nat) :
    (⟨.ok stocks, pageSize⟩ : Server).respond request =
      if Query.parse query.toList = [] then .jsonError 422 ScreenOutcome.noValidConditionsMessage
      else .json 200 (screeningObject query.toList
        (filterStocks stocks (Query.parse query.toList))) := by
  rw [respond_screen hGet, Server.screenStocks, hSends.once]
  dsimp only
  rw [Server.screenQuery]
  dsimp only
  rw [screeningJson_eq, Query.conditions_explain]
  simp only [List.isEmpty_iff]

/-- A page tells something by a message of a kind, and shows no table. -/
def Tells (seen : Seen) (kind : String) : Prop :=
  seen.texts .alert = [kind] ∧ seen.texts .table = []

/-- The screener page tells an error for want of conditions and that nothing was found for want
of stocks, and nothing else. -/
theorem tells_screenedPage (state : ScreenState) (stocks : List Stock) (pageSize : Nat)
    (kind : String) :
    Tells (screenedPage state stocks pageSize).seen kind ↔
      (kind = "error" ∧ Query.parse state.query.toList = []) ∨
      (kind = "info" ∧ Query.parse state.query.toList ≠ [] ∧
        filterStocks stocks (Query.parse state.query.toList) = []) := by
  obtain ⟨hParse, hScreen⟩ | ⟨hParse, hNone, hScreen⟩ | ⟨hParse, hSome, hScreen⟩ :=
    screen_cases stocks state.query.toList
  · have hPage := screenedPage_unselected state (by rw [hScreen]; rfl) pageSize
    rw [hPage, hScreen]
    simp [Tells, ScreenerPage.seen, ScreenerPage.ofState, Alert.ofOutcome?, hParse, eq_comm]
  · have hPage := screenedPage_unselected state (by rw [hScreen]; rfl) pageSize
    rw [hPage, hScreen]
    simp [Tells, ScreenerPage.seen, ScreenerPage.ofState, Alert.ofOutcome?, hParse, hNone, eq_comm]
  · rw [screenedPage_selected state hScreen hSome]
    simp [Tells, ScreenerPage.seen, hParse, hSome]

/-- What the screener page tells about a query that has something to read. -/
theorem tells_respond {request : Request} {query : String} (hGet : request.Gets "/")
    (hSends : request.Sends query) (hQuery : ¬Text.AllBlank query.toList) (stocks : List Stock)
    (pageSize : Nat) (kind : String) :
    Tells (Seen.ofBody ((⟨.ok stocks, pageSize⟩ : Server).respond request).body) kind ↔
      (kind = "error" ∧ Query.parse query.toList = []) ∨
      (kind = "info" ∧ Query.parse query.toList ≠ [] ∧
        filterStocks stocks (Query.parse query.toList) = []) := by
  have hState := hSends.query_eq
  rw [← hState] at hQuery
  rw [respond_of_query hGet rfl hQuery, seen_pageResponse, tells_screenedPage, hState]

/-- The request asks for a page of a query, without a search and unsorted. -/
structure Request.AsksPage (request : Request) (query : String) (page : Nat) : Prop where
  gets : request.Gets "/"
  state : ScreenState.ofQueryString request.queryText = ⟨query, ⟨none, page, ""⟩⟩

/-- The pages of a query, asked for one by one. Each of them shows a table and says how many pages
and rows there are, and the tables hold the cells of some rows, each row once and in order. -/
structure PagesShow (server : Server) (query : String) (rows : List Stock) : Prop where
  each : ∀ (request : Request) (page : Nat), request.AsksPage query page →
    page ≤ totalPages rows.length server.pageSize →
      let seen := Seen.ofBody (server.respond request).body
      seen.texts .table = ["results"] ∧
      seen.texts .summary = ["Page " ++ toString page ++ " of " ++
        toString (totalPages rows.length server.pageSize) ++ " (" ++ toString rows.length ++
        " rows)"]
  together : ∀ request : Nat → Request,
    (∀ page, 1 ≤ page → page ≤ totalPages rows.length server.pageSize →
      (request page).AsksPage query page) →
    ((List.range' 1 (totalPages rows.length server.pageSize)).flatMap fun page =>
        (Seen.ofBody (server.respond (request page)).body).texts .cell) =
      rows.flatMap fun s => s.cells.map String.ofList

/-- What each shell answers to a query over the same stocks. -/
structure ShellsAgree (server : Server) (stocks : List Stock) (query : String)
    (page api : Response) (screened parsed : Output) : Prop where
  /-- No condition could be read. -/
  refused : [Query.parse query.toList = [],
    screen stocks query.toList = .noValidConditions,
    Tells (Seen.ofBody page.body) "error",
    api.status = 422,
    screened.exitCode = 4,
    parsed.exitCode = 4].TFAE
  /-- Conditions were read, and no stock satisfies them. -/
  unmatched : [Query.parse query.toList ≠ [] ∧
      ∀ s ∈ stocks, matchesAll (Query.parse query.toList) s = false,
    ∃ conditions, screen stocks query.toList = .noMatches conditions,
    Tells (Seen.ofBody page.body) "info",
    api.status = 200 ∧ EmptyResults api.body ∧ screened.exitCode = 0].TFAE
  /-- Stocks were found. -/
  selected : Query.parse query.toList ≠ [] →
    (∃ s ∈ stocks, matchesAll (Query.parse query.toList) s = true) →
      (screen stocks query.toList).stocks =
        stocks.filter (matchesAll (Query.parse query.toList)) ∧
      api = .json 200 (screeningObject query.toList (screen stocks query.toList).stocks) ∧
      (stocks.length < 2 ^ 64 → 1 ≤ server.pageSize →
        PagesShow server query (screen stocks query.toList).stocks)

/-- Without a search and unsorted, the rows are paged over as they are. -/
theorem ofRows_unsorted (rows : List Stock) (page pageSize : Nat) :
    TableView.ofRows rows ⟨none, page, ""⟩ pageSize =
      ⟨paginate rows page pageSize, page, pageSize, rows.length,
        totalPages rows.length pageSize⟩ := by
  rw [TableView.ofRows, TableState.visibleRows_unsearched]
  rfl

section Rows

variable {stocks selected : List Stock} {query : String} {conditions : List Condition}
  {pageSize : Nat} (hScreen : screen stocks query.toList = .selected conditions selected)
  (hRows : selected ≠ []) (hQuery : ¬Text.AllBlank query.toList)
include hScreen hRows hQuery

/-- A page of a query shows a page of the stocks that it selects. -/
theorem seen_of_asksPage {request : Request} {page : Nat} (hAsks : request.AsksPage query page) :
    let seen := Seen.ofBody ((⟨.ok stocks, pageSize⟩ : Server).respond request).body
    seen.texts .table = ["results"] ∧
    seen.texts .summary = ["Page " ++ toString page ++ " of " ++
      toString (totalPages selected.length pageSize) ++ " (" ++ toString selected.length ++
      " rows)"] ∧
    seen.texts .cell = (paginate selected page pageSize).flatMap fun s =>
      s.cells.map String.ofList := by
  dsimp only
  rw [respond_of_query hAsks.gets hAsks.state hQuery, seen_pageResponse,
    screenedPage_selected ⟨query, ⟨none, page, ""⟩⟩ hScreen hRows]
  refine ⟨rfl, ?_, ?_⟩
  · rw [ofRows_unsorted]
    rfl
  · rw [cells_of_results rfl, ofRows_unsorted]

theorem pagesShow (hWord : selected.length < 2 ^ 64) (hSize : 1 ≤ pageSize) :
    PagesShow ⟨.ok stocks, pageSize⟩ query selected where
  each := fun request page hAsks _ =>
    have hSeen := seen_of_asksPage hScreen hRows hQuery hAsks
    ⟨hSeen.1, hSeen.2.1⟩
  together := by
    intro request hAsks
    conv_rhs => rw [← flatMap_pages hWord hSize]
    rw [List.flatMap_assoc]
    refine List.flatMap_congr fun page hPage => ?_
    rw [List.mem_range'_1] at hPage
    exact (seen_of_asksPage hScreen hRows hQuery (hAsks page hPage.1 (by
      dsimp only at hPage ⊢; omega))).2.2

end Rows

/-- The request that follows the address of a page of a query. -/
def Request.ofPage (query : String) (page : Nat) : Request :=
  ⟨"GET", "/?" ++ (⟨query, ⟨none, page, ""⟩⟩ : ScreenState).queryString, []⟩

theorem asksPage_ofPage (query : String) {page : Nat} (hFirst : 1 ≤ page) (hWord : page < 2 ^ 64) :
    (Request.ofPage query page).AsksPage query page := by
  obtain ⟨hPath, hText⟩ := Request.of_target (.ofPage query page) rfl
    (ScreenState.hash_not_mem_queryString _)
  refine ⟨⟨rfl, hPath⟩, ?_⟩
  rw [hText, ScreenState.ofQueryString_queryString hFirst hWord]
  rfl

/-- The addresses of all pages lead to all rows. -/
theorem PagesShow.by_address {server : Server} {query : String} {rows : List Stock}
    (h : PagesShow server query rows) (hWord : rows.length < 2 ^ 64) :
    ((List.range' 1 (totalPages rows.length server.pageSize)).flatMap fun page =>
        (Seen.ofBody (server.respond (.ofPage query page)).body).texts .cell) =
      rows.flatMap fun s => s.cells.map String.ofList :=
  h.together _ fun _ hFirst hLast =>
    asksPage_ofPage query hFirst (Nat.lt_of_le_of_lt (hLast.trans (totalPages_le _ _)) hWord)

/-- For every query with something to read, and over all stocks that can be loaded, the shells agree
on the outcome, on the conditions and on the rows. The requests may send other parameters beside
the query, and the page sizes of the server and the command line may differ. -/
theorem shells_agree {stocks : List Stock} {query : String}
    (hQuery : ∃ c ∈ query.toList, Text.isBlank c = false) {pageSize : Nat}
    {pageRequest apiRequest : Request} (hPage : pageRequest.Gets "/")
    (hPageSends : pageRequest.Sends query) (hApi : apiRequest.Gets "/api/screen")
    (hApiSends : apiRequest.Sends query) {read : FileReader Id} {options : ScreenOptions}
    {cliPageSize : Nat} (hLoads : Loads read options cliPageSize stocks)
    (hOptions : options.query = query) :
    let server : Server := ⟨.ok stocks, pageSize⟩
    ∃ screened parsed,
      run read (.screen options) = Outcome.finished screened ∧
      run read (.parse query) = Outcome.finished parsed ∧
      ShellsAgree server stocks query (server.respond pageRequest) (server.respond apiRequest)
        screened parsed := by
  subst hOptions
  have hBlank : ¬Text.AllBlank options.query.toList := fun h => by
    obtain ⟨c, hMem, hc⟩ := hQuery
    rw [h c hMem] at hc
    cases hc
  have hTells := tells_respond hPage hPageSends hBlank stocks pageSize
  have hRespond := respond_query hApi hApiSends stocks pageSize
  have hScreened := exitCode_screenOutput_iff options cliPageSize stocks
  have hParsed := exitCode_runParse options.query
  refine ⟨_, _, run_screen hLoads, rfl, ?refused, ?unmatched, ?selected⟩
  case refused =>
    refine List.tfae_of_forall (Query.parse options.query.toList = []) _ ?_
    simp only [List.forall_mem_cons]
    refine ⟨trivial, screen_eq_noValidConditions_iff, ?page, ?api, ?screened, ?parsed, by simp⟩
    case page => simp [hTells]
    case api =>
      rw [hRespond]
      split_ifs with hParse <;> simp [hParse, Response.jsonError, Response.json]
    case screened => exact hScreened
    case parsed =>
      rw [hParsed]
      split_ifs with hParse <;> simp [hParse]
  case unmatched =>
    refine List.tfae_of_forall (Query.parse options.query.toList ≠ [] ∧
      filterStocks stocks (Query.parse options.query.toList) = []) _ ?_
    simp only [List.forall_mem_cons]
    refine ⟨?matched, screen_eq_noMatches_iff, ?page, ?api, by simp⟩
    case matched => rw [filterStocks_eq_nil_iff]
    case page => simp [hTells]
    case api =>
      rw [hRespond]
      split_ifs with hParse
      · simp [hParse, Response.jsonError, Response.json]
      · have hCode (hNone : filterStocks stocks (Query.parse options.query.toList) = []) :
            (screenOutput options cliPageSize stocks).exitCode = 0 := by
          rw [screenOutput_noMatches options cliPageSize hParse hNone]
        simpa [hParse, Response.json, emptyResults_iff] using hCode
  case selected =>
    intro hParse hSome
    have hStocks := stocks_screen hParse stocks
    have hRows : filterStocks stocks (Query.parse options.query.toList) ≠ [] := by
      obtain ⟨s, hs, hMatches⟩ := hSome
      exact List.ne_nil_of_mem (List.mem_filter.mpr ⟨hs, hMatches⟩)
    have hScreen := screen_eq_selected hParse hRows
    refine ⟨hStocks, ?_, fun hWord hSize => ?_⟩
    · rw [hRespond, if_neg hParse, hStocks]
      rfl
    · rw [hScreen]
      exact pagesShow hScreen hRows hBlank
        (Nat.lt_of_le_of_lt (List.length_filter_le _ _) hWord) hSize

/-- A query with a part that cannot be read, over the bundled stocks. The page is asked for beside
other parameters, the command sorts and searches, and the page sizes differ. -/
theorem shells_agree_bundled :
    let query := "roe > 15 AND price"
    let pageRequest : Request := ⟨"GET", "/?page=2&query=roe+%3E+15+AND+price", []⟩
    let apiRequest : Request := ⟨"GET", "/api/screen?query=roe%20%3E%2015%20AND%20price", []⟩
    let read : FileReader Id := fun _ => .error .notFound
    let options : ScreenOptions :=
      ⟨none, none, query, some (.metric .roe), .descending, 9, some "a", none, true⟩
    let server : Server := ⟨.ok bundledStocks, 7⟩
    (∃ c ∈ query.toList, Text.isBlank c = false) ∧
    pageRequest.Gets "/" ∧ pageRequest.Sends query ∧
    apiRequest.Gets "/api/screen" ∧ apiRequest.Sends query ∧
    Loads read options 10 bundledStocks ∧ options.query = query ∧
    ∃ screened parsed,
      run read (.screen options) = Outcome.finished screened ∧
      run read (.parse query) = Outcome.finished parsed ∧
      ShellsAgree server bundledStocks query (server.respond pageRequest)
        (server.respond apiRequest) screened parsed := by
  intro query pageRequest apiRequest read options server
  have hQuery : ∃ c ∈ query.toList, Text.isBlank c = false := ⟨'r', by decide, by decide⟩
  have hPage : pageRequest.Gets "/" := ⟨rfl, by decide +kernel⟩
  have hPageSends : pageRequest.Sends query := ⟨by decide +kernel, by decide +kernel⟩
  have hApi : apiRequest.Gets "/api/screen" := ⟨rfl, by decide +kernel⟩
  have hApiSends : apiRequest.Sends query := ⟨by decide +kernel, by decide +kernel⟩
  have hLoads : Loads read options 10 bundledStocks := ⟨.default, rfl, rfl, rfl⟩
  exact ⟨hQuery, hPage, hPageSends, hApi, hApiSends, hLoads, rfl,
    shells_agree hQuery hPage hPageSends hApi hApiSends hLoads rfl⟩

end Web

end EquityScreen
