import EquityScreen.Condition.Json
import EquityScreen.Json.Error
import EquityScreen.Page.Screener
import EquityScreen.Stock.Json
import EquityScreen.Web.Response

/-! The web server: the screener page at the root, the stocks and the screening of them as JSON
under their own paths, and an error page elsewhere. The whole state of a session is in the address,
so a response depends on the request, the stock data and the page size alone. -/
namespace EquityScreen.Web

/-- What the server works with: the outcome of loading the stocks, and the rows on a page. -/
structure Server where
  stocks : Except Failure (List Stock)
  pageSize : Nat

/-- The title of the document around a screener page. -/
def screenerTitle : String := "Stock Screening Tool"

/-- The screener page of a state over stocks. Results are shown if there are any, and otherwise the
reason why there are none. -/
def screenedPage (state : ScreenState) (stocks : List Stock) (pageSize : Nat) :
    Page.ScreenerPage :=
  let outcome := screen stocks state.query.toList
  { Page.ScreenerPage.ofState state with
    alert := Page.Alert.ofOutcome? outcome
    results :=
      match outcome.stocks with
      | [] => none
      | selected =>
        some (Page.ResultsTable.ofView state (.ofRows selected state.table pageSize)) }

/-- The screener page of the state in the address, or why its stocks cannot be had. Nothing is
screened before a query has been submitted. -/
def Server.requestedPage (server : Server) (request : Request) :
    Except Failure Page.ScreenerPage :=
  let state := ScreenState.ofQueryString request.queryText
  if (Text.trim state.query.toList).isEmpty then .ok (.ofState state)
  else server.stocks.map fun stocks => screenedPage state stocks server.pageSize

/-- A screener page as the request wants it, or a report why there is none. -/
def pageResponse (request : Request) : Except Failure Page.ScreenerPage → Response
  | .ok page => .html 200 (request.framed screenerTitle page.html)
  | .error failure => .ofFailure failure

/-- The response to a request for the screener page. -/
def Server.screenerPage (server : Server) (request : Request) : Response :=
  pageResponse request (server.requestedPage request)

def stocksUnavailable : Response := .jsonError 500 "Failed to fetch stock data"

/-- All stocks as JSON. -/
def Server.listStocks (server : Server) : Response :=
  match server.stocks with
  | .ok stocks => .json 200 (Stock.listToJson stocks)
  | .error _ => stocksUnavailable

/-- A clause without a condition in JSON. -/
def rejectedJson (r : Query.RejectedClause) : Json.Value :=
  .object [("clause", .string r.clause), ("message", .ofString r.error.fault.message),
    ("position", .ofNat r.error.position)]

/-- The conditions of a query, the clauses that gave none and the stocks selected, as JSON with all
members sorted by name. -/
def screeningJson (report : Query.Report) (stocks : List Stock) : Json.Value :=
  (Json.Value.object [("conditions", .array (report.conditions.map Condition.toJson)),
    ("rejected", .array (report.rejected.map rejectedJson)),
    ("results", Stock.listToJson (filterStocks stocks report.conditions))]).sortMembers

/-- Screen with a query. A query that states no condition is refused before any stocks are looked
at. -/
def Server.screenQuery (server : Server) (query : List Char) : Response :=
  let report := Query.explain query
  if report.conditions.isEmpty then .jsonError 422 ScreenOutcome.noValidConditionsMessage
  else
    match server.stocks with
    | .error _ => stocksUnavailable
    | .ok stocks => .json 200 (screeningJson report stocks)

/-- The screening of the query in the address, which may be given once at most. -/
def Server.screenStocks (server : Server) (request : Request) : Response :=
  match (Form.parse request.queryText.toList).filter fun pair => pair.1 == "query" with
  | [] => server.screenQuery []
  | [(_, query)] => server.screenQuery query.toList
  | _ =>
    .plain 400 ("Failed to deserialize query string: duplicate field " ++
      Json.backquoted "query")

/-- The response of a path to a method that reads. -/
def Server.route? (server : Server) (request : Request) : Option Response :=
  if request.path == "/" then some (server.screenerPage request)
  else if request.path == "/api/stocks" then some server.listStocks
  else if request.path == "/api/screen" then some (server.screenStocks request)
  else none

/-- Respond to a request. Known paths can be read with or without a body and nothing else. -/
def Server.respond (server : Server) (request : Request) : Response :=
  let found := server.route? request
  if request.method == "GET" then found.getD (.notFound "Page not found")
  else if request.method == "HEAD" then (found.getD (.notFound "Page not found")).withoutBody
  else if found.isSome then ⟨405, none, "", some "GET,HEAD"⟩
  else .notFound "Page not found"

end EquityScreen.Web
