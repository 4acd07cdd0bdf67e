import EquityScreen.CommandLine.Arguments
import EquityScreen.CommandLine.FormatWidth
import EquityScreen.Condition.Json
import EquityScreen.Config.Settings
import EquityScreen.Query.Report
import EquityScreen.Screen
import EquityScreen.ScreenState
import EquityScreen.Source.Load
import EquityScreen.Table.View

/-! What each command does. A command reads files through a reader that it is given, and comes to
text for the two output streams with an exit code, or to the settings with which to serve pages. -/
namespace EquityScreen.CommandLine

open Config

/-- What a finished command has written, and its exit code. -/
structure Output where
  stdout : String
  stderr : String
  exitCode : Nat
deriving DecidableEq, Repr

inductive Outcome where
  | finished (output : Output)
  | serving (settings : Settings)
deriving DecidableEq, Repr

/-- The output of a command that succeeds. -/
def Output.ofText (stdout : List Char) : Output := ⟨String.ofList stdout, "", 0⟩

/-- The output ends with a failure, which is reported behind what has been written. -/
def Output.failing (o : Output) (failure : Failure) : Output :=
  { o with
    stderr := o.stderr ++ "error: " ++ failure.message ++ "\n"
    exitCode := failure.exitCode }

/-- The output of a command that fails before it has written anything. -/
def Output.ofFailure (failure : Failure) : Output := (Output.ofText []).failing failure

/-- The output of a command that is stopped by a fault before it has written anything. Where in the
program the fault arose is left out of the report. -/
def Output.stopped (fault : String) : Output := ⟨"", fault ++ "\n", 101⟩

/-- The state that the options of a screening describe: the query is submitted, and search and page
are set on top of it. -/
def ScreenOptions.state (options : ScreenOptions) : ScreenState :=
  let sort := options.sortKey.map fun column => SortConfig.mk column options.sortDirection
  let state := ScreenState.initial.withTable { TableState.initial with sort }
  let state := state.submitQuery options.query
  state.withTable ((state.table.applySearch (options.search.getD "")).withPage options.page)

/-- What stands under the table of a page: its place, and the address of the state. -/
def pageFooter (state : ScreenState) (view : TableView) : List Char :=
  ("page " ++ toString view.page ++ " of " ++ toString view.totalPages ++ " ("
    ++ toString view.totalRows ++ " rows)\n" ++ state.href ++ "\n").toList

/-- A page of results as text, if its table is not too wide to be written. -/
def pageText? (state : ScreenState) (view : TableView) : Option (List Char) := do
  return (← renderTable? view.rows) ++ pageFooter state view

/-- The members of a page of results in JSON. -/
def pageMembers (conditions : List Condition) (state : ScreenState) (view : TableView) :
    List (String × Json.Value) :=
  [("conditions", .array (conditions.map Condition.toJson)),
    ("page", .ofNat view.page),
    ("pageSize", .ofNat view.pageSize),
    ("totalPages", .ofNat view.totalPages),
    ("totalRows", .ofNat view.totalRows),
    ("rows", Stock.listToJson view.rows),
    ("queryString", .ofString state.queryString)]

/-- A page of results as JSON, with all members sorted by name. -/
def pageJson (conditions : List Condition) (state : ScreenState) (view : TableView) : Json.Value :=
  (Json.Value.object (pageMembers conditions state view)).sortMembers

/-- Screen stocks and write one page of the results. -/
def screenOutput (options : ScreenOptions) (pageSize : Nat) (stocks : List Stock) : Output :=
  let state := options.state
  match screen stocks state.query.toList with
  | .noValidConditions => .ofFailure .noValidConditions
  | .noMatches _ => .ofText (ScreenOutcome.noMatchesMessage ++ "\n").toList
  | .selected conditions selected =>
    let view := TableView.ofRows selected state.table pageSize
    if options.json then .ofText ((pageJson conditions state view).pretty 0 ++ ['\n'])
    else (pageText? state view).elim (.stopped widthFault) .ofText

/-- Run the command `screen`. The stocks are loaded before the query is read. -/
def runScreen [Monad m] (read : FileReader m) (options : ScreenOptions) : m Output := do
  match ← loadSettings read options.config with
  | .error failure => return .ofFailure failure
  | .ok settings =>
    let settings := settings.withOverrides options.data options.pageSize none
    match ← (StockSource.ofPath? settings.dataPath).load read with
    | .error failure => return .ofFailure failure
    | .ok stocks => return screenOutput options settings.pageSize stocks

/-- A clause that gave no condition, and under it where and why, indented. -/
def rejectedText (r : Query.RejectedClause) : List Char :=
  let explanation := r.error.diagnostic.inContext (String.ofList r.clause)
  "skipped ".toList ++ r.clause ++ ['\n']
    ++ (Text.lines explanation.toList).flatMap fun line => List.replicate 8 ' ' ++ line ++ ['\n']

/-- Run the command `parse`: conditions go to one stream, clauses without one to the other. -/
def runParse (query : String) : Output :=
  let report := Query.explain query.toList
  let output : Output := {
    stdout := String.ofList
      (report.conditions.flatMap fun c => "ok      ".toList ++ c.text ++ ['\n'])
    stderr := String.ofList (report.rejected.flatMap rejectedText)
    exitCode := 0 }
  if report.conditions.isEmpty then output.failing .noValidConditions else output

/-- Run the command `serve` up to the settings that it serves with. -/
def runServe [Monad m] (read : FileReader m) (options : ServeOptions) : m Outcome := do
  match ← loadSettings read options.config with
  | .error failure => return .finished (.ofFailure failure)
  | .ok settings => return .serving (settings.withOverrides options.data none options.listen)

def run [Monad m] (read : FileReader m) : Command → m Outcome
  | .screen options => do return .finished (← runScreen read options)
  | .parse query => pure (.finished (runParse query))
  | .fields => pure (.finished (.ofText renderFields))
  | .serve options => runServe read options

end EquityScreen.CommandLine
