import EquityScreen.CommandLine.Run
import EquityScreen.Main
import EquityScreen.Web.Router
import EquityScreen.Proofs.FormRoundTrip
import EquityScreen.Proofs.PageNumerals
import EquityScreen.Proofs.AddressRoundTrip
import EquityScreen.Proofs.SessionReachability
import EquityScreen.Proofs.PageControls
import EquityScreen.Proofs.PageWalk
import EquityScreen.Proofs.ClauseSplitting
import EquityScreen.Proofs.QueryConjunction
import EquityScreen.Proofs.QueryReport
import EquityScreen.Proofs.WrittenQuery
import EquityScreen.Proofs.ParsedConditions
import EquityScreen.Proofs.PageReading
import EquityScreen.Proofs.PrintedAddress
import EquityScreen.Proofs.ShellAgreement
import EquityScreen.Proofs.UsableSettings
import EquityScreen.Proofs.LoadedMetrics
import EquityScreen.Proofs.SourceAgreement
import EquityScreen.Proofs.StockRoundTrip
import EquityScreen.Proofs.ClauseStability
import EquityScreen.Proofs.InertTexts
import EquityScreen.Query.Cursor
import EquityScreen.Query.Scan
import EquityScreen.Proofs.BytePositions
import EquityScreen.Proofs.ClauseErrors
import EquityScreen.Proofs.AsciiCase
import EquityScreen.Proofs.ClauseAccount
import EquityScreen.Proofs.CursorMoves
import EquityScreen.Proofs.ClauseScan
import EquityScreen.Proofs.ScanSafety
import EquityScreen.Proofs.LetterCase
import EquityScreen.Proofs.RowOrder
import EquityScreen.Proofs.StableSort
import EquityScreen.Proofs.WordPaging
import EquityScreen.Proofs.PageSlices
import EquityScreen.Proofs.PageSummary
import EquityScreen.Proofs.AddressParameters
import EquityScreen.Proofs.TableLayout
import EquityScreen.Proofs.TickerSearch
import EquityScreen.Proofs.JsonTrees
import EquityScreen.Proofs.JsonSkipping
import EquityScreen.Proofs.RecordMembers
import EquityScreen.Proofs.LawfulOrder
import EquityScreen.Proofs.PageFragments
import EquityScreen.Proofs.SessionHistory
import EquityScreen.CommandLine.FormatWidth
import EquityScreen.Proofs.TableAlignment
