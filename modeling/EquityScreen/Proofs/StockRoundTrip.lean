import EquityScreen.Proofs.FiniteMetrics
import EquityScreen.Proofs.JsonNumbers
import EquityScreen.Proofs.Shells
import EquityScreen.Proofs.StockReading

/-! The stocks that the server lists are read back from its response. Every column is written
under its name, so that no metric gets lost, and every finite double is written as a number that
is nearest to it alone. -/
namespace EquityScreen

open Json

theorem Json.readsNumber_jsonText {x : Binary64} (hFinite : x.isFinite = true) :
    ReadsNumber (some x) x.jsonText := fun depth _ hRest =>
  ⟨.number (.real x), value_number (number_jsonText hFinite hRest) depth, rfl⟩

namespace Stock

/-- What a stock has in a column, in JSON. -/
def columnJson (s : Stock) : Column → Json.Value
  | .ticker => .ofString s.ticker
  | .metric m => metricJson (s.metric m)

theorem toJson_eq (s : Stock) :
    s.toJson = .object (Column.all.map fun c => (c.identifier, s.columnJson c)) := rfl

theorem AllFinite.cellForm_columnJson {s : Stock} (h : s.AllFinite) (c : Column) :
    s.CellForm c (s.columnJson c).compact := by
  cases c with
  | ticker => exact stringForm_stringText s.ticker.toList
  | metric m =>
      change ReadsNumber (s.metric m) (metricJson (s.metric m)).compact
      cases hMetric : s.metric m with
      | none => exact OtherForm.null.readsNumber
      | some x =>
          rw [metricJson, compact_ofBinary64]
          exact readsNumber_jsonText (h m x hMetric)

/-- The text of a stock has every column in it. -/
theorem AllFinite.objectForm_compact {s : Stock} (h : s.AllFinite) :
    s.ObjectForm s.toJson.compact := by
  have hNodup : Column.all.Nodup := by decide
  refine ⟨Column.all, hNodup, Column.mem_all _, fun m _ => Column.mem_all _, ?_⟩
  rw [toJson_eq, compact_object, List.map_map]
  exact enclosedForm_text (fun c _ => memberForm_text (h.cellForm_columnJson c)) _ _

/-- A list of stocks with finite metrics is read back from its text. -/
theorem listOfJson_compact {stocks : List Stock} (h : ∀ s ∈ stocks, s.AllFinite) :
    listOfJson (listToJson stocks).compact = .ok stocks := by
  have hText : EnclosedForm ObjectForm '[' ']' stocks (listToJson stocks).compact := by
    rw [listToJson, compact_array, List.map_map]
    exact enclosedForm_text (fun s hs => (h s hs).objectForm_compact) _ _
  have hRead := listOfJson_form hText allBlank_nil allBlank_nil
  rwa [List.nil_append, List.append_nil] at hRead

end Stock

namespace Web

theorem respond_stocks {request : Request} (h : request.Gets "/api/stocks") (server : Server) :
    server.respond request = server.listStocks := by
  simp [Server.respond, Server.route?, h.method, h.path]

/-- The response to a request for all stocks lists the same stocks. -/
theorem listed_stocks_read_back {stocks : List Stock} (hFinite : ∀ s ∈ stocks, s.AllFinite)
    (pageSize : Nat) {request : Request} (hGet : request.Gets "/api/stocks") :
    ((⟨.ok stocks, pageSize⟩ : Server).respond request).status = 200 ∧
    stocksOfJson ((⟨.ok stocks, pageSize⟩ : Server).respond request).body.toList = .ok stocks := by
  rw [respond_stocks hGet]
  refine ⟨rfl, ?_⟩
  change stocksOfJson (String.ofList (Stock.listToJson stocks).compact).toList = _
  rw [String.toList_ofList, stocksOfJson, Stock.listOfJson_compact hFinite]

/-- A ticker of a quote, a backslash and a control character with the negative zero, and a stock
of which nothing is known. -/
theorem listed_stocks_read_back_escaped :
    ((⟨.ok [(Stock.ofTicker "\"\\\x01").setMetric .roe (some (.ofMagnitude true 0)), .ofTicker ""],
        10⟩ : Server).respond ⟨"GET", "/api/stocks", []⟩).status = 200 ∧
    stocksOfJson
        ((⟨.ok [(Stock.ofTicker "\"\\\x01").setMetric .roe (some (.ofMagnitude true 0)),
          .ofTicker ""], 10⟩ : Server).respond ⟨"GET", "/api/stocks", []⟩).body.toList =
      .ok [(Stock.ofTicker "\"\\\x01").setMetric .roe (some (.ofMagnitude true 0)),
        .ofTicker ""] := by
  have hZero : ∀ x ∈ some (Binary64.ofMagnitude true 0), x.isFinite = true := by
    rintro x ⟨⟩
    decide
  have hFinite : ∀ s ∈ [(Stock.ofTicker "\"\\\x01").setMetric .roe
      (some (.ofMagnitude true 0)), .ofTicker ""], s.AllFinite := by
    simp only [List.forall_mem_cons, List.not_mem_nil, false_implies, implies_true, and_true]
    exact ⟨(Stock.allFinite_ofTicker _).setMetric .roe hZero, Stock.allFinite_ofTicker _⟩
  exact listed_stocks_read_back hFinite 10 ⟨rfl, by decide +kernel⟩

end Web

end EquityScreen
