import EquityScreen.Metric
import EquityScreen.Decimal.Text

/-! Stock records. A metric that was no number in the source is absent. -/
namespace EquityScreen

/-- One row of the screening table. -/
structure Stock where
  ticker : String
  metric : Metric → Option Binary64

namespace Stock

/-- A stock of which only the ticker is known. -/
def ofTicker (ticker : String) : Stock := ⟨ticker, fun _ => none⟩

def setMetric (s : Stock) (m : Metric) (value : Option Binary64) : Stock :=
  { s with metric := fun m' => if m' = m then value else s.metric m' }

/-- The text of a cell of the table. An absent metric shows as a dash. -/
def cell (s : Stock) : Column → List Char
  | .ticker => s.ticker.toList
  | .metric m =>
    match s.metric m with
    | some x => x.text
    | none => ['-']

/-- The cells of a row from left to right. -/
def cells (s : Stock) : List (List Char) := Column.all.map s.cell

@[ext]
theorem ext {s t : Stock} (ticker : s.ticker = t.ticker) (metric : ∀ m, s.metric m = t.metric m) :
    s = t := by
  cases s; cases t
  simp only [Stock.mk.injEq]
  exact ⟨ticker, funext metric⟩

@[simp]
theorem metric_setMetric (s : Stock) (m m' : Metric) (value : Option Binary64) :
    (s.setMetric m value).metric m' = if m' = m then value else s.metric m' := rfl

end Stock

end EquityScreen
