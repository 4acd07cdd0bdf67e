import EquityScreen.Stock

/-! Conditions on a metric. A condition holds of a stock only if the stock has the metric; a stock
passes a list of conditions if all of them hold. -/
namespace EquityScreen

inductive Operator where
  | greater
  | less
  | equal
deriving DecidableEq, Repr

namespace Operator

def all : List Operator := [greater, less, equal]

def symbol : Operator → Char
  | greater => '>'
  | less => '<'
  | equal => '='

def ofChar? (c : Char) : Option Operator := all.find? fun op => op.symbol == c

/-- Compare two values. Equality is exact, and nothing holds of a NaN. -/
def holds : Operator → Binary64 → Binary64 → Bool
  | greater, x, y => y.less x
  | less, x, y => x.less y
  | equal, x, y => x.same y

end Operator

structure Condition where
  field : Metric
  operator : Operator
  value : Binary64
deriving DecidableEq, Repr

namespace Condition

def text (c : Condition) : List Char :=
  c.field.identifier.toList ++ [' ', c.operator.symbol, ' '] ++ c.value.text

/-- The stock has the metric, and its value satisfies the comparison. -/
def holds (c : Condition) (s : Stock) : Bool :=
  match s.metric c.field with
  | some x => c.operator.holds x c.value
  | none => false

end Condition

/-- All conditions hold of the stock. -/
def matchesAll (conditions : List Condition) (s : Stock) : Bool := conditions.all (·.holds s)

/-- The stocks of which all conditions hold, in their order. -/
def filterStocks (stocks : List Stock) (conditions : List Condition) : List Stock :=
  stocks.filter (matchesAll conditions)

end EquityScreen
