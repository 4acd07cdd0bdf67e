import EquityScreen.Query.Report

/-! Screening: a submitted query selects the stocks of which all its conditions hold. A query that
states no condition and a query that no stock satisfies are told apart. -/
namespace EquityScreen

/-- What a query comes to over a list of stocks. -/
inductive ScreenOutcome where
  | noValidConditions
  | noMatches (conditions : List Condition)
  | selected (conditions : List Condition) (stocks : List Stock)

namespace ScreenOutcome

def conditions : ScreenOutcome → List Condition
  | noValidConditions => []
  | noMatches conditions => conditions
  | selected conditions _ => conditions

def stocks : ScreenOutcome → List Stock
  | selected _ stocks => stocks
  | _ => []

def noValidConditionsMessage : String :=
  "No valid conditions found. Please check your query."

def noMatchesMessage : String := "No matching results found."

/-- What people are told about an empty outcome. -/
def message? : ScreenOutcome → Option String
  | noValidConditions => some noValidConditionsMessage
  | noMatches _ => some noMatchesMessage
  | selected _ _ => none

end ScreenOutcome

/-- Screen stocks with a query. -/
def screen (stocks : List Stock) (query : List Char) : ScreenOutcome :=
  let conditions := Query.parse query
  if conditions.isEmpty then .noValidConditions
  else
    match filterStocks stocks conditions with
    | [] => .noMatches conditions
    | selected => .selected conditions selected

end EquityScreen
