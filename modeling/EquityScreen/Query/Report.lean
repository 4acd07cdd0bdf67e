import EquityScreen.Query.Clause
import EquityScreen.Query.Split

/-! Reading a whole query. A query never fails: clauses that cannot be read are left out of its
conditions, and the report names each of them with the reason. -/
namespace EquityScreen.Query

/-- The conditions of a query in clause order; clauses that cannot be read are dropped. -/
def parse (text : List Char) : List Condition :=
  (splitClauses text).filterMap fun clause => (Clause.parse clause).toOption

/-- A clause that cannot be read, and why. -/
structure RejectedClause where
  clause : List Char
  error : ClauseError
deriving DecidableEq, Repr

/-- The conditions of a query, and the clauses that gave none. -/
structure Report where
  conditions : List Condition
  rejected : List RejectedClause

def Report.empty : Report := ⟨[], []⟩

/-- Enter one clause into a report. -/
def Report.addClause (report : Report) (clause : List Char) : Report :=
  match Clause.parse clause with
  | .ok condition => { report with conditions := report.conditions ++ [condition] }
  | .error error => { report with rejected := report.rejected ++ [⟨clause, error⟩] }

/-- Read a query and account for every clause. -/
def explain (text : List Char) : Report := (splitClauses text).foldl Report.addClause .empty

end EquityScreen.Query
