import EquityScreen.Query.Report
import EquityScreen.Proofs.Separators

/-! The report of a query accounts for every clause: what can be read is among the
conditions, everything else is rejected with its error, both in clause order. The
conditions are those of the plain reading. -/
namespace EquityScreen.Query

/-- Why a clause is rejected, if it is. -/
def rejection? (clause : List Char) : Option RejectedClause :=
  match Clause.parse clause with
  | .ok _ => none
  | .error error => some ⟨clause, error⟩

/-- Entering clauses only adds to a report. -/
theorem foldl_addClause (clauses : List (List Char)) (report : Report) :
    clauses.foldl Report.addClause report =
      ⟨report.conditions ++ clauses.filterMap fun clause => (Clause.parse clause).toOption,
        report.rejected ++ clauses.filterMap rejection?⟩ := by
  induction clauses generalizing report with
  | nil => simp
  | cons clause clauses ih =>
      rw [List.foldl_cons, ih]
      cases hParse : Clause.parse clause with
      | ok condition => simp [Report.addClause, rejection?, hParse, Except.toOption]
      | error error => simp [Report.addClause, rejection?, hParse, Except.toOption]

theorem explain_eq (text : List Char) :
    explain text = ⟨parse text, (splitClauses text).filterMap rejection?⟩ := by
  rw [explain, foldl_addClause]
  rfl

theorem conditions_explain (text : List Char) : (explain text).conditions = parse text := by
  rw [explain_eq]

/-- Every clause is counted once, as a condition or as rejected. -/
theorem length_explain (text : List Char) :
    (explain text).conditions.length + (explain text).rejected.length =
      (splitClauses text).length := by
  rw [explain_eq, parse]
  induction splitClauses text with
  | nil => rfl
  | cons clause clauses ih =>
      cases hParse : Clause.parse clause with
      | ok condition =>
          simp only [List.filterMap_cons, rejection?, hParse, Except.toOption, List.length_cons]
            at ih ⊢
          omega
      | error error =>
          simp only [List.filterMap_cons, rejection?, hParse, Except.toOption, List.length_cons]
            at ih ⊢
          omega

/-- White space alone is no clause. -/
theorem parse_of_allBlank {text : List Char} (h : Text.AllBlank text) : parse text = [] := by
  have hNone := splitClauses_blank_append h []
  rw [List.append_nil] at hNone
  rw [parse, hNone]
  rfl

end EquityScreen.Query
