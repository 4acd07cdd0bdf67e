import EquityScreen.Proofs.ClauseStability
import EquityScreen.Proofs.QueryReport

/-! The report of a query as an account of its clauses: each clause is entered once, either
by its condition or as rejected, and both kinds keep the order of the text. A rejected clause
is rejected again, for the same reason, wherever it is submitted alone. -/
namespace EquityScreen.Query

/-- Two lists merged into one, each in its order. -/
inductive Interleaving {α : Type} : List α → List α → List α → Prop where
  | nil : Interleaving [] [] []
  | left (a : α) {as bs cs : List α} (rest : Interleaving as bs cs) :
      Interleaving (a :: as) bs (a :: cs)
  | right (b : α) {as bs cs : List α} (rest : Interleaving as bs cs) :
      Interleaving as (b :: bs) (b :: cs)

/-- A clause that a condition is read from. -/
def isAccepted (clause : List Char) : Bool := (Clause.parse clause).toOption.isSome

/-- Whatever tells the elements of a list apart, the list is a merging of the two kinds. -/
theorem interleaving_filter {α : Type} (p : α → Bool) (as : List α) :
    Interleaving (as.filter p) (as.filter fun a => !p a) as := by
  induction as with
  | nil => exact .nil
  | cons a as ih =>
      cases hKind : p a with
      | true =>
          rw [List.filter_cons_of_pos hKind, List.filter_cons_of_neg (by simp [hKind])]
          exact .left a ih
      | false =>
          rw [List.filter_cons_of_neg (by simp [hKind]), List.filter_cons_of_pos (by simp [hKind])]
          exact .right a ih

/-- The conditions of clauses come from the accepted ones, and the rejections are the others
with their errors. -/
theorem parse_filter_isAccepted (clauses : List (List Char)) :
    (clauses.filter isAccepted).map Clause.parse =
      (clauses.filterMap fun clause => (Clause.parse clause).toOption).map .ok ∧
    clauses.filter (fun clause => !isAccepted clause) =
      (clauses.filterMap rejection?).map RejectedClause.clause := by
  induction clauses with
  | nil => exact ⟨rfl, rfl⟩
  | cons clause clauses ih =>
      cases hParse : Clause.parse clause with
      | ok condition =>
          have hAccepted : isAccepted clause = true := by rw [isAccepted, hParse]; rfl
          simp [hAccepted, rejection?, hParse, Except.toOption, ih]
      | error error =>
          have hAccepted : isAccepted clause = false := by rw [isAccepted, hParse]; rfl
          simp [hAccepted, rejection?, hParse, Except.toOption, ih]

theorem rejection?_eq_some_iff {clause : List Char} {r : RejectedClause} :
    rejection? clause = some r ↔ r.clause = clause ∧ Clause.parse clause = .error r.error := by
  obtain ⟨rejected, error⟩ := r
  unfold rejection?
  split
  · next hParse => simp [hParse]
  · next hParse => simp [hParse, eq_comm]

/-- Submitted alone a rejected clause is all that its report holds. -/
theorem explain_rejected {text : List Char} {r : RejectedClause}
    (h : r ∈ (explain text).rejected) : explain r.clause = ⟨[], [r]⟩ := by
  rw [explain_eq] at h
  obtain ⟨clause, hClause, hRejection⟩ := List.mem_filterMap.mp h
  obtain ⟨rfl, hParse⟩ := rejection?_eq_some_iff.mp hRejection
  rw [explain_eq, parse, splitClauses_of_mem hClause,
    List.filterMap_cons_none (by rw [hParse]; rfl), List.filterMap_cons_some hRejection]
  rfl

/-- The report of a query accounts for every clause exactly once. Its conditions are those of
the plain reading; the clauses they are read from and the rejected ones, merged in their
orders, are the clauses of the text; and a rejected clause submitted alone gives no condition
and that one rejection. -/
theorem explain_accounts (text : List Char) :
    (explain text).conditions = parse text ∧
    (∃ accepted, accepted.map Clause.parse = (explain text).conditions.map .ok ∧
      Interleaving accepted ((explain text).rejected.map RejectedClause.clause)
        (splitClauses text)) ∧
    (explain text).conditions.length + (explain text).rejected.length =
      (splitClauses text).length ∧
    ∀ r ∈ (explain text).rejected, explain r.clause = ⟨[], [r]⟩ := by
  refine ⟨conditions_explain text, ?_, length_explain text, fun r => explain_rejected⟩
  obtain ⟨hAccepted, hRejected⟩ := parse_filter_isAccepted (splitClauses text)
  refine ⟨(splitClauses text).filter isAccepted, ?_, ?_⟩
  · rw [conditions_explain, hAccepted]
    rfl
  · rw [explain_eq, ← hRejected]
    exact interleaving_filter isAccepted _

theorem explain_accounts_mixed :
    let text := "roe > 15 AND price > 3".toList
    let r : RejectedClause := ⟨"price > 3".toList, ⟨.unknownField "price".toList, 0⟩⟩
    r ∈ (explain text).rejected ∧ explain r.clause = ⟨[], [r]⟩ := by
  intro text r
  have hClauses : splitClauses text = ["roe > 15".toList, r.clause] := by decide +kernel
  have hParse : Clause.parse r.clause = .error r.error := by decide +kernel
  have hRejected : r ∈ (explain text).rejected := by
    rw [explain_eq, hClauses]
    refine List.mem_filterMap.mpr ⟨r.clause, ?_, rejection?_eq_some_iff.mpr ⟨rfl, hParse⟩⟩
    exact List.mem_cons_of_mem _ List.mem_cons_self
  exact ⟨hRejected, (explain_accounts text).2.2.2 r hRejected⟩

end EquityScreen.Query
