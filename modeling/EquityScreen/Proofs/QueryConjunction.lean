import EquityScreen.Screen
import EquityScreen.Proofs.Separators
import Mathlib.Data.List.Basic

/-! Joining two queries asks for both. On the side of the text the conditions of the
parts follow one another; on the side of the stocks a row passes if it passes each
part, and the order of the parts or a part said twice makes no difference. -/
namespace EquityScreen

/-- Conditions of joined texts; clauses that cannot be read are dropped in either
part and do not matter to the other. -/
theorem Query.parse_join {j : List Char} (hJoin : Joins j) (first second : List Char) :
    parse (first ++ j ++ second) = parse first ++ parse second := by
  rw [parse, splitClauses_join hJoin, List.filterMap_append]
  rfl

theorem matchesAll_append (first second : List Condition) (s : Stock) :
    matchesAll (first ++ second) s = (matchesAll first s && matchesAll second s) :=
  List.all_append

/-- A query that states a condition selects what the filter keeps. -/
theorem stocks_screen {query : List Char} (hQuery : Query.parse query ≠ []) (stocks : List Stock) :
    (screen stocks query).stocks = stocks.filter (matchesAll (Query.parse query)) := by
  have hSome : (Query.parse query).isEmpty = false := List.isEmpty_eq_false_iff.mpr hQuery
  unfold screen
  dsimp only
  rw [hSome, if_neg Bool.false_ne_true]
  split
  · next hNone => exact hNone.symm
  · rfl

theorem mem_stocks_screen {query : List Char} (hQuery : Query.parse query ≠ [])
    {stocks : List Stock} {s : Stock} :
    s ∈ (screen stocks query).stocks ↔ s ∈ stocks ∧ matchesAll (Query.parse query) s = true := by
  rw [stocks_screen hQuery, List.mem_filter]

/-- Where two values stand to each other in numeric order, the two zeros as one. -/
def Operator.Compares : Operator → Binary64 → Binary64 → Prop
  | greater, x, y => y.numericKey < x.numericKey
  | less, x, y => x.numericKey < y.numericKey
  | equal, x, y => x.numericKey = y.numericKey

theorem Operator.compares_of_holds {op : Operator} {x y : Binary64}
    (h : op.holds x y = true) : x.isNaN = false ∧ op.Compares x y := by
  cases op <;>
    simp only [holds, Binary64.less, Binary64.same, Bool.and_eq_true, Bool.not_eq_true',
      decide_eq_true_eq] at h <;>
    simp only [Compares, h, and_self]

/-- A condition that holds has a number to hold of. -/
theorem Condition.exists_of_holds {c : Condition} {s : Stock} (h : c.holds s = true) :
    ∃ x, s.metric c.field = some x ∧ x.isNaN = false ∧ c.operator.Compares x c.value := by
  unfold Condition.holds at h
  split at h
  · next x hMetric => exact ⟨x, hMetric, Operator.compares_of_holds h⟩
  · cases h

/-- Every row that a query selects has a number for each condition to hold of. -/
theorem exists_of_mem_stocks_screen {query : List Char} {stocks : List Stock} {s : Stock}
    (hs : s ∈ (screen stocks query).stocks) {c : Condition} (hc : c ∈ Query.parse query) :
    ∃ x, s.metric c.field = some x ∧ x.isNaN = false ∧ c.operator.Compares x c.value := by
  have hSelected := (mem_stocks_screen (List.ne_nil_of_mem hc)).mp hs
  exact Condition.exists_of_holds (List.all_eq_true.mp hSelected.2 c hc)

/-- The rows selected by joined queries, in terms of the two filters. A part that states
no condition lets every row pass, so it is enough that one part states one. -/
theorem stocks_screen_join {j first second : List Char} (hJoin : Query.Joins j)
    (hSome : Query.parse first ++ Query.parse second ≠ []) (stocks : List Stock) :
    (screen stocks (first ++ j ++ second)).stocks = stocks.filter fun s =>
      matchesAll (Query.parse first) s && matchesAll (Query.parse second) s := by
  have hParse := Query.parse_join hJoin first second
  have hJoined : Query.parse (first ++ j ++ second) ≠ [] := by
    rwa [hParse]
  rw [stocks_screen hJoined, hParse]
  exact List.filter_congr fun s _ => matchesAll_append _ _ s

/-- A text joined on either side only takes rows away. -/
theorem stocks_screen_join_sublist {j query : List Char} (hJoin : Query.Joins j)
    (hQuery : Query.parse query ≠ []) (stocks : List Stock) (further : List Char) :
    ((screen stocks (query ++ j ++ further)).stocks.Sublist (screen stocks query).stocks) ∧
    ((screen stocks (further ++ j ++ query)).stocks.Sublist (screen stocks query).stocks) := by
  have hAfter := List.append_ne_nil_of_left_ne_nil hQuery (Query.parse further)
  have hBefore := List.append_ne_nil_of_right_ne_nil (Query.parse further) hQuery
  rw [stocks_screen_join hJoin hAfter, stocks_screen_join hJoin hBefore, stocks_screen hQuery]
  constructor
  · refine List.monotone_filter_right stocks fun s hs => ?_
    exact (Bool.and_eq_true_iff.mp hs).1
  · refine List.monotone_filter_right stocks fun s hs => ?_
    exact (Bool.and_eq_true_iff.mp hs).2

open scoped Classical in
/-- Joined queries select the rows that both select, each row of the source at most
once and in its place. Hence order and repetition of the parts do not matter, and a
further part only takes rows away. -/
theorem joined_selects_both {j first second : List Char} (hJoin : Query.Joins j)
    (hFirst : Query.parse first ≠ []) (hSecond : Query.parse second ≠ []) (stocks : List Stock) :
    Query.parse (first ++ j ++ second) = Query.parse first ++ Query.parse second ∧
    (screen stocks (first ++ j ++ second)).stocks = stocks.filter (fun s =>
      s ∈ (screen stocks first).stocks ∧ s ∈ (screen stocks second).stocks) ∧
    (screen stocks (second ++ j ++ first)).stocks =
      (screen stocks (first ++ j ++ second)).stocks ∧
    (screen stocks (first ++ j ++ first)).stocks = (screen stocks first).stocks ∧
    (∀ further,
      ((screen stocks (first ++ j ++ further)).stocks.Sublist (screen stocks first).stocks) ∧
      ((screen stocks (further ++ j ++ first)).stocks.Sublist (screen stocks first).stocks)) ∧
    ∀ query, ∀ s ∈ (screen stocks query).stocks, ∀ c ∈ Query.parse query,
      ∃ x, s.metric c.field = some x ∧ x.isNaN = false ∧ c.operator.Compares x c.value := by
  have hJoined := stocks_screen_join hJoin
    (List.append_ne_nil_of_left_ne_nil hFirst (Query.parse second)) stocks
  refine ⟨Query.parse_join hJoin first second, ?_, ?_, ?_, ?_, ?_⟩
  · rw [hJoined]
    refine List.filter_congr fun s hs => ?_
    simp only [mem_stocks_screen hFirst, mem_stocks_screen hSecond, hs, true_and,
      Bool.decide_and, Bool.decide_eq_true]
  · have hSwapped := List.append_ne_nil_of_left_ne_nil hSecond (Query.parse first)
    rw [hJoined, stocks_screen_join hJoin hSwapped]
    exact List.filter_congr fun s _ => Bool.and_comm _ _
  · have hTwice := List.append_ne_nil_of_left_ne_nil hFirst (Query.parse first)
    rw [stocks_screen_join hJoin hTwice, stocks_screen hFirst]
    exact List.filter_congr fun s _ => Bool.and_self _
  · exact fun further => stocks_screen_join_sublist hJoin hFirst stocks further
  · exact fun query s hs c hc => exists_of_mem_stocks_screen hs hc

open scoped Classical in
/-- The word in mixed case, and a part with a clause that cannot be read. -/
theorem joined_selects_both_malformed :
    let first := "roe > 1".toList
    let second := "p/e ratio < 20\nprice".toList
    let j := " aNd ".toList
    Query.Joins j ∧ Query.parse first ≠ [] ∧ Query.parse second ≠ [] ∧
    ∀ stocks : List Stock,
      Query.parse (first ++ j ++ second) = Query.parse first ++ Query.parse second ∧
      (screen stocks (first ++ j ++ second)).stocks = stocks.filter (fun s =>
        s ∈ (screen stocks first).stocks ∧ s ∈ (screen stocks second).stocks) ∧
      (screen stocks (second ++ j ++ first)).stocks =
        (screen stocks (first ++ j ++ second)).stocks := by
  have hJoin : Query.Joins " aNd ".toList := Query.Joins.word (by decide)
  have hFirst : Query.parse "roe > 1".toList ≠ [] := by decide +kernel
  have hSecond : Query.parse "p/e ratio < 20\nprice".toList ≠ [] := by decide +kernel
  refine ⟨hJoin, hFirst, hSecond, fun stocks => ?_⟩
  obtain ⟨hParse, hBoth, hSwap, _⟩ := joined_selects_both hJoin hFirst hSecond stocks
  exact ⟨hParse, hBoth, hSwap⟩

end EquityScreen
