import EquityScreen.Proofs.SessionReachability
import Mathlib.Data.List.Induction

/-! What is left of a session. The sort depends on the clicks on headers alone: on the column
that was clicked last and on how often it was clicked since another one was. The page
depends on the last action that is no reload. -/
namespace EquityScreen.ScreenState

/-- The state that a session is in after some actions. -/
def Action.run (s : ScreenState) (actions : List Action) : ScreenState :=
  actions.foldl Action.apply s

/-- The column whose header an action clicks on. -/
def Action.clicked? : Action → Option Column
  | toggleSort column => some column
  | _ => none

/-- The columns that were clicked on in a session, other actions left out. -/
def clicks (actions : List Action) : List Column := actions.filterMap Action.clicked?

/-- What a number of clicks on one column come to. -/
def directionAfter (count : Nat) : Option SortDirection :=
  match count % 3 with
  | 1 => some .ascending
  | 2 => some .descending
  | _ => none

/-- The sort that clicks leave. A column that was clicked some times at the end, and not right
before that, is sorted as these clicks say. -/
inductive ClicksLeave : List Column → Option SortConfig → Prop where
  | unclicked : ClicksLeave [] none
  | clicked (before : List Column) (column : Column) (count : Nat) (positive : 0 < count)
      (other : before.getLast? ≠ some column) :
      ClicksLeave (before ++ List.replicate count column)
        ((directionAfter count).map (SortConfig.mk column))

/-- The page that actions leave: one that was asked for last, reloads apart, or the first. -/
def pageAfter (actions : List Action) : Nat :=
  match (actions.filter (· ≠ .reload)).getLast? with
  | some (.withPage page) => page
  | _ => 1

theorem Action.run_append (s : ScreenState) (actions : List Action) (action : Action) :
    run s (actions ++ [action]) = action.apply (run s actions) := List.foldl_append

theorem clicks_append (actions : List Action) (action : Action) :
    clicks (actions ++ [action]) = clicks actions ++ action.clicked?.toList := by
  rw [clicks, List.filterMap_append, clicks]
  cases hClicked : action.clicked? <;> simp [hClicked]

/-- The three stages that a header goes through. -/
theorem directionAfter_succ (count : Nat) :
    directionAfter (count + 1) =
      match directionAfter count with
      | none => some .ascending
      | some .ascending => some .descending
      | some .descending => none := by
  have hNext : (count + 1) % 3 = if count % 3 = 2 then 0 else count % 3 + 1 := by
    split <;> omega
  obtain hStage | hStage | hStage : count % 3 = 0 ∨ count % 3 = 1 ∨ count % 3 = 2 := by omega
  all_goals simp [directionAfter, hNext, hStage]

/-- A click takes the direction of its own column to the next stage. -/
theorem sort_toggleSort {t : TableState} {column : Column} (count : Nat)
    (h : t.sortDirection? column = directionAfter count) :
    (t.toggleSort column).sort = (directionAfter (count + 1)).map (SortConfig.mk column) := by
  rw [directionAfter_succ, ← h, TableState.toggleSort]
  cases t.sortDirection? column with
  | none => rfl
  | some direction => cases direction <;> rfl

theorem sortDirection?_of_sort {t : TableState} {column : Column}
    {direction : Option SortDirection} (h : t.sort = direction.map (SortConfig.mk column)) :
    t.sortDirection? column = direction := by
  rw [TableState.sortDirection?, h]
  cases direction <;> simp

theorem sortDirection?_other {t : TableState} {column other : Column} (hOther : column ≠ other)
    {direction : Option SortDirection} (h : t.sort = direction.map (SortConfig.mk column)) :
    t.sortDirection? other = none := by
  rw [TableState.sortDirection?, h]
  cases direction <;> simp [hOther]

/-- The column of the final clicks is the last one. -/
theorem getLast?_clicks (before : List Column) (column : Column) {count : Nat}
    (positive : 0 < count) : (before ++ List.replicate count column).getLast? = some column := by
  have hSome : List.replicate count column ≠ [] := by
    rw [Ne, List.replicate_eq_nil_iff]
    omega
  rw [List.getLast?_append_of_ne_nil _ hSome, List.getLast?_replicate,
    if_neg (Nat.ne_of_gt positive)]

/-- One more click goes on with the clicks on its column, or begins anew. -/
theorem ClicksLeave.toggleSort {columns : List Column} {t : TableState}
    (h : ClicksLeave columns t.sort) (column : Column) :
    ClicksLeave (columns ++ [column]) (t.toggleSort column).sort := by
  have hFirst (hOther : columns.getLast? ≠ some column)
      (hUnsorted : t.sortDirection? column = none) :
      ClicksLeave (columns ++ [column]) (t.toggleSort column).sort := by
    rw [sort_toggleSort 0 hUnsorted]
    exact .clicked columns column 1 Nat.one_pos hOther
  generalize hSort : t.sort = sort at h
  cases h with
  | unclicked =>
      refine hFirst nofun ?_
      rw [TableState.sortDirection?, hSort]
      rfl
  | clicked before last count positive other =>
      by_cases hSame : last = column
      · subst hSame
        rw [sort_toggleSort count (sortDirection?_of_sort hSort), List.append_assoc,
          ← List.replicate_succ']
        exact .clicked before last (count + 1) (Nat.succ_pos count) other
      · refine hFirst ?_ (sortDirection?_other hSame hSort)
        rw [getLast?_clicks before last positive]
        exact fun h => hSame (Option.some.inj h)

/-- From behind, the clicks on the last column are all that come first. -/
theorem length_final_clicks {before : List Column} {column : Column} (count : Nat)
    (other : before.getLast? ≠ some column) :
    ((before ++ List.replicate count column).reverse.takeWhile (· = column)).length = count := by
  have hStop : before.reverse.takeWhile (· = column) = [] := by
    rw [← List.head?_reverse] at other
    cases hReverse : before.reverse with
    | nil => rfl
    | cons last earlier =>
        rw [hReverse, List.head?_cons] at other
        exact List.takeWhile_cons_of_neg (by simpa using other)
  rw [List.reverse_append, List.reverse_replicate,
    List.takeWhile_append_of_pos (by simp), hStop, List.append_nil, List.length_replicate]

/-- Clicks leave one sort only, since the last column and the number of clicks on it at the end
are those of the whole list. -/
theorem ClicksLeave.unique {columns : List Column} {sort sort' : Option SortConfig}
    (h : ClicksLeave columns sort) (h' : ClicksLeave columns sort') : sort = sort' := by
  cases h with
  | unclicked =>
      generalize hColumns : ([] : List Column) = columns at h'
      cases h' with
      | unclicked => rfl
      | clicked before column count positive other =>
          have hLast := getLast?_clicks before column positive
          rw [← hColumns] at hLast
          cases hLast
  | clicked before column count positive other =>
      have hLast := getLast?_clicks before column positive
      have hCount := length_final_clicks count other
      generalize before ++ List.replicate count column = columns at h' hLast hCount
      cases h' with
      | unclicked => cases hLast
      | clicked before' column' count' positive' other' =>
          rw [getLast?_clicks before' column' positive', Option.some.injEq] at hLast
          subst hLast
          rw [length_final_clicks count' other'] at hCount
          rw [hCount]

/-- An action that is no click leaves the sort as it is. -/
theorem sort_apply {s : ScreenState} (h : Addressable s) {action : Action}
    (hClicked : action.clicked? = none) : (action.apply s).table.sort = s.table.sort := by
  cases action with
  | toggleSort column => cases hClicked
  | reload => exact congrArg (·.table.sort) h.ofQueryString_href
  | submitQuery | applySearch | withPage | reset => rfl

theorem page_apply {s : ScreenState} {actions : List Action} (h : Addressable s)
    (hPage : s.table.page = pageAfter actions) (action : Action) :
    (action.apply s).table.page = pageAfter (actions ++ [action]) := by
  have hLast (hShown : action ≠ .reload) :
      pageAfter (actions ++ [action]) = pageAfter [action] := by
    have hKept : [action].filter (· ≠ .reload) = [action] :=
      List.filter_cons_of_pos (by simpa using hShown)
    simp only [pageAfter, List.filter_append]
    rw [hKept, List.getLast?_concat, List.getLast?_singleton]
  cases action with
  | reload =>
      have hSame : pageAfter (actions ++ [.reload]) = pageAfter actions := by
        simp [pageAfter, List.filter_append]
      rw [hSame, ← hPage]
      exact congrArg (·.table.page) h.ofQueryString_href
  | submitQuery | applySearch | toggleSort | withPage | reset => exact (hLast nofun).symm

theorem clicksLeave_apply {s : ScreenState} {actions : List Action} (h : Addressable s)
    (hSort : ClicksLeave (clicks actions) s.table.sort) (action : Action) :
    ClicksLeave (clicks (actions ++ [action])) (action.apply s).table.sort := by
  rw [clicks_append]
  cases hClicked : action.clicked? with
  | none =>
      rw [sort_apply h hClicked, Option.toList_none, List.append_nil]
      exact hSort
  | some column =>
      cases action with
      | toggleSort =>
          cases hClicked
          exact hSort.toggleSort column
      | submitQuery | applySearch | withPage | reset | reload => cases hClicked

/-- What holds at the start and is kept by every action, in a state that its address restores,
holds after all allowed actions. -/
theorem Action.run_induction {motive : List Action → ScreenState → Prop}
    (start : motive [] .initial)
    (step : ∀ {s actions}, Addressable s → motive actions s →
      ∀ action : Action, motive (actions ++ [action]) (action.apply s))
    {actions : List Action} (allowed : ∀ action ∈ actions, action.Allowed) :
    motive actions (run .initial actions) := by
  suffices h : Addressable (run .initial actions) ∧ motive actions (run .initial actions) from h.2
  induction actions using List.reverseRecOn with
  | nil => exact ⟨addressable_initial, start⟩
  | append_singleton actions action ih =>
      obtain ⟨hBefore, hHere⟩ := List.forall_mem_append.mp allowed
      obtain ⟨hRestored, hSoFar⟩ := ih hBefore
      rw [run_append]
      exact ⟨hRestored.apply action (hHere action List.mem_cons_self), step hRestored hSoFar action⟩

/-- The sort of a session is the one that its clicks leave. -/
theorem clicksLeave_run {actions : List Action} (allowed : ∀ action ∈ actions, action.Allowed) :
    ClicksLeave (clicks actions) (Action.run .initial actions).table.sort :=
  Action.run_induction (motive := fun actions s => ClicksLeave (clicks actions) s.table.sort)
    .unclicked clicksLeave_apply allowed

theorem page_run {actions : List Action} (allowed : ∀ action ∈ actions, action.Allowed) :
    (Action.run .initial actions).table.page = pageAfter actions :=
  Action.run_induction (motive := fun actions s => s.table.page = pageAfter actions)
    rfl page_apply allowed

/-- The sort and the page of a session are told by its actions alone: of the sort by the clicks
on headers, of the page by the last action that is no reload. -/
theorem sort_and_page_by_history {actions : List Action}
    (allowed : ∀ action ∈ actions, action.Allowed) :
    (∀ sort, ClicksLeave (clicks actions) sort ↔
      (Action.run .initial actions).table.sort = sort) ∧
    (Action.run .initial actions).table.page = pageAfter actions := by
  have hSort := clicksLeave_run allowed
  exact ⟨fun sort => ⟨hSort.unique, fun h => h ▸ hSort⟩, page_run allowed⟩

/-- Five clicks with a change of the column between them, and a reload at the last page of all. The
four clicks on one header, with other actions between them, leave it ascending. -/
theorem sort_and_page_by_history_mixed :
    let actions : List Action :=
      [.toggleSort .ticker, .submitQuery "roe > 1", .toggleSort (.metric .roe), .applySearch " a ",
        .toggleSort (.metric .roe), .withPage 3, .toggleSort (.metric .roe), .reset,
        .toggleSort (.metric .roe), .withPage (2 ^ 64 - 1), .reload]
    (∀ action ∈ actions, action.Allowed) ∧
    ClicksLeave (clicks actions) (some ⟨.metric .roe, .ascending⟩) ∧
    pageAfter actions = 2 ^ 64 - 1 ∧
    (∀ sort, ClicksLeave (clicks actions) sort ↔
      (Action.run .initial actions).table.sort = sort) ∧
    (Action.run .initial actions).table.page = pageAfter actions := by
  intro actions
  have hAllowed : ∀ action ∈ actions, action.Allowed := by
    simp only [actions, List.forall_mem_cons]
    refine ⟨trivial, trivial, trivial, trivial, trivial, ⟨by decide, by decide⟩, trivial, trivial,
      trivial, ⟨by decide, by decide⟩, trivial, by simp⟩
  have hLeave : ClicksLeave (clicks actions) (some ⟨.metric .roe, .ascending⟩) :=
    .clicked [.ticker] (.metric .roe) 4 (by decide) (by decide)
  exact ⟨hAllowed, hLeave, rfl, sort_and_page_by_history hAllowed⟩

end EquityScreen.ScreenState
