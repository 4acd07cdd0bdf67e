import EquityScreen.Proofs.AddressRoundTrip

/-! Sessions as people drive them: a state is reached from the empty session or
from any address, by any sequence of actions. Every reached state is one that its
address restores exactly. -/
namespace EquityScreen.ScreenState

/-- What a person can do to a session. -/
inductive Action where
  | submitQuery (query : String)
  | applySearch (term : String)
  | toggleSort (column : Column)
  | withPage (page : Nat)
  | reset
  | reload
deriving DecidableEq, Repr

/-- The pages that can be asked for are the positive 64-bit numbers. -/
def Action.Allowed : Action → Prop
  | withPage page => 1 ≤ page ∧ page < 2 ^ 64
  | _ => True

/-- One action. A reload follows the address of the state itself. -/
def Action.apply (s : ScreenState) : Action → ScreenState
  | submitQuery query => s.submitQuery query
  | applySearch term => s.withTable (s.table.applySearch term)
  | toggleSort column => s.withTable (s.table.toggleSort column)
  | withPage page => s.withTable (s.table.withPage page)
  | reset => s.withTable s.table.reset
  | reload => ofQueryString s.href

/-- The states of all sessions. -/
inductive Reachable : ScreenState → Prop where
  | initial : Reachable .initial
  | address (text : String) : Reachable (ofQueryString text)
  | step {s : ScreenState} (prior : Reachable s) (action : Action) (allowed : action.Allowed) :
      Reachable (action.apply s)

/-- The states that an address can carry: a page number that fits, and a search
without white space around it. -/
structure Addressable (s : ScreenState) : Prop where
  first : 1 ≤ s.table.page
  word : s.table.page < 2 ^ 64
  trimmed : Text.trimString s.table.search = s.table.search

theorem Addressable.ofQueryString_href {s : ScreenState} (h : Addressable s) :
    ofQueryString s.href = s := by
  rw [ScreenState.ofQueryString_href h.first h.word, h.trimmed]
  rfl

theorem Addressable.ofQueryString_queryString {s : ScreenState} (h : Addressable s) :
    ofQueryString s.queryString = s := by
  rw [ScreenState.ofQueryString_queryString h.first h.word, h.trimmed]
  rfl

theorem addressable_initial : Addressable .initial := ⟨by decide, by decide, Text.trimString_empty⟩

/-- Any page parameter stands for a page that fits. -/
theorem pageOfParam_bounds (value : Option String) :
    1 ≤ pageOfParam value ∧ pageOfParam value < 2 ^ 64 := by
  unfold pageOfParam
  split
  · next page hPage =>
      obtain ⟨text, _, hText⟩ := Option.bind_eq_some_iff.mp hPage
      have hWord := word64?_lt hText
      omega
  · decide

theorem addressable_ofParams (params : List (String × String)) : Addressable (ofParams params) where
  first := (pageOfParam_bounds _).1
  word := (pageOfParam_bounds _).2
  trimmed := Text.trimString_trimString _

theorem addressable_ofQueryString (text : String) : Addressable (ofQueryString text) := by
  unfold ofQueryString
  split <;> exact addressable_ofParams _

/-- Every action leads from a state that an address can carry to another one. -/
theorem Addressable.apply {s : ScreenState} (h : Addressable s) (action : Action)
    (allowed : action.Allowed) : Addressable (action.apply s) := by
  have hOne : 1 < 2 ^ 64 := by decide
  cases action with
  | submitQuery query => exact ⟨le_refl 1, hOne, Text.trimString_empty⟩
  | applySearch term => exact ⟨le_refl 1, hOne, Text.trimString_trimString term⟩
  | toggleSort column => exact ⟨le_refl 1, hOne, h.trimmed⟩
  | withPage page => exact ⟨allowed.1, allowed.2, h.trimmed⟩
  | reset => exact ⟨le_refl 1, hOne, Text.trimString_empty⟩
  | reload => exact addressable_ofQueryString _

theorem Reachable.addressable {s : ScreenState} (h : Reachable s) : Addressable s := by
  induction h with
  | initial => exact addressable_initial
  | address text => exact addressable_ofQueryString text
  | step prior action allowed ih => exact ih.apply action allowed

/-- A session survives a reload at any moment, and no two of its states share an
address. -/
theorem reachable_restored {s : ScreenState} (h : Reachable s) :
    1 ≤ s.table.page ∧ Text.trimString s.table.search = s.table.search ∧
    ofQueryString s.href = s ∧ ofQueryString s.queryString = s ∧
    ∀ t, Reachable t → t.href = s.href ∨ t.queryString = s.queryString → t = s := by
  have hState := h.addressable
  refine ⟨hState.first, hState.trimmed, hState.ofQueryString_href,
    hState.ofQueryString_queryString, ?_⟩
  intro t hReach hShared
  have hOther := hReach.addressable
  rcases hShared with hHref | hQuery
  · rw [← hOther.ofQueryString_href, hHref, hState.ofQueryString_href]
  · rw [← hOther.ofQueryString_queryString, hQuery, hState.ofQueryString_queryString]

/-- The last page of all, after a query with a line break and every reserved mark. -/
theorem reachable_restored_last_page :
    let s := Action.apply (Action.apply .initial (.submitQuery "?roe > 1\n& p/e = 2+3%41"))
      (.withPage (2 ^ 64 - 1))
    Reachable s ∧ 1 ≤ s.table.page ∧ Text.trimString s.table.search = s.table.search ∧
    ofQueryString s.href = s ∧ ofQueryString s.queryString = s ∧
    ∀ t, Reachable t → t.href = s.href ∨ t.queryString = s.queryString → t = s := by
  have hAllowed : (Action.withPage (2 ^ 64 - 1)).Allowed := ⟨by decide, by decide⟩
  have hReach := (Reachable.initial.step (.submitQuery "?roe > 1\n& p/e = 2+3%41") trivial).step
    (.withPage (2 ^ 64 - 1)) hAllowed
  exact ⟨hReach, reachable_restored hReach⟩

end EquityScreen.ScreenState
