import EquityScreen.Proofs.FormRoundTrip
import EquityScreen.Proofs.PageNumerals

/-! Following the address of a state restores the state. Reading trims the ticker
search and caps nothing else, so what comes back is the state with a trimmed
search; a state whose search is trimmed comes back as it is. -/
namespace EquityScreen

theorem Metric.ofIdentifier?_identifier (m : Metric) :
    Metric.ofIdentifier? m.identifier = some m := by
  cases m <;> decide

theorem Column.ofIdentifier?_identifier (c : Column) :
    Column.ofIdentifier? c.identifier = some c := by
  cases c with
  | ticker => rfl
  | metric m => cases m <;> decide

theorem SortDirection.ofIdentifier?_identifier (d : SortDirection) :
    SortDirection.ofIdentifier? d.identifier = some d := by
  cases d <;> decide

namespace ScreenState

/-- An address made of encoded pairs is read pair by pair. -/
theorem ofQueryString_serialize (pairs : List (String × String)) :
    ofQueryString (String.ofList (Form.serialize pairs)) = ofParams pairs := by
  unfold ofQueryString
  rw [String.toList_ofList]
  split
  · next rest hText =>
      exact absurd (by rw [hText]; rfl) (Form.head?_serialize_ne_question pairs)
  · rw [Form.parse_serialize]

/-- One question mark in front of the pairs is passed over. -/
theorem ofQueryString_question (pairs : List (String × String)) :
    ofQueryString ("?" ++ String.ofList (Form.serialize pairs)) = ofParams pairs := by
  have hText : ("?" ++ String.ofList (Form.serialize pairs)).toList =
      '?' :: Form.serialize pairs := by
    simp only [String.toList_append, String.toList_ofList]
    rfl
  unfold ofQueryString
  rw [hText]
  exact congrArg ofParams (Form.parse_serialize pairs)

/-- The sort is looked up under its two names and nowhere else. -/
theorem lookup_sortFields_other (s : ScreenState) (name : String) (hKey : name ≠ sortKeyParam)
    (hDirection : name ≠ sortDirectionParam) : s.sortFields.lookup name = none := by
  unfold sortFields
  cases s.table.sort with
  | none => rfl
  | some sort =>
      simp [List.lookup_cons, beq_eq_false_iff_ne.mpr hKey, beq_eq_false_iff_ne.mpr hDirection]

theorem sortOfParams_sortFields (s : ScreenState) :
    sortOfParams (s.sortFields.lookup sortKeyParam) (s.sortFields.lookup sortDirectionParam) =
      s.table.sort := by
  unfold sortFields
  cases s.table.sort with
  | none => rfl
  | some sort =>
      have hOther : (sortDirectionParam == sortKeyParam) = false := by decide
      simp only [List.lookup_cons, beq_self_eq_true, hOther, sortOfParams, Option.bind_some,
        Column.ofIdentifier?_identifier, SortDirection.ofIdentifier?_identifier]

theorem pageOfParam_toString {page : Nat} (hFirst : 1 ≤ page) (hWord : page < 2 ^ 64) :
    pageOfParam (some (toString page)) = page := by
  rw [pageOfParam, Option.bind_some, trim_toString, word64?_toString hWord]
  exact Nat.max_eq_left hFirst

/-- The parameters of a state, looked up by name. -/
theorem lookup_params (s : ScreenState) :
    s.params.lookup queryParam = (if s.query.isEmpty then none else some s.query) ∧
    s.params.lookup pageParam = some (toString s.table.page) ∧
    s.params.lookup searchParam =
      (if s.table.search.isEmpty then none else some s.table.search) ∧
    s.params.lookup sortKeyParam = s.sortFields.lookup sortKeyParam ∧
    s.params.lookup sortDirectionParam = s.sortFields.lookup sortDirectionParam := by
  have hQuery := s.lookup_sortFields_other queryParam (by decide) (by decide)
  have hSearch := s.lookup_sortFields_other searchParam (by decide) (by decide)
  unfold params
  simp only [List.lookup_append, hQuery, hSearch]
  split_ifs <;> simp [queryParam, pageParam, searchParam, sortKeyParam, sortDirectionParam]

theorem getD_eq_of_isEmpty (text : String) :
    (if text.isEmpty then none else some text).getD "" = text := by
  split_ifs with h
  · exact (String.isEmpty_iff.mp h).symm
  · rfl

/-- Reading an address: only the search can differ, by the white space around it. -/
theorem ofParams_params {s : ScreenState} (hFirst : 1 ≤ s.table.page)
    (hWord : s.table.page < 2 ^ 64) :
    ofParams s.params =
      s.withTable { s.table with search := Text.trimString s.table.search } := by
  obtain ⟨hQuery, hPage, hSearch, hKey, hDirection⟩ := s.lookup_params
  rw [ofParams, hQuery, hPage, hSearch, hKey, hDirection, getD_eq_of_isEmpty, getD_eq_of_isEmpty,
    sortOfParams_sortFields, pageOfParam_toString hFirst hWord]
  rfl

theorem ofQueryString_queryString {s : ScreenState} (hFirst : 1 ≤ s.table.page)
    (hWord : s.table.page < 2 ^ 64) :
    ofQueryString s.queryString =
      s.withTable { s.table with search := Text.trimString s.table.search } := by
  rw [queryString, ofQueryString_serialize, ofParams_params hFirst hWord]

theorem ofQueryString_href {s : ScreenState} (hFirst : 1 ≤ s.table.page)
    (hWord : s.table.page < 2 ^ 64) :
    ofQueryString s.href =
      s.withTable { s.table with search := Text.trimString s.table.search } := by
  rw [href, queryString, ofQueryString_question, ofParams_params hFirst hWord]

end ScreenState

end EquityScreen
