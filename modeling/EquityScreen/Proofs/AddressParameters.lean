import EquityScreen.Proofs.AddressRoundTrip
import Mathlib.Data.List.Nodup

/-! The parameters of an address. Reading goes through the pairs of an address once and puts each
value into the slot of its name, if there is one and it is still empty. What one pair does to the
slots tells which changes of an address leave the state as it is, and which part of the state the
value of a parameter can reach. -/
namespace EquityScreen.ScreenState

/-- What an address can say about a state. -/
inductive Parameter where
  | query
  | sortKey
  | sortDirection
  | page
  | search

namespace Parameter

def name : Parameter → String
  | query => queryParam
  | sortKey => sortKeyParam
  | sortDirection => sortDirectionParam
  | page => pageParam
  | search => searchParam

end Parameter

/-- The values that have been read. -/
abbrev Slots := Parameter → Option String

namespace Slots

def empty : Slots := fun _ => none

/-- Take a pair: its value goes into the slot of its name, unless that is filled. -/
def fill (slots : Slots) (pair : String × String) : Slots := fun p =>
  (slots p).or (if p.name = pair.1 then some pair.2 else none)

/-- The state that the values stand for. -/
def state (slots : Slots) : ScreenState where
  query := (slots .query).getD ""
  table :=
    { sort := sortOfParams (slots .sortKey) (slots .sortDirection)
      page := pageOfParam (slots .page)
      search := Text.trimString ((slots .search).getD "") }

variable {slots : Slots}

/-! What one pair does. -/

theorem fill_unknown {name : String} (h : ∀ p : Parameter, p.name ≠ name) (value : String) :
    slots.fill (name, value) = slots := by
  funext p
  rw [fill, if_neg (h p), Option.or_none]

theorem fill_filled {name : String} (h : ∀ p : Parameter, p.name = name → slots p ≠ none)
    (value : String) : slots.fill (name, value) = slots := by
  funext p
  rw [fill]
  split
  · next hName => exact Option.or_of_isSome (Option.isSome_iff_ne_none.mpr (h p hName))
  · exact Option.or_none

theorem fill_comm {first second : String × String} (h : first.1 ≠ second.1) :
    (slots.fill first).fill second = (slots.fill second).fill first := by
  funext p
  simp only [fill, Option.or_assoc]
  by_cases hFirst : p.name = first.1
  · rw [if_pos hFirst, if_neg (hFirst ▸ h), Option.or_none, Option.none_or]
  · rw [if_neg hFirst, Option.none_or, Option.or_none]

/-- What all pairs do: an empty slot takes the first value of its name. -/
theorem foldl_fill (pairs : List (String × String)) (p : Parameter) :
    pairs.foldl fill slots p = (slots p).or (pairs.lookup p.name) := by
  induction pairs generalizing slots with
  | nil => rw [List.foldl_nil, List.lookup_nil, Option.or_none]
  | cons pair pairs ih =>
      rw [List.foldl_cons, ih, fill, List.lookup_cons, Option.or_assoc]
      by_cases hName : p.name = pair.1
      · rw [if_pos hName, beq_iff_eq.mpr hName, Option.some_or]
      · rw [if_neg hName, beq_false_of_ne hName, Option.none_or]

end Slots

/-- Reading an address is taking its pairs one after another. -/
theorem ofParams_eq_state (pairs : List (String × String)) :
    ofParams pairs = (pairs.foldl Slots.fill Slots.empty).state := by
  simp only [Slots.state, Slots.foldl_fill, Slots.empty, Option.none_or, Parameter.name]
  rfl

/-- The state that an address made of encoded pairs restores. -/
def ofEncoded (pairs : List (String × String)) : ScreenState :=
  ofQueryString (String.ofList (Form.serialize pairs))

theorem ofEncoded_eq_state (pairs : List (String × String)) :
    ofEncoded pairs = (pairs.foldl Slots.fill Slots.empty).state := by
  rw [ofEncoded, ofQueryString_serialize, ofParams_eq_state]

/-- A question mark in front of any other text is passed over. -/
theorem ofQueryString_question_text {text : String} (h : text.toList.head? ≠ some '?') :
    ofQueryString ("?" ++ text) = ofQueryString text := by
  have hText : ("?" ++ text).toList = '?' :: text.toList := by
    rw [String.toList_append]
    rfl
  have hBehind : ofQueryString ("?" ++ text) = ofParams (Form.parse text.toList) := by
    unfold ofQueryString
    rw [hText]
    rfl
  have hPlain : ofQueryString text = ofParams (Form.parse text.toList) := by
    unfold ofQueryString
    split
    · next hChars => exact absurd (by rw [hChars, List.head?_cons]) h
    · rfl
  rw [hBehind, hPlain]

variable {front back : List (String × String)}

/-- A pair that does nothing to the slots behind the pairs in front of it does nothing. -/
theorem ofEncoded_insert {pair : String × String}
    (h : (front.foldl Slots.fill Slots.empty).fill pair = front.foldl Slots.fill Slots.empty) :
    ofEncoded (front ++ pair :: back) = ofEncoded (front ++ back) := by
  rw [ofEncoded_eq_state, ofEncoded_eq_state, List.foldl_append, List.foldl_cons, h,
    List.foldl_append]

/-- The slot of a name is filled behind a pair of the name. -/
theorem slot_filled {p : Parameter} (h : p.name ∈ front.map Prod.fst) :
    front.foldl Slots.fill Slots.empty p ≠ none := by
  obtain ⟨pair, hPair, hName⟩ := List.mem_map.mp h
  rw [Slots.foldl_fill, Slots.empty, Option.none_or]
  intro hNone
  have hOther := List.lookup_eq_none_iff.mp hNone pair hPair
  rw [hName, bne_self_eq_false] at hOther
  cases hOther

/-- Pairs of different names may change places. -/
theorem ofEncoded_perm {pairs others : List (String × String)} (hPerm : pairs.Perm others)
    (hNames : (pairs.map Prod.fst).Nodup) :
    ofEncoded (front ++ (pairs ++ back)) = ofEncoded (front ++ (others ++ back)) := by
  have hSlots (slots : Slots) : pairs.foldl Slots.fill slots = others.foldl Slots.fill slots := by
    refine hPerm.foldl_eq' (fun first hFirst second hSecond slots => ?_) slots
    by_cases hName : first.1 = second.1
    · rw [List.inj_on_of_nodup_map hNames hFirst hSecond hName]
    · exact Slots.fill_comm hName
  simp only [ofEncoded_eq_state, List.foldl_append, hSlots]

variable (front back) in
/-- The value of a pair can only reach the slot of its name. -/
theorem slot_change {name : String} {p : Parameter} (h : p.name ≠ name) (value other : String) :
    (front ++ (name, value) :: back).foldl Slots.fill Slots.empty p =
      (front ++ (name, other) :: back).foldl Slots.fill Slots.empty p := by
  simp only [Slots.foldl_fill, List.lookup_append, List.lookup_cons, beq_false_of_ne h]

/-- Parameters of an address do not interfere, and the first of each name counts. Pairs of other
names may be put anywhere, pairs of a name anywhere behind a pair of that name, pairs of different
names may change places, and a question mark may stand in front. A new value for one pair changes
no part of the state but its own. -/
theorem parameters_independent (front back : List (String × String)) :
    (∀ name value, (∀ p : Parameter, p.name ≠ name) →
      ofEncoded (front ++ (name, value) :: back) = ofEncoded (front ++ back)) ∧
    (∀ name value, name ∈ front.map Prod.fst →
      ofEncoded (front ++ (name, value) :: back) = ofEncoded (front ++ back)) ∧
    (∀ pairs others, pairs.Perm others → (pairs.map Prod.fst).Nodup →
      ofEncoded (front ++ (pairs ++ back)) = ofEncoded (front ++ (others ++ back))) ∧
    ofQueryString ("?" ++ String.ofList (Form.serialize (front ++ back))) =
      ofEncoded (front ++ back) ∧
    (∀ text : String, text.toList.head? ≠ some '?' →
      ofQueryString ("?" ++ text) = ofQueryString text) ∧
    ∀ name value other,
      let s := ofEncoded (front ++ (name, value) :: back)
      let t := ofEncoded (front ++ (name, other) :: back)
      (name ≠ queryParam → s.query = t.query) ∧
      (name ≠ pageParam → s.table.page = t.table.page) ∧
      (name ≠ searchParam → s.table.search = t.table.search) ∧
      (name ≠ sortKeyParam → name ≠ sortDirectionParam → s.table.sort = t.table.sort) := by
  refine ⟨fun name value hUnknown => ?_, fun name value hEarlier => ?_,
    fun _ _ hPerm hNames => ofEncoded_perm hPerm hNames, ?_,
    fun _ => ofQueryString_question_text, fun name value other => ?_⟩
  · exact ofEncoded_insert (Slots.fill_unknown hUnknown value)
  · exact ofEncoded_insert (Slots.fill_filled (fun p hName => slot_filled (hName ▸ hEarlier)) value)
  · exact ofQueryString_question_text (by
      rw [String.toList_ofList]
      exact Form.head?_serialize_ne_question _)
  · have hSlot (p : Parameter) (h : name ≠ p.name) := slot_change front back h.symm value other
    simp only [ofEncoded_eq_state, Slots.state]
    refine ⟨fun hQuery => ?_, fun hPage => ?_, fun hSearch => ?_, fun hKey hDirection => ?_⟩
    · rw [hSlot .query hQuery]
    · rw [hSlot .page hPage]
    · rw [hSlot .search hSearch]
    · rw [hSlot .sortKey hKey, hSlot .sortDirection hDirection]

/-- A page number that makes no sense keeps the later ones out. -/
theorem parameters_independent_invalid :
    (∀ p : Parameter, p.name ≠ "Page") ∧ "page" ∈ [("page", "0")].map Prod.fst ∧
    ofEncoded [("page", "0"), ("Page", "7"), ("search", " a ")] =
      ofEncoded [("page", "0"), ("search", " a ")] ∧
    ofEncoded [("page", "0"), ("page", "7"), ("search", " a ")] =
      ofEncoded [("page", "0"), ("search", " a ")] ∧
    ofEncoded [("page", "0"), ("search", " a "), ("query", "&=?")] =
      ofEncoded [("page", "0"), ("query", "&=?"), ("search", " a ")] ∧
    ofQueryString ("?" ++ "page=%30") = ofQueryString "page=%30" ∧
    (ofEncoded [("page", "0"), ("search", " a ")]).table.search =
      (ofEncoded [("page", "7"), ("search", " a ")]).table.search := by
  obtain ⟨hUnknown, hLater, hPerm, -, hQuestion, -⟩ :=
    parameters_independent [("page", "0")] [("search", " a ")]
  have hChange := (parameters_independent [] [("search", " a ")]).2.2.2.2.2 "page" "0" "7"
  have hName : ∀ p : Parameter, p.name ≠ "Page" := by
    intro p
    cases p <;> decide
  have hSwap := (parameters_independent [("page", "0")] []).2.2.1
    [("search", " a "), ("query", "&=?")] [("query", "&=?"), ("search", " a ")]
    (.swap _ _ _) (by decide)
  exact ⟨hName, by decide, hUnknown "Page" "7" hName, hLater "page" "7" (by decide), hSwap,
    hQuestion "page=%30" (by decide), hChange.2.2.1 (by decide)⟩

end EquityScreen.ScreenState
