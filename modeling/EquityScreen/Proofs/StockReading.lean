import EquityScreen.Source.Load
import EquityScreen.Proofs.AddressRoundTrip
import EquityScreen.Proofs.FiniteMetrics
import EquityScreen.Proofs.JsonLayout

/-! Stocks in JSON are read from every written form of them as objects: the members stand in
any order, a member that is no number may be missing, and white space may stand anywhere. -/
namespace EquityScreen

namespace Json

theorem value_append {blank : List Char} (h : AllBlank blank) (depth : Nat) (cs : List Char) :
    value depth (blank ++ cs) = value depth cs := by
  unfold value
  rw [skipBlanks_append h]

/-- A string is read where one is expected. -/
theorem string_text {s text : List Char} (hText : StringForm s text) {blank : List Char}
    (hBlank : AllBlank blank) (expected : String) (rest : List Char) :
    string expected (blank ++ (text ++ rest)) = .ok (s, rest) := by
  obtain ⟨body, rfl, hBody⟩ := hText.exists_body
  rw [string, skipBlanks_append hBlank]
  exact hBody rest

/-- A minus sign or a digit starts a number. -/
theorem value_of_number {c : Char} (hStart : c = '-' ∨ c.isDigit = true) (tail : List Char)
    (depth : Nat) :
    value depth (c :: tail) = number (c :: tail) >>= fun (n, rest) => .ok (.number n, rest) := by
  have hHead : isBlank c = false := by
    rcases hStart with rfl | hDigit
    · rfl
    · exact isBlank_of_isDigit hDigit
  have hOther {d : Char} {text : List Char} (hText : c :: tail = d :: text)
      (hStop : d ≠ '-' ∧ d.isDigit = false) : False := by
    obtain rfl := (List.cons.inj hText).1
    rcases hStart with hMinus | hDigit
    · exact hStop.1 hMinus
    · rw [hStop.2] at hDigit
      cases hDigit
  unfold value
  rw [skipBlanks_of_head hHead]
  split
  case h_1 hText => cases hText
  case h_2 hText => exact (hOther hText (by decide)).elim
  case h_3 hText => exact (hOther hText (by decide)).elim
  case h_4 hText => exact (hOther hText (by decide)).elim
  case h_5 hText => exact (hOther hText (by decide)).elim
  case h_6 hText => exact (hOther hText (by decide)).elim
  case h_7 hText => exact (hOther hText (by decide)).elim
  case h_8 hText =>
    obtain ⟨rfl, rfl⟩ := List.cons.inj hText
    rw [if_pos hStart]

/-- A number is read as a value. -/
theorem value_number {cs rest : List Char} {n : Number} (h : number cs = .ok (n, rest))
    (depth : Nat) : value depth cs = .ok (.number n, rest) := by
  obtain ⟨c, tail, rfl, hStart⟩ := head_of_number h
  rw [value_of_number hStart, h]
  rfl

/-- The text is read as a value that is the given number, or that is no number. -/
def ReadsNumber (x : Option Binary64) (text : List Char) : Prop :=
  ∀ depth rest, EndsNumber rest → ∃ v, value depth (text ++ rest) = .ok (v, rest) ∧ v.number? = x

theorem value_string {s text : List Char} (h : StringForm s text) (depth : Nat)
    (rest : List Char) : value depth (text ++ rest) = .ok (.string s, rest) := by
  obtain ⟨body, rfl, hBody⟩ := h.exists_body
  have hText : skipBlanks ('"' :: body ++ rest) = '"' :: (body ++ rest) := rfl
  unfold value
  rw [hText]
  simp only [hBody, bind, Except.bind]

/-- The written forms of null, of truth values and of strings. -/
inductive OtherForm : List Char → Prop
  | null : OtherForm "null".toList
  | truth : OtherForm "true".toList
  | falsity : OtherForm "false".toList
  | string {s text : List Char} (h : StringForm s text) : OtherForm text

theorem OtherForm.readsNumber {text : List Char} (h : OtherForm text) : ReadsNumber none text := by
  intro depth rest _
  cases h with
  | null => exact ⟨.null, by unfold value; rfl, rfl⟩
  | truth => exact ⟨.boolean true, by unfold value; rfl, rfl⟩
  | falsity => exact ⟨.boolean false, by unfold value; rfl, rfl⟩
  | string h => exact ⟨_, value_string h depth rest, rfl⟩

theorem Literal.readsNumber {l : Literal} (hRange : l.InRange) (hFinite : l.value.isFinite = true) :
    ReadsNumber (some l.value) l.text := by
  intro depth rest hRest
  obtain ⟨n, hNumber, hValue⟩ := l.number_text hRange hFinite hRest
  exact ⟨.number n, value_number hNumber depth, congrArg some hValue⟩

end Json

open Json

namespace Stock

/-! Records and lists of records, given what their members and elements are read as. -/

/-- The stock of a draft with all members of a record in it. -/
def Draft.stock? (draft : Draft) : Option Stock :=
  draft.ticker.map fun ticker => ofDraft ticker draft

/-- A record is read member by member. -/
theorem readJson_members {α : Type} {name : α → List Char} {value : α → List Char → Prop}
    (account : List α → Option Draft) {items : List α} {text : List Char}
    (h : EnclosedForm (fun a => MemberForm (name a) (value a)) '\x7b' '\x7d' items text)
    (hStart : account [] = some Draft.empty)
    (hStep : ∀ front a back, items = front ++ a :: back →
      ∀ blank gap text, AllBlank blank → AllBlank gap → value a text → ∀ rest, EndsNumber rest →
        ((account front).bind fun draft =>
          (readMember (name a) draft (blank ++ ':' :: (gap ++ (text ++ rest)))).toOption) =
            (account (front ++ [a])).map fun draft => (draft, rest))
    (rest : List Char) :
    (readJson (text ++ rest)).toOption =
      ((account items).bind Draft.stock?).map fun s => (s, rest) := by
  obtain ⟨body, rfl, hMembers⟩ := members_account readMember account h hStep
  obtain ⟨blank, hBlank, hRead⟩ := hMembers rest
  rw [hStart, Option.bind_some] at hRead
  have hObject : readJson ('\x7b' :: body ++ rest) = readObject (body ++ rest) := rfl
  rw [hObject, readObject, toOption_bind, hRead]
  cases account items with
  | none => rfl
  | some draft =>
      simp only [Option.map_some, Option.bind_some, Draft.stock?]
      cases draft.ticker with
      | none => exact toOption_eq_none (errorAtClose_ne_ok _ _ _)
      | some ticker =>
          simp only [closeObject_append hBlank, bind, Except.bind]
          rfl

/-- A list of records is read record by record. -/
theorem listOfJson_elements {α : Type} {item : α → List Char → Prop} (meaning : α → Option Stock)
    {items : List α} {text : List Char} (h : EnclosedForm item '[' ']' items text)
    (hStart : ∀ a text, item a text → ∃ tail, text = '\x7b' :: tail)
    (hRead : ∀ a ∈ items, ∀ text, item a text → ∀ rest,
      (readJson (text ++ rest)).toOption = (meaning a).map fun s => (s, rest))
    {before after : List Char} (hBefore : AllBlank before) (hAfter : AllBlank after) :
    (listOfJson (before ++ (text ++ after))).toOption = items.mapM meaning := by
  have hHead : ∀ a text, item a text →
      ∃ c tail, text = c :: tail ∧ isBlank c = false ∧ c ≠ ']' := by
    intro a text hItem
    obtain ⟨tail, rfl⟩ := hStart a text hItem
    exact ⟨_, tail, rfl, rfl, by decide⟩
  obtain ⟨body, rfl, hElements⟩ := elements_collect hHead h fun a ha text hItem rest _ =>
    hRead a ha text hItem rest
  have hEnd : skipBlanks after = [] := by
    have hNothing := skipBlanks_append hAfter []
    rwa [List.append_nil] at hNothing
  have hList : (readList (before ++ ('[' :: body ++ after))).toOption =
      (items.mapM meaning).map fun stocks => (stocks, after) := by
    rw [readList, skipBlanks_append hBefore]
    change (elements _ [] (body ++ after) >>= _).toOption = _
    rw [toOption_bind, hElements]
    cases items.mapM meaning with
    | none => rfl
    | some stocks => exact congrArg (fun stocks => some (stocks, after)) stocks.reverse_reverse
  rw [listOfJson, readAll, toOption_bind, hList]
  cases items.mapM meaning with
  | none => rfl
  | some stocks =>
      simp only [Option.map_some, Option.bind_some, hEnd]
      rfl

/-! The draft of a stock after some of its members. -/

/-- The metrics among columns, with the values that the stock has there. -/
def entries (s : Stock) (columns : List Column) : List (Metric × Option Binary64) :=
  columns.filterMap fun
    | .ticker => none
    | .metric m => some (m, s.metric m)

/-- What is known of the stock once the columns have been read. -/
def draftOf (s : Stock) (columns : List Column) : Draft :=
  ⟨if .ticker ∈ columns then some s.ticker else none, (s.entries columns).reverse⟩

theorem mem_entries {s : Stock} {columns : List Column} {entry : Metric × Option Binary64} :
    entry ∈ s.entries columns ↔ .metric entry.1 ∈ columns ∧ entry.2 = s.metric entry.1 := by
  obtain ⟨m, x⟩ := entry
  simp only [entries, List.mem_filterMap]
  constructor
  · rintro ⟨c, hColumn, hEntry⟩
    cases c with
    | ticker => cases hEntry
    | metric =>
        cases hEntry
        exact ⟨hColumn, rfl⟩
  · rintro ⟨hColumn, rfl⟩
    exact ⟨_, hColumn, rfl⟩

/-- The written forms of what a stock has in a column. -/
def CellForm (s : Stock) : Column → List Char → Prop
  | .ticker => StringForm s.ticker.toList
  | .metric m => ReadsNumber (s.metric m)

/-- The written forms of a stock as an object: a member for each of some columns, among them the
ticker and every metric that is present. -/
def ObjectForm (s : Stock) (text : List Char) : Prop :=
  ∃ columns : List Column, columns.Nodup ∧ .ticker ∈ columns ∧
    (∀ m, s.metric m ≠ none → .metric m ∈ columns) ∧
    EnclosedForm (fun c => MemberForm c.identifier.toList (s.CellForm c)) '\x7b' '\x7d' columns text

/-- One member is taken into the draft. -/
theorem readMember_column {s : Stock} {front : List Column} {c : Column} (hNew : c ∉ front)
    {blank gap text : List Char} (hBlank : AllBlank blank) (hGap : AllBlank gap)
    (hText : s.CellForm c text) {rest : List Char} (hRest : EndsNumber rest) :
    readMember c.identifier.toList (s.draftOf front) (blank ++ ':' :: (gap ++ (text ++ rest))) =
      .ok (s.draftOf (front ++ [c]), rest) := by
  unfold readMember
  simp only [String.ofList_toList, colon_append hBlank]
  cases c with
  | ticker =>
      have hTicker : (s.draftOf front).ticker = none := if_neg hNew
      have hDraft : { s.draftOf front with ticker := some s.ticker } =
          s.draftOf (front ++ [.ticker]) := by
        simp [draftOf, entries]
      simp only [Column.identifier, BEq.rfl, if_true, hTicker, Option.isSome_none,
        Bool.false_eq_true, if_false, string_text hText hGap, bind, Except.bind,
        String.ofList_toList, hDraft]
  | metric m =>
      have hName : (m.identifier == "ticker") = false := by cases m <;> rfl
      have hAbsent : ((s.draftOf front).metrics.any fun entry => entry.1 == m) = false := by
        rw [List.any_eq_false]
        intro entry hEntry hSame
        have hColumn := (mem_entries.mp (List.mem_reverse.mp hEntry)).1
        rw [beq_iff_eq.mp hSame] at hColumn
        exact hNew hColumn
      have hDraft : { s.draftOf front with
            metrics := (m, s.metric m) :: (s.draftOf front).metrics } =
          s.draftOf (front ++ [.metric m]) := by
        simp [draftOf, entries]
      obtain ⟨v, hRead, hValue⟩ := hText metricDepth rest hRest
      rw [← hValue] at hDraft
      simp only [Column.identifier, hName, Bool.false_eq_true, if_false,
        Metric.ofIdentifier?_identifier, hAbsent,
        value_append hGap, hRead, bind, Except.bind, hDraft]

theorem ticker_ofDraft (ticker : String) (draft : Draft) :
    (ofDraft ticker draft).ticker = ticker := by
  unfold ofDraft
  induction draft.metrics with
  | nil => rfl
  | cons entry metrics ih => exact ih

/-- The first entry for a metric decides about it. -/
theorem metric_ofDraft (ticker : String) (draft : Draft) (m : Metric) :
    (ofDraft ticker draft).metric m =
      (draft.metrics.find? fun entry => entry.1 == m).bind Prod.snd := by
  unfold ofDraft
  induction draft.metrics with
  | nil => rfl
  | cons entry metrics ih =>
      rw [List.foldr_cons, metric_setMetric, ih, List.find?_cons]
      by_cases hSame : m = entry.1
      · rw [if_pos hSame, beq_iff_eq.mpr hSame.symm]
        rfl
      · rw [if_neg hSame, beq_false_of_ne (Ne.symm hSame)]

/-- With all present metrics read, the draft gives the stock. -/
theorem ofDraft_draftOf {s : Stock} {columns : List Column}
    (hPresent : ∀ m, s.metric m ≠ none → .metric m ∈ columns) :
    ofDraft s.ticker (s.draftOf columns) = s := by
  refine Stock.ext (ticker_ofDraft _ _) fun m => ?_
  rw [metric_ofDraft]
  cases hFirst : (s.draftOf columns).metrics.find? fun entry => entry.1 == m with
  | none =>
      by_contra hSome
      have hEntry : (m, s.metric m) ∈ s.entries columns :=
        mem_entries.mpr ⟨hPresent m (Ne.symm hSome), rfl⟩
      exact List.find?_eq_none.mp hFirst _ (List.mem_reverse.mpr hEntry) BEq.rfl
  | some entry =>
      have hEntry := mem_entries.mp (List.mem_reverse.mp (List.mem_of_find?_eq_some hFirst))
      have hMatch : (entry.1 == m) = true := (List.find?_eq_some_iff_append.mp hFirst).1
      rw [Option.bind_some, hEntry.2, beq_iff_eq.mp hMatch]

/-- A stock is read from its written forms, whatever follows. -/
theorem ObjectForm.readJson {s : Stock} {text : List Char} (h : s.ObjectForm text)
    (rest : List Char) : readJson (text ++ rest) = .ok (s, rest) := by
  obtain ⟨columns, hNodup, hTicker, hPresent, hText⟩ := h
  have hRead := readJson_members (fun front => some (s.draftOf front)) hText rfl
    fun front c back hSplit blank gap text hBlank hGap hCell rest hRest => by
      rw [hSplit, List.nodup_append] at hNodup
      have hNew : c ∉ front := fun hFront => hNodup.2.2 c hFront c List.mem_cons_self rfl
      exact toOption_eq_some.mpr (readMember_column hNew hBlank hGap hCell hRest)
  have hStock : (s.draftOf columns).stock? = some s := by
    have hKnown : (s.draftOf columns).ticker = some s.ticker := if_pos hTicker
    rw [Draft.stock?, hKnown, Option.map_some, ofDraft_draftOf hPresent]
  refine toOption_eq_some.mp ((hRead rest).trans ?_)
  rw [Option.bind_some, hStock, Option.map_some]

/-- A list of stocks is read from its written forms. -/
theorem listOfJson_form {stocks : List Stock} {text : List Char}
    (h : EnclosedForm ObjectForm '[' ']' stocks text) {before after : List Char}
    (hBefore : AllBlank before) (hAfter : AllBlank after) :
    listOfJson (before ++ (text ++ after)) = .ok stocks := by
  have hRead := listOfJson_elements some h
    (fun s text ⟨_, _, _, _, hText⟩ => hText.exists_cons)
    (fun s _ text hText rest => toOption_eq_some.mpr (hText.readJson rest)) hBefore hAfter
  refine toOption_eq_some.mp (hRead.trans ?_)
  exact (List.mapM_pure (m := Option) (f := id)).trans (congrArg some stocks.map_id)

end Stock

end EquityScreen
