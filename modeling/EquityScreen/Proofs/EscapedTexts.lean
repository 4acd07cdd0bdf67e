import EquityScreen.Proofs.MarkedText

/-! Values on a page. The outline of a page is its markup, with a gap for each value. A
rendered page is its outline with the values in the gaps, each of them escaped exactly
once, so that its markup is that of the outline. -/
namespace EquityScreen.Page

/-- What the escaped characters are written as. -/
def entities : List (List Char) :=
  ["&lt;".toList, "&gt;".toList, "&amp;".toList, "&quot;".toList, "&#x27;".toList]

/-- A text is a value that has been escaped exactly once: nothing in it is markup, every
ampersand opens an entity, and undoing the escapes gives the value. -/
structure EscapedOnce (value written : List Char) : Prop where
  plain : ∀ c ∈ written, c ≠ '<' ∧ c ≠ '>' ∧ c ≠ '"' ∧ c ≠ '\''
  entity : ∀ before after, written = before ++ '&' :: after →
    ∃ entity ∈ entities, entity <+: '&' :: after
  restored : unescape written = value

theorem apostrophe_not_mem_escape (s : List Char) : '\'' ∉ escape s := by
  intro h
  obtain ⟨c, -, hc⟩ := List.mem_flatMap.mp h
  revert hc
  unfold escapeChar
  split
  case h_6 hApostrophe =>
    intro hc
    exact hApostrophe (List.mem_singleton.mp hc).symm
  all_goals decide

/-- An ampersand is there because of an entity, which it opens. -/
theorem entity_escapeChar {c : Char} {before after : List Char}
    (h : escapeChar c = before ++ '&' :: after) : before = [] ∧ escapeChar c ∈ entities := by
  have hNone {tail : List Char} (hTail : '&' ∉ tail)
      (hText : '&' :: tail = before ++ '&' :: after) : before = [] := by
    cases before with
    | nil => rfl
    | cons b before =>
        rw [List.cons_append] at hText
        rw [(List.cons.inj hText).2] at hTail
        exact absurd (by simp) hTail
  revert h
  unfold escapeChar
  split
  case h_6 _ _ hAmpersand _ _ =>
    intro h
    have hMem : '&' ∈ [c] := by
      rw [h]
      simp
    exact absurd (List.mem_singleton.mp hMem).symm hAmpersand
  all_goals exact fun h => ⟨hNone (by decide) h, by decide⟩

theorem entity_escape {s before after : List Char} (h : escape s = before ++ '&' :: after) :
    ∃ entity ∈ entities, entity <+: '&' :: after := by
  induction s generalizing before with
  | nil => cases before <;> cases h
  | cons c s ih =>
      have hText : escapeChar c ++ escape s = before ++ '&' :: after := h
      rcases List.append_eq_append_iff.mp hText with ⟨gap, hBefore, hRest⟩ | ⟨gap, hChar, hRest⟩
      · exact ih hRest
      · cases gap with
        | nil =>
            have hStart : escape s = [] ++ '&' :: after := hRest.symm
            exact ih hStart
        | cons d gap =>
            obtain ⟨rfl, rfl⟩ := List.cons.inj hRest
            obtain ⟨rfl, hEntity⟩ := entity_escapeChar hChar
            exact ⟨_, hEntity, by rw [hChar]; exact List.prefix_append _ _⟩

theorem escapedOnce_escape (s : List Char) : EscapedOnce s (escape s) where
  plain c hc := by
    have hMarkup := isMarkupChar_of_mem_escape hc
    simp only [isMarkupChar, Bool.or_eq_false_iff, beq_eq_false_iff_ne] at hMarkup
    obtain ⟨⟨hLess, hGreater⟩, hQuote⟩ := hMarkup
    exact ⟨hLess, hGreater, hQuote, fun h => apostrophe_not_mem_escape s (h ▸ hc)⟩
  entity _ _ := entity_escape
  restored := unescape_escape s

/-! Outlines. -/

/-- Markup in its order, with gaps. -/
abbrev Outline := List (Option String)

/-- The markup of a page, with a gap for each value. -/
def outline (html : Html) : Outline :=
  html.map fun
    | .markup s => some s
    | .text _ => none

/-- The values of a page in the order of their gaps. -/
def values (html : Html) : List String :=
  html.filterMap fun
    | .markup _ => none
    | .text s => some s

/-- A text is an outline with values in its gaps, each escaped once. -/
inductive Filled : Outline → List String → List Char → Prop where
  | nil : Filled [] [] []
  | markup (s : String) {o : Outline} {vs : List String} {cs : List Char} (rest : Filled o vs cs) :
      Filled (some s :: o) vs (s.toList ++ cs)
  | value {v : String} {written : List Char} (once : EscapedOnce v.toList written)
      {o : Outline} {vs : List String} {cs : List Char} (rest : Filled o vs cs) :
      Filled (none :: o) (v :: vs) (written ++ cs)

/-- A page is rendered as its outline with its values. -/
theorem filled_render (html : Html) : Filled (outline html) (values html) (render html) := by
  induction html with
  | nil => exact .nil
  | cons piece html ih =>
      cases piece with
      | markup s => exact .markup s ih
      | text s => exact .value (escapedOnce_escape s.toList) ih

/-- The markup characters of a text are those of its outline. -/
theorem Filled.filter_isMarkupChar {o : Outline} {vs : List String} {cs : List Char}
    (h : Filled o vs cs) :
    cs.filter isMarkupChar = o.flatMap fun s => (s.elim [] String.toList).filter isMarkupChar := by
  induction h with
  | nil => rfl
  | markup s _ ih => rw [List.filter_append, ih, List.flatMap_cons, Option.elim_some]
  | @value v written once _ _ _ _ ih =>
      have hNone : written.filter isMarkupChar = [] := by
        rw [List.filter_eq_nil_iff]
        intro c hc
        obtain ⟨hLess, hGreater, hQuote, -⟩ := once.plain c hc
        simp [isMarkupChar, hLess, hGreater, hQuote]
      rw [List.filter_append, hNone, ih, List.flatMap_cons]
      rfl

/-- Texts in the same outline have the same markup, whatever the values. -/
theorem Filled.sameMarkup {o : Outline} {vs vs' : List String} {cs cs' : List Char}
    (h : Filled o vs cs) (h' : Filled o vs' cs') :
    cs.filter isMarkupChar = cs'.filter isMarkupChar := by
  rw [h.filter_isMarkupChar, h'.filter_isMarkupChar]

@[simp] theorem outline_nil : outline [] = [] := rfl

@[simp] theorem outline_markup (s : String) (html : Html) :
    outline (.markup s :: html) = some s :: outline html := rfl

@[simp] theorem outline_text (s : String) (html : Html) :
    outline (.text s :: html) = none :: outline html := rfl

@[simp] theorem outline_append (first second : Html) :
    outline (first ++ second) = outline first ++ outline second := List.map_append

@[simp] theorem values_nil : values [] = [] := rfl

@[simp] theorem values_markup (s : String) (html : Html) :
    values (.markup s :: html) = values html := rfl

@[simp] theorem values_text (s : String) (html : Html) :
    values (.text s :: html) = s :: values html := rfl

@[simp] theorem values_append (first second : Html) :
    values (first ++ second) = values first ++ values second := List.filterMap_append

@[simp] theorem values_flatMap {β : Type} (html : β → Html) (items : List β) :
    values (items.flatMap html) = items.flatMap fun item => values (html item) := by
  rw [values, List.filterMap_flatMap]
  rfl

/-- Items that are replaced by ones with the same outlines leave the outline as it is. -/
theorem outline_flatMap_map {β : Type} {html : β → Html} {replace : β → β} {items : List β}
    (h : ∀ item ∈ items, outline (html item) = outline (html (replace item))) :
    outline (items.flatMap html) = outline ((items.map replace).flatMap html) := by
  rw [List.flatMap_map, outline, outline, List.map_flatMap, List.map_flatMap]
  exact List.flatMap_congr h

theorem outline_flatMap_replicate {β : Type} {html : β → Html} {item' : β} {items : List β}
    (h : ∀ item ∈ items, outline (html item) = outline (html item')) :
    outline (items.flatMap html) =
      outline ((List.replicate items.length item').flatMap html) := by
  rw [← List.map_const']
  exact outline_flatMap_map h

end EquityScreen.Page
