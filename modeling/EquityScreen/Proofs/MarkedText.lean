import EquityScreen.Page.Markup
import Mathlib.Data.List.Infix
import Mathlib.Data.List.TakeWhile

/-! Reading a rendered page. What people see of a page is the text behind certain marks of
its markup, up to the next markup. Escaped texts hold no markup, so that a mark stands
only where the markup has it, and the text behind it is found again by undoing the
escapes. -/
namespace EquityScreen.Page

/-- The characters that markup begins and ends with. -/
def isMarkupChar (c : Char) : Bool := c == '<' || c == '>' || c == '"'

/-- The text that an escaped text stands for. -/
def unescape : List Char → List Char
  | '&' :: 'l' :: 't' :: ';' :: rest => '<' :: unescape rest
  | '&' :: 'g' :: 't' :: ';' :: rest => '>' :: unescape rest
  | '&' :: 'a' :: 'm' :: 'p' :: ';' :: rest => '&' :: unescape rest
  | '&' :: 'q' :: 'u' :: 'o' :: 't' :: ';' :: rest => '"' :: unescape rest
  | '&' :: '#' :: 'x' :: '2' :: '7' :: ';' :: rest => '\'' :: unescape rest
  | c :: rest => c :: unescape rest
  | [] => []

theorem unescape_cons {c : Char} (h : c ≠ '&') (rest : List Char) :
    unescape (c :: rest) = c :: unescape rest := by
  conv_lhs => unfold unescape
  split <;> simp_all

/-- One escaped character, whatever follows it. -/
theorem unescape_escapeChar (c : Char) (rest : List Char) :
    unescape (escapeChar c ++ rest) = c :: unescape rest := by
  unfold escapeChar
  split
  case h_6 hAmpersand _ _ => exact unescape_cons (by simpa using hAmpersand) rest
  all_goals rfl

theorem unescape_escape (s : List Char) : unescape (escape s) = s := by
  induction s with
  | nil => rfl
  | cons c s ih =>
      have hText : escape (c :: s) = escapeChar c ++ escape s := List.flatMap_cons
      rw [hText, unescape_escapeChar, ih]

theorem any_escapeChar (c : Char) : (escapeChar c).any isMarkupChar = false := by
  unfold escapeChar
  split
  case h_6 hLess hGreater _ hQuote _ => simp_all [isMarkupChar]
  all_goals rfl

theorem isMarkupChar_of_mem_escape {s : List Char} {d : Char} (h : d ∈ escape s) :
    isMarkupChar d = false := by
  obtain ⟨c, -, hc⟩ := List.mem_flatMap.mp h
  exact Bool.eq_false_iff.mpr (List.any_eq_false.mp (any_escapeChar c) d hc)

/-- What stands in front of the next markup. -/
def plainPart (cs : List Char) : List Char := cs.takeWhile fun c => !isMarkupChar c

/-- The text in front of the next markup. -/
def textOf (cs : List Char) : String := String.ofList (unescape (plainPart cs))

theorem plainPart_escape (s : List Char) {c : Char} (hMarkup : isMarkupChar c = true)
    (rest : List Char) : plainPart (escape s ++ c :: rest) = escape s := by
  have hText : ∀ d ∈ escape s, (!isMarkupChar d) = true := fun d hd => by
    rw [isMarkupChar_of_mem_escape hd]
    rfl
  rw [plainPart, List.takeWhile_append_of_pos hText,
    List.takeWhile_cons_of_neg (by simp [hMarkup]), List.append_nil]

theorem textOf_escape (s : String) {c : Char} (hMarkup : isMarkupChar c = true)
    (rest : List Char) : textOf (escape s.toList ++ c :: rest) = s := by
  rw [textOf, plainPart_escape _ hMarkup, unescape_escape, String.ofList_toList]

/-! Pages piece by piece. -/

theorem render_nil : render [] = [] := rfl

theorem render_markup (s : String) (html : Html) :
    render (.markup s :: html) = s.toList ++ render html := List.flatMap_cons

theorem render_text (s : String) (html : Html) :
    render (.text s :: html) = escape s.toList ++ render html := List.flatMap_cons

theorem render_append (first second : Html) :
    render (first ++ second) = render first ++ render second := List.flatMap_append

/-! Marks and what is read behind them. -/

/-- No tag of a text begins like the mark, nor does one that is cut off at its end. -/
def misses (mark : List Char) : List Char → Bool
  | [] => true
  | c :: rest =>
    (c != '<' || !(mark.isPrefixOf (c :: rest) || (c :: rest).isPrefixOf mark))
      && misses mark rest

theorem misses_of_no_tag (mark : List Char) {cs : List Char} (h : '<' ∉ cs) :
    misses mark cs = true := by
  induction cs with
  | nil => rfl
  | cons c cs ih =>
      rw [List.mem_cons, not_or] at h
      simp [misses, ih h.2, Ne.symm h.1]

/-- A piece of markup that a text stands behind. It begins a tag and does not run into
itself. -/
structure Mark where
  text : String
  chars : List Char
  spelled : text = String.ofList chars
  opens : chars.head? = some '<'
  once : misses chars chars.tail = true

namespace Mark

variable {α : Type} (mark : Mark) (read : List Char → α)

/-- What is read behind every occurrence of a mark. -/
def readAll : List Char → List α
  | [] => []
  | c :: rest =>
    if mark.chars.isPrefixOf (c :: rest) then
      read ((c :: rest).drop mark.chars.length) :: readAll rest
    else readAll rest

theorem exists_chars : ∃ tail, mark.chars = '<' :: tail := by
  have hOpens := mark.opens
  cases hChars : mark.chars with
  | nil =>
      rw [hChars] at hOpens
      cases hOpens
  | cons c tail =>
      rw [hChars] at hOpens
      cases hOpens
      exact ⟨tail, rfl⟩

/-- Nothing is read in a part that misses the mark. -/
theorem readAll_of_misses {part : List Char} (h : misses mark.chars part = true)
    (rest : List Char) : mark.readAll read (part ++ rest) = mark.readAll read rest := by
  induction part with
  | nil => rfl
  | cons c part ih =>
      rw [misses, Bool.and_eq_true] at h
      have hNone : mark.chars.isPrefixOf (c :: (part ++ rest)) = false := by
        rw [Bool.eq_false_iff]
        intro hHere
        have hMark : mark.chars <+: (c :: part) ++ rest := List.isPrefixOf_iff_prefix.mp hHere
        have hOpens : c = '<' := by
          obtain ⟨tail, hChars⟩ := mark.exists_chars
          rw [hChars, List.cons_append] at hMark
          exact (List.cons_prefix_cons.mp hMark).1.symm
        have hBoth : (mark.chars <+: c :: part) ∨ (c :: part <+: mark.chars) :=
          List.prefix_or_prefix_of_prefix hMark (List.prefix_append _ _)
        rw [← List.isPrefixOf_iff_prefix, ← List.isPrefixOf_iff_prefix, ← Bool.or_eq_true] at hBoth
        rw [hBoth, hOpens] at h
        cases h.1
      rw [List.cons_append, readAll, hNone, if_neg (by decide), ih h.2]

/-- Behind the mark itself something is read. -/
theorem readAll_mark (rest : List Char) :
    mark.readAll read (mark.chars ++ rest) = read rest :: mark.readAll read rest := by
  have hOnce := mark.once
  obtain ⟨tail, hChars⟩ := mark.exists_chars
  have hHere : mark.chars.isPrefixOf ('<' :: (tail ++ rest)) = true := by
    rw [List.isPrefixOf_iff_prefix, hChars]
    exact List.prefix_append _ _
  have hBehind : ('<' :: (tail ++ rest)).drop mark.chars.length = rest := by
    rw [hChars]
    exact List.drop_left
  have hTail : misses mark.chars tail = true := by
    rwa [hChars, List.tail_cons, ← hChars] at hOnce
  rw [hChars, List.cons_append, readAll, if_pos hHere, hBehind,
    mark.readAll_of_misses read hTail]

/-- No mark stands in an escaped text. -/
theorem misses_escape (s : List Char) : misses mark.chars (escape s) = true := by
  refine misses_of_no_tag _ fun hMem => ?_
  exact absurd (isMarkupChar_of_mem_escape hMem) (by decide)

end Mark

/-! Markup without marks. -/

/-- None of some marks occurs in a text. -/
def missesAll (marks : List Mark) (cs : List Char) : Bool :=
  marks.all fun mark => misses mark.chars cs

/-- The markup of a page is without any of some marks. -/
def plainMarkup (marks : List Mark) (html : Html) : Bool :=
  html.all fun
    | .markup s => missesAll marks s.toList
    | .text _ => true

section Plain

variable {marks : List Mark}

@[simp] theorem plainMarkup_nil : plainMarkup marks [] = true := rfl

@[simp] theorem plainMarkup_markup (s : String) (html : Html) :
    plainMarkup marks (.markup s :: html) =
      (missesAll marks s.toList && plainMarkup marks html) := rfl

@[simp] theorem plainMarkup_text (s : String) (html : Html) :
    plainMarkup marks (.text s :: html) = plainMarkup marks html := Bool.true_and _

@[simp] theorem plainMarkup_append (first second : Html) :
    plainMarkup marks (first ++ second) = (plainMarkup marks first && plainMarkup marks second) :=
  List.all_append

theorem plainMarkup_flatMap {β : Type} {html : β → Html}
    (h : ∀ item, plainMarkup marks (html item) = true) (items : List β) :
    plainMarkup marks (items.flatMap html) = true := by
  rw [plainMarkup, List.all_flatMap, List.all_eq_true]
  exact fun item _ => h item

variable {html : Html} (h : plainMarkup marks html = true)
include h

theorem plainMarkup_of_subset {fewer : List Mark} (hFewer : fewer ⊆ marks) :
    plainMarkup fewer html = true := by
  induction html with
  | nil => rfl
  | cons piece html ih =>
      cases piece with
      | markup s =>
          rw [plainMarkup_markup, Bool.and_eq_true, missesAll, List.all_eq_true] at h
          rw [plainMarkup_markup, Bool.and_eq_true, missesAll, List.all_eq_true]
          exact ⟨fun mark hMark => h.1 mark (hFewer hMark), ih h.2⟩
      | text s =>
          rw [plainMarkup_text] at h ⊢
          exact ih h

/-- Nothing is read in a part whose markup is without the mark. -/
theorem Mark.readAll_of_plain {mark : Mark} (hMark : mark ∈ marks) {α : Type}
    (read : List Char → α) (rest : List Char) :
    mark.readAll read (render html ++ rest) = mark.readAll read rest := by
  induction html with
  | nil => rfl
  | cons piece html ih =>
      cases piece with
      | markup s =>
          rw [plainMarkup_markup, Bool.and_eq_true, missesAll, List.all_eq_true] at h
          rw [render_markup, List.append_assoc, mark.readAll_of_misses read (h.1 mark hMark),
            ih h.2]
      | text s =>
          rw [plainMarkup_text] at h
          rw [render_text, List.append_assoc,
            mark.readAll_of_misses read (mark.misses_escape s.toList), ih h]

end Plain

namespace Mark

variable {mark : Mark} {α : Type} (read : List Char → α)

/-- Something is read behind a piece of markup that ends with the mark. -/
theorem readAll_front {front : String} {before : List Char}
    (hFront : front.toList = before ++ mark.chars) (hBefore : misses mark.chars before = true)
    (rest : List Char) :
    mark.readAll read (front.toList ++ rest) = read rest :: mark.readAll read rest := by
  rw [hFront, List.append_assoc, mark.readAll_of_misses read hBefore, mark.readAll_mark]

/-- A text right behind the mark is read up to the markup that follows it. -/
theorem readAll_text {before : List Char} {front back : String}
    (hFront : front.toList = before ++ mark.chars) (hBefore : misses mark.chars before = true)
    (hBack : back.toList.head?.map isMarkupChar = some true)
    (hMisses : misses mark.chars back.toList = true) (s : String) (rest : List Char) :
    mark.readAll textOf (render [.markup front, .text s, .markup back] ++ rest) =
      s :: mark.readAll textOf rest := by
  have hRead : textOf (escape s.toList ++ (back.toList ++ rest)) = s := by
    obtain ⟨c, hHead, hMarkup⟩ := Option.map_eq_some_iff.mp hBack
    obtain ⟨tail, hText⟩ := List.head?_eq_some_iff.mp hHead
    rw [hText, List.cons_append, textOf_escape s hMarkup]
  rw [render_markup, render_text, render_markup, render_nil, List.append_nil, List.append_assoc,
    List.append_assoc, readAll_front _ hFront hBefore, hRead,
    mark.readAll_of_misses _ (mark.misses_escape _), mark.readAll_of_misses _ hMisses]

end Mark

end EquityScreen.Page
