import EquityScreen.Json.Skip
import EquityScreen.Proofs.JsonTrees

/-! Passing over values that nobody asks for. Every written form of a tree is passed over to its
last character and no further, however deeply it is nested and however great its numbers are. Each
step takes a character at least, so that there are steps enough for all of a text. -/
namespace EquityScreen.Json

/-! Strings. -/

/-- The rounds that pass over this part of a string leave it to the others to pass over the rest. -/
def PassedInString (part : List Char) : Prop :=
  ∃ k ≤ part.length, ∀ n rest, skipStringChars (n + k) (part ++ rest) = skipStringChars n rest

theorem PassedInString.append {front back : List Char} (hFront : PassedInString front)
    (hBack : PassedInString back) : PassedInString (front ++ back) := by
  obtain ⟨i, hi, hFront⟩ := hFront
  obtain ⟨k, hk, hBack⟩ := hBack
  refine ⟨k + i, by rw [List.length_append]; omega, fun n rest => ?_⟩
  rw [← Nat.add_assoc, List.append_assoc, hFront, hBack]

theorem passedInString_of_char {part : List Char} (hSome : part ≠ [])
    (h : ∀ rest, skipStringChar (part ++ rest) = .ok (false, rest)) : PassedInString part := by
  refine ⟨1, List.length_pos_iff.mpr hSome, fun n rest => ?_⟩
  simp only [skipStringChars, h, bind, Except.bind]

theorem skipStringChar_plain {c : Char} (hQuote : c ≠ '"') (hBackslash : c ≠ '\\')
    (hVisible : 0x20 ≤ c.toNat) (rest : List Char) :
    skipStringChar (c :: rest) = .ok (false, rest) := by
  unfold skipStringChar
  split
  · next h => cases h
  · next h => exact absurd (List.cons.inj h).1 hQuote
  · next h => exact absurd (List.cons.inj h).1 hBackslash
  · next h => exact absurd (List.cons.inj h).1 hBackslash
  · next h => exact absurd (List.cons.inj h).1 hBackslash
  · next h =>
      cases h
      rw [if_neg (Nat.not_lt_of_le hVisible)]

theorem passedInString_code {digits : List Char} {n : Nat} (h : hexDigits? digits = some (n, [])) :
    PassedInString ('\\' :: 'u' :: digits) :=
  passedInString_of_char (List.cons_ne_nil _ _) fun rest => by
    simp only [List.cons_append, skipStringChar, hexEscape_append h, bind, Except.bind]

/-- A surrogate pair is passed over in two rounds, any other character in one. -/
theorem CharForm.passedInString {c : Char} {form : List Char} (h : CharForm c form) :
    PassedInString form := by
  cases h with
  | plain hQuote hBackslash hVisible =>
      exact passedInString_of_char (List.cons_ne_nil _ _)
        (skipStringChar_plain hQuote hBackslash hVisible)
  | @letter c e hLetter =>
      refine passedInString_of_char (List.cons_ne_nil _ _) fun rest => ?_
      unfold simpleEscape? at hLetter
      split at hLetter <;> cases hLetter <;> rfl
  | code hCode _ => exact passedInString_code hCode
  | pair hHigh hLow _ _ => exact (passedInString_code hHigh).append (passedInString_code hLow)

theorem BodyForm.passedInString {s body : List Char} (h : BodyForm s body) :
    PassedInString body := by
  induction h with
  | nil => exact ⟨0, Nat.le_refl 0, fun _ _ => rfl⟩
  | cons hChar _ ih => exact hChar.passedInString.append ih

theorem StringForm.skipString {s text : List Char} (h : StringForm s text) :
    ∃ body, text = '"' :: body ∧ ∀ rest, skipString (body ++ rest) = .ok rest := by
  obtain @⟨body, hBody⟩ := h
  obtain ⟨k, hk, hPassed⟩ := hBody.passedInString
  refine ⟨body ++ ['"'], rfl, fun rest => ?_⟩
  obtain ⟨n, hn⟩ : ∃ n, (body ++ ['"'] ++ rest).length + 1 = n + 1 + k :=
    ⟨(body ++ ['"'] ++ rest).length - k, by
      simp only [List.length_append, List.length_singleton]
      omega⟩
  rw [Json.skipString, hn, List.append_assoc, hPassed]
  rfl

/-! Numbers. -/

theorem skipWhole_digits {digits : List Char} (hDigits : ∀ c ∈ digits, c.isDigit = true)
    (hSome : digits ≠ []) (hLead : digits.head? ≠ some '0' ∨ digits = ['0']) {rest : List Char}
    (hRest : rest.head?.any Char.isDigit = false) : skipWhole (digits ++ rest) = .ok rest := by
  rcases hLead with hLead | rfl
  · obtain ⟨c, digits, rfl⟩ := List.exists_cons_of_ne_nil hSome
    have hZero : c ≠ '0' := fun h => hLead (congrArg some h)
    obtain ⟨hHere, hLater⟩ := List.forall_mem_cons.mp hDigits
    rw [List.cons_append]
    unfold skipWhole
    split
    · next h => exact absurd (List.cons.inj h).1 hZero
    · next h =>
        cases h
        rw [if_pos hHere, spanDigits_append hLater hRest]
    · next h => cases h
  · exact if_neg (Bool.eq_false_iff.mp hRest)

namespace Literal

variable (l : Literal)

/-- The text of a literal without its sign. -/
def unsignedText : List Char := l.whole ++ (l.fractionText ++ l.exponentText)

theorem skipFraction_text {rest : List Char} (hRest : rest.head?.any Char.isDigit = false)
    (hPoint : rest.head? ≠ some '.') : skipFraction (l.fractionText ++ rest) = .ok rest := by
  unfold fractionText
  cases hFraction : l.fraction with
  | none =>
      rw [Option.elim_none, List.nil_append]
      unfold skipFraction
      split
      · exact absurd rfl hPoint
      · rfl
  | some digits =>
      have hEmpty : digits.isEmpty = false :=
        List.isEmpty_eq_false_iff.mpr (l.fraction_ne_nil digits hFraction)
      rw [Option.elim_some, List.cons_append, skipFraction,
        spanDigits_append (l.isDigit_fraction digits hFraction) hRest]
      simp only [hEmpty, Bool.false_eq_true, if_false]

theorem skipPower_text {rest : List Char} (hRest : EndsNumber rest) :
    skipPower (l.exponentText ++ rest) = .ok rest := by
  unfold exponentText
  cases l.exponent with
  | none =>
      rw [Option.elim_none, List.nil_append]
      cases rest with
      | nil => rfl
      | cons c rest => exact if_neg (not_or.mpr (hRest c rfl).2.2)
  | some e =>
      have hEmpty : e.digits.isEmpty = false := List.isEmpty_eq_false_iff.mpr e.digits_ne_nil
      rw [Option.elim_some, Exponent.text, List.cons_append, List.append_assoc, skipPower,
        if_pos e.isMark, skipExponent, e.splitSign_text]
      simp only [spanDigits_append e.isDigit_digits hRest.no_digit, hEmpty, Bool.false_eq_true,
        if_false]

/-- Numbers of any size are passed over. -/
theorem skipNumber_text {rest : List Char} (hRest : EndsNumber rest) :
    skipNumber (l.unsignedText ++ rest) = .ok rest := by
  obtain ⟨hDigit, hPoint⟩ := l.head_exponentText hRest
  have hWhole := skipWhole_digits l.isDigit_whole l.whole_ne_nil l.lead_whole
    (l.head_fractionText hRest)
  rw [unsignedText, List.append_assoc, List.append_assoc, skipNumber, hWhole]
  change skipFraction (l.fractionText ++ (l.exponentText ++ rest)) >>= skipPower = _
  rw [l.skipFraction_text hDigit hPoint]
  exact l.skipPower_text hRest

end Literal

/-! Values. -/

/-- Where passing over stands: what to do next, what is open, and the text ahead. -/
structure SkipState where
  step : SkipStep
  opened : List Opened
  ahead : List Char

namespace SkipState

def run (n : Nat) (s : SkipState) : Except Error (List Char) := skipSteps n s.step s.opened s.ahead

/-- From one state to another, at most one step for each character that is taken. -/
def Leads (s t : SkipState) : Prop :=
  ∃ k, k + t.ahead.length ≤ s.ahead.length ∧ ∀ n, s.run (n + k) = t.run n

theorem Leads.trans {s t u : SkipState} (h : s.Leads t) (h' : t.Leads u) : s.Leads u := by
  obtain ⟨i, hi, hFirst⟩ := h
  obtain ⟨k, hk, hThen⟩ := h'
  exact ⟨k + i, by omega, fun n => by rw [← Nat.add_assoc, hFirst, hThen]⟩

/-- Nothing is left to do behind a value that stands alone. -/
theorem Leads.skipValue {cs rest : List Char}
    (h : (⟨.value, [], cs⟩ : SkipState).Leads ⟨.afterValue, [], rest⟩) :
    skipValue cs = .ok rest := by
  obtain ⟨k, hk, hRun⟩ := h
  obtain ⟨n, hn⟩ : ∃ n, cs.length + 1 = n + k := ⟨cs.length + 1 - k, by
    change k + rest.length ≤ cs.length at hk
    omega⟩
  rw [Json.skipValue, hn]
  refine (hRun n).trans ?_
  cases n <;> rfl

section Steps

variable {step : SkipStep} {opened left : List Opened} {cs rest : List Char}

theorem leads_of_start (h : skipStart opened cs = .ok (step, left, rest))
    (hTaken : rest.length < cs.length) : Leads ⟨.value, opened, cs⟩ ⟨step, left, rest⟩ := by
  refine ⟨1, by dsimp only; omega, fun n => ?_⟩
  change skipSteps (n + 1) .value opened cs = skipSteps n step left rest
  simp only [skipSteps, h, bind, Except.bind]

theorem leads_of_on {innermost : Opened} {outer : List Opened}
    (h : skipOn innermost outer cs = .ok (step, left, rest)) (hTaken : rest.length < cs.length) :
    Leads ⟨.afterValue, innermost :: outer, cs⟩ ⟨step, left, rest⟩ := by
  refine ⟨1, by dsimp only; omega, fun n => ?_⟩
  change skipSteps (n + 1) .afterValue (innermost :: outer) cs = skipSteps n step left rest
  simp only [skipSteps, h, bind, Except.bind]

end Steps

end SkipState

open SkipState

theorem skipStart_append {blank : List Char} (h : AllBlank blank) (opened : List Opened)
    (cs : List Char) : skipStart opened (blank ++ cs) = skipStart opened cs := by
  unfold skipStart
  rw [skipBlanks_append h]

/-- A digit starts a number. -/
theorem skipStart_digit {c : Char} (h : c.isDigit = true) (opened : List Opened)
    (tail : List Char) :
    skipStart opened (c :: tail) =
      skipNumber (c :: tail) >>= fun rest => .ok (.afterValue, opened, rest) := by
  have hOther {d : Char} {text : List Char} (hText : c :: tail = d :: text)
      (hStop : d.isDigit = false) : False := by
    obtain rfl := (List.cons.inj hText).1
    rw [hStop] at h
    cases h
  unfold skipStart
  rw [skipBlanks_of_head (isBlank_of_isDigit h)]
  dsimp only
  split
  case h_1 hText => cases hText
  case h_9 hText =>
    obtain ⟨rfl, rfl⟩ := List.cons.inj hText
    rw [if_pos h]
  all_goals
    next hText => exact (hOther hText (by decide)).elim

theorem skipStart_number (l : Literal) (opened : List Opened) {rest : List Char}
    (hRest : EndsNumber rest) :
    skipStart opened (l.text ++ rest) = .ok (.afterValue, opened, rest) := by
  have hNumber := l.skipNumber_text hRest
  have hText : l.text = signOf l.negative ++ l.unsignedText := rfl
  rw [hText, List.append_assoc]
  cases l.negative with
  | true =>
      have hOpen : skipStart opened (signOf true ++ (l.unsignedText ++ rest)) =
          skipNumber (l.unsignedText ++ rest) >>= fun rest => .ok (.afterValue, opened, rest) := rfl
      rw [hOpen, hNumber]
      rfl
  | false =>
      obtain ⟨c, whole, hWhole⟩ := List.exists_cons_of_ne_nil l.whole_ne_nil
      have hDigit := l.isDigit_whole c (hWhole ▸ List.mem_cons_self)
      rw [Literal.unsignedText, hWhole] at hNumber ⊢
      exact (skipStart_digit hDigit opened _).trans (hNumber ▸ rfl)

/-- Wherever it stands, the text is passed over as one value. -/
def PassedOver (text : List Char) : Prop :=
  ∀ opened blank rest, AllBlank blank → EndsNumber rest →
    Leads ⟨.value, opened, blank ++ (text ++ rest)⟩ ⟨.afterValue, opened, rest⟩

/-- A value that takes a single step is passed over. -/
theorem passedOver_of_start {text : List Char} (hSome : text ≠ [])
    (h : ∀ opened rest, EndsNumber rest →
      skipStart opened (text ++ rest) = .ok (.afterValue, opened, rest)) : PassedOver text := by
  intro opened blank rest hBlank hRest
  refine leads_of_start ((skipStart_append hBlank opened _).trans (h opened rest hRest)) ?_
  have hLength := List.length_pos_iff.mpr hSome
  simp only [List.length_append]
  omega

/-- Behind the comma, the text is passed over as the next item. -/
def PassedBehindComma (kind : Opened) (text : List Char) : Prop :=
  ∀ outer before gap rest, AllBlank before → AllBlank gap → EndsNumber rest →
    Leads ⟨.afterValue, kind :: outer, before ++ ',' :: (gap ++ (text ++ rest))⟩
      ⟨.afterValue, kind :: outer, rest⟩

theorem isMark_close (kind : Opened) : IsMark kind.close := by
  cases kind
  · exact .inr (.inl rfl)
  · exact .inr (.inr rfl)

theorem skipOn_close (kind : Opened) (outer : List Opened) {blank : List Char}
    (h : AllBlank blank) (rest : List Char) :
    skipOn kind outer (blank ++ kind.close :: rest) = .ok (.afterValue, outer, rest) := by
  unfold skipOn
  rw [skipBlanks_append h]
  cases kind <;> rfl

/-- The items behind another one are passed over, and so is the closing mark. -/
theorem leads_following {α : Type} {item : α → List Char → Prop} (kind : Opened)
    (hItem : ∀ a text, item a text → PassedBehindComma kind text) {items : List α}
    {text : List Char} (h : FollowingForm item items text) (outer : List Opened)
    (rest : List Char) :
    Leads ⟨.afterValue, kind :: outer, text ++ kind.close :: rest⟩ ⟨.afterValue, outer, rest⟩ := by
  induction h with
  | none hBlank =>
      refine leads_of_on (skipOn_close kind outer hBlank rest) ?_
      simp only [List.length_append, List.length_cons]
      omega
  | comma hBefore hGap hHere hRest ih =>
      have hPassed := hItem _ _ hHere outer _ _ _ hBefore hGap
        (hRest.endsNumber (isMark_close kind) rest)
      simp only [List.append_assoc, List.cons_append] at hPassed ⊢
      exact hPassed.trans ih

theorem PassedOver.behindComma {text : List Char} (h : PassedOver text) :
    PassedBehindComma .array text := by
  intro outer before gap rest hBefore hGap hRest
  have hOn : skipOn .array outer (before ++ ',' :: (gap ++ (text ++ rest))) =
      .ok (.value, .array :: outer, gap ++ (text ++ rest)) := by
    unfold skipOn
    rw [skipBlanks_append hBefore]
    rfl
  refine (leads_of_on hOn ?_).trans (h (.array :: outer) gap rest hGap hRest)
  simp only [List.length_append, List.length_cons]
  omega

section Openings

variable (opened : List Opened)

theorem skipStart_array (cs : List Char) : skipStart opened ('[' :: cs) =
    (match skipBlanks cs with
    | [] => errorAt .endInList []
    | ']' :: rest => .ok (.afterValue, opened, rest)
    | rest => .ok (.value, .array :: opened, rest) :
      Except Error (SkipStep × List Opened × List Char)) := rfl

theorem skipStart_object (cs : List Char) : skipStart opened ('\x7b' :: cs) =
    (match skipBlanks cs with
    | [] => errorAt .endInObject []
    | '\x7d' :: rest => .ok (.afterValue, opened, rest)
    | rest => do .ok (.value, .object :: opened, ← skipKey rest) :
      Except Error (SkipStep × List Opened × List Char)) := rfl

variable {blank : List Char} (hBlank : AllBlank blank)
include hBlank

theorem skipStart_array_close (rest : List Char) :
    skipStart opened ('[' :: (blank ++ ']' :: rest)) = .ok (.afterValue, opened, rest) := by
  have hNext : skipBlanks (blank ++ ']' :: rest) = ']' :: rest := skipBlanks_append hBlank _
  rw [skipStart_array, hNext]
  rfl

theorem skipStart_array_first {c : Char} (hVisible : isBlank c = false) (hClose : c ≠ ']')
    (rest : List Char) :
    skipStart opened ('[' :: (blank ++ c :: rest)) = .ok (.value, .array :: opened, c :: rest) := by
  have hNext : skipBlanks (blank ++ c :: rest) = c :: rest :=
    (skipBlanks_append hBlank _).trans (skipBlanks_of_head hVisible rest)
  rw [skipStart_array, hNext]
  split
  · next h => cases h
  · next h => exact absurd (List.cons.inj h).1 hClose
  · rfl

theorem skipStart_object_close (rest : List Char) :
    skipStart opened ('\x7b' :: (blank ++ '\x7d' :: rest)) = .ok (.afterValue, opened, rest) := by
  have hNext : skipBlanks (blank ++ '\x7d' :: rest) = '\x7d' :: rest := skipBlanks_append hBlank _
  rw [skipStart_object, hNext]
  rfl

theorem skipStart_object_first (rest : List Char) :
    skipStart opened ('\x7b' :: (blank ++ '"' :: rest)) =
      skipKey ('"' :: rest) >>= fun rest => .ok (.value, .object :: opened, rest) := by
  have hNext : skipBlanks (blank ++ '"' :: rest) = '"' :: rest := skipBlanks_append hBlank _
  rw [skipStart_object, hNext]
  rfl

end Openings

/-- An array is passed over if its elements are. -/
theorem passedOver_array {α : Type} {item : α → List Char → Prop}
    (hItem : ∀ a text, item a text → PassedOver text)
    (hHead : ∀ a text, item a text → ∃ c tail, text = c :: tail ∧ isBlank c = false ∧ c ≠ ']')
    {items : List α} {text : List Char} (h : EnclosedForm item '[' ']' items text) :
    PassedOver text := by
  cases h with
  | @empty blank hBlank =>
      refine passedOver_of_start (List.cons_ne_nil _ _) fun opened rest _ => ?_
      rw [List.cons_append, List.append_assoc]
      exact skipStart_array_close opened hBlank rest
  | @items a items blank text tail hBlank hHere hRest =>
      intro opened before rest hBefore hEnd
      have hFirst := hItem a text hHere (.array :: opened) [] (tail ++ ']' :: rest) allBlank_nil
        (hRest.endsNumber (.inr (.inl rfl)) rest)
      have hLater := leads_following .array (fun a text h => (hItem a text h).behindComma) hRest
        opened rest
      obtain ⟨c, more, rfl, hVisible, hClose⟩ := hHead a text hHere
      have hOpen := (skipStart_append hBefore opened _).trans
        (skipStart_array_first opened hBlank hVisible hClose (more ++ (tail ++ ']' :: rest)))
      simp only [List.append_assoc, List.cons_append, List.nil_append] at hFirst ⊢
      refine ((leads_of_start hOpen ?_).trans hFirst).trans hLater
      simp only [List.length_append, List.length_cons]
      omega

/-- The name of a member and its colon are passed over. -/
theorem skipKey_append {blank name nameText before : List Char} (hBlank : AllBlank blank)
    (hName : StringForm name nameText) (hBefore : AllBlank before) (rest : List Char) :
    skipKey (blank ++ (nameText ++ (before ++ ':' :: rest))) = .ok rest := by
  obtain ⟨body, rfl, hBody⟩ := hName.skipString
  rw [skipKey, skipBlanks_append hBlank]
  change (skipString (body ++ _) >>= colon) = _
  rw [hBody]
  exact colon_append hBefore rest

theorem MemberForm.passedBehindComma {name text : List Char} {value : List Char → Prop}
    (h : MemberForm name value text) (hValue : ∀ text, value text → PassedOver text) :
    PassedBehindComma .object text := by
  obtain @⟨nameText, before, after, text, hName, hBefore, hAfter, hHere⟩ := h
  intro outer blank gap rest hBlank hGap hRest
  have hKey := skipKey_append hGap hName hBefore (after ++ (text ++ rest))
  have hOn : skipOn .object outer (blank ++ ',' ::
      (gap ++ (nameText ++ (before ++ ':' :: (after ++ (text ++ rest)))))) =
      .ok (.value, .object :: outer, after ++ (text ++ rest)) := by
    unfold skipOn
    rw [skipBlanks_append hBlank]
    change (skipKey _ >>= _) = _
    rw [hKey]
    rfl
  have hPassed := hValue text hHere (.object :: outer) after rest hAfter hRest
  simp only [List.append_assoc, List.cons_append] at hOn ⊢
  refine (leads_of_on hOn ?_).trans hPassed
  simp only [List.length_append, List.length_cons]
  omega

/-- An object is passed over if the values of its members are. -/
theorem passedOver_object {α : Type} {name : α → List Char} {value : α → List Char → Prop}
    (hValue : ∀ a text, value a text → PassedOver text) {items : List α} {text : List Char}
    (h : EnclosedForm (fun a => MemberForm (name a) (value a)) '\x7b' '\x7d' items text) :
    PassedOver text := by
  cases h with
  | @empty blank hBlank =>
      refine passedOver_of_start (List.cons_ne_nil _ _) fun opened rest _ => ?_
      rw [List.cons_append, List.append_assoc]
      exact skipStart_object_close opened hBlank rest
  | @items a items blank text tail hBlank hHere hRest =>
      intro opened before rest hBefore hEnd
      have hLater := leads_following .object
        (fun a _ h => MemberForm.passedBehindComma h (hValue a)) hRest opened rest
      obtain @⟨nameText, colonBefore, after, text, hName, hColonBefore, hAfter, hHere⟩ := hHere
      have hFirst := hValue a text hHere (.object :: opened) after (tail ++ '\x7d' :: rest) hAfter
        (hRest.endsNumber (.inr (.inr rfl)) rest)
      have hKey := skipKey_append allBlank_nil hName hColonBefore
        (after ++ (text ++ (tail ++ '\x7d' :: rest)))
      obtain ⟨body, rfl, -⟩ := hName.skipString
      have hOpen := (skipStart_append hBefore opened _).trans (skipStart_object_first opened hBlank
        (body ++ (colonBefore ++ ':' :: (after ++ (text ++ (tail ++ '\x7d' :: rest))))))
      rw [List.nil_append, List.cons_append] at hKey
      rw [hKey] at hOpen
      simp only [List.append_assoc, List.cons_append, List.nil_append] at hFirst ⊢
      refine ((leads_of_start hOpen ?_).trans hFirst).trans hLater
      simp only [List.length_append, List.length_cons]
      omega

namespace Tree

/-- Every written form of a tree is passed over as one value. -/
theorem FormWithin.passedOver {size : Nat} {t : Tree} {text : List Char}
    (h : t.FormWithin size text) : PassedOver text := by
  induction size using Nat.strong_induction_on generalizing t text with
  | _ size ih =>
      cases t with
      | null =>
          rw [FormWithin] at h
          exact h ▸ passedOver_of_start (List.cons_ne_nil _ _) fun _ _ _ => rfl
      | boolean b =>
          cases b <;>
          · rw [FormWithin] at h
            exact h ▸ passedOver_of_start (List.cons_ne_nil _ _) fun _ _ _ => rfl
      | number l =>
          rw [FormWithin] at h
          obtain ⟨c, tail, hText, -⟩ := l.exists_head
          exact h ▸ passedOver_of_start (hText ▸ List.cons_ne_nil c tail)
            fun opened rest hRest => skipStart_number l opened hRest
      | string s =>
          rw [FormWithin] at h
          obtain ⟨body, rfl, hBody⟩ := h.skipString
          refine passedOver_of_start (List.cons_ne_nil _ _) fun opened rest _ => ?_
          change (skipString (body ++ rest) >>= _) = _
          rw [hBody]
          rfl
      | array items =>
          cases size with
          | zero => exact h.elim
          | succ size =>
              exact passedOver_array (fun _ _ hItem => ih size size.lt_succ_self hItem)
                (fun _ _ hItem => hItem.exists_head) h
      | object members =>
          cases size with
          | zero => exact h.elim
          | succ size =>
              exact passedOver_object (fun _ _ hItem => ih size size.lt_succ_self hItem) h

/-- A value that nobody asks for is passed over, whatever it is and whatever follows. -/
theorem Form.skipValue {t : Tree} {text : List Char} (h : t.Form text) {blank rest : List Char}
    (hBlank : AllBlank blank) (hRest : EndsNumber rest) :
    skipValue (blank ++ (text ++ rest)) = .ok rest := by
  obtain ⟨size, hText⟩ := h
  exact (hText.passedOver [] blank rest hBlank hRest).skipValue

end Tree

end EquityScreen.Json
