import EquityScreen.Proofs.StockReading

/-! JSON texts as trees. A tree keeps its numbers as they are written, so that it may have numbers
of any size, and its objects keep all of their members. Every written form of a tree is read as the
same value, as long as its numbers are in range and it is not nested too deeply, and it is refused
otherwise. -/
namespace EquityScreen.Json

/-- A value as it is written in JSON. Its strings are texts, so that no escape in them stands for
half of a surrogate pair. -/
inductive Tree where
  | null
  | boolean (b : Bool)
  | number (l : Literal)
  | string (s : List Char)
  | array (elements : List Tree)
  | object (members : List (List Char × Tree))

namespace Literal

/-- The number is in the range of finite doubles, and its exponent in that of the reader. -/
def Fits (l : Literal) : Prop := l.InRange ∧ l.value.isFinite = true

instance (l : Literal) : Decidable l.InRange :=
  inferInstanceAs (Decidable (_ ∨ ∀ e ∈ l.exponent, e.sign ≠ .minus → _ ≤ _))

instance (l : Literal) : Decidable l.Fits := inferInstanceAs (Decidable (_ ∧ _))

/-- A finite number has its exponent in range, unless it has thousands of millions of digits behind
the point. -/
theorem inRange_of_isFinite {l : Literal} (hFinite : l.value.isFinite = true)
    (hShort : (l.fraction.getD []).length + 400 ≤ maxExponent) : l.InRange := by
  by_contra hRange
  obtain ⟨hSome, hPast⟩ := not_or.mp hRange
  obtain ⟨e, hExponent, hPast⟩ : ∃ e ∈ l.exponent, ¬e.InRange := by
    simpa only [not_forall, exists_prop] using hPast
  obtain ⟨hPlus, hGreat⟩ := Classical.not_imp.mp hPast
  have hPower : l.decimal.exponent =
      (Decimal.digitsValue e.digits : Int) - (l.fraction.getD []).length := by
    rw [decimal, Option.mem_def.mp hExponent, Decimal.ofDigits, Option.elim_some, Exponent.value,
      if_neg hPlus]
  have hLarge : 400 < l.decimal.exponent := by omega
  have hMagnitude : l.decimal.toMagnitude = Binary64.infiniteMagnitude := by
    have hNonzero : ¬(l.decimal.digits = 0 ∨
        (l.decimal.digits.log2 : Int) < 3 * (-l.decimal.exponent - 400)) := by omega
    rw [Decimal.toMagnitude, if_neg hNonzero, if_pos hLarge]
  have hInfinite : ∀ negative,
      (Binary64.ofMagnitude negative Binary64.infiniteMagnitude).isFinite = false := by decide
  rw [value, Decimal.toBinary64, hMagnitude, hInfinite] at hFinite
  cases hFinite

/-- What the literal is read as. -/
def number? (l : Literal) : Option Number :=
  if l.InRange then
    (numberOfParts l.negative l.whole l.fraction (l.exponent.map Exponent.value) []).toOption.map
      Prod.fst
  else none

theorem toOption_numberOfParts (negative : Bool) (whole : List Char) (fraction : Option (List Char))
    (exponent : Option Int) (rest : List Char) :
    (numberOfParts negative whole fraction exponent rest).toOption =
      ((numberOfParts negative whole fraction exponent []).toOption.map Prod.fst).map
        fun n => (n, rest) := by
  unfold numberOfParts
  split
  · rfl
  · dsimp only
    split <;> rfl

variable (l : Literal)

/-- A literal is read to its end or refused. -/
theorem number_append {rest : List Char} (hRest : EndsNumber rest) :
    (number (l.text ++ rest)).toOption = l.number?.map fun n => (n, rest) := by
  rw [l.number_text_append hRest, number?]
  by_cases hRange : l.InRange
  · rw [l.exponentPart_exponentText hRange hRest, if_pos hRange]
    exact toOption_numberOfParts _ _ _ _ _
  · obtain ⟨hSome, hPast⟩ := not_or.mp hRange
    obtain ⟨e, hExponent, hPast⟩ : ∃ e ∈ l.exponent, ¬e.InRange := by
      simpa only [not_forall, exists_prop] using hPast
    obtain ⟨error, hError⟩ := exponentPart_past hPast hRest.no_digit
    have hText : l.exponentText = e.text := by
      rw [exponentText, Option.mem_def.mp hExponent]
      rfl
    rw [if_neg hRange, beq_eq_false_iff_ne.mpr hSome, hText, hError]
    rfl

theorem number?_eq_some_iff {n : Number} :
    l.number? = some n ↔ l.InRange ∧ ∃ rest, numberOfParts l.negative l.whole l.fraction
      (l.exponent.map Exponent.value) [] = .ok (n, rest) := by
  simp only [number?, Option.ite_none_right_eq_some, Option.map_eq_some_iff, toOption_eq_some,
    Prod.exists, exists_and_right, exists_eq_right]

theorem toBinary64_number? {n : Number} (h : l.number? = some n) : n.toBinary64 = l.value := by
  obtain ⟨-, _, hParts⟩ := l.number?_eq_some_iff.mp h
  exact l.toBinary64_of_numberOfParts hParts

theorem isSome_number? : l.number?.isSome = true ↔ l.Fits := by
  rw [Option.isSome_iff_exists]
  constructor
  · rintro ⟨n, hNumber⟩
    obtain ⟨hRange, _, hParts⟩ := l.number?_eq_some_iff.mp hNumber
    exact ⟨hRange, l.toBinary64_number? hNumber ▸ isFinite_of_numberOfParts hParts⟩
  · rintro ⟨hRange, hFinite⟩
    obtain ⟨n, hParts⟩ := l.exists_numberOfParts hFinite []
    exact ⟨n, l.number?_eq_some_iff.mpr ⟨hRange, [], hParts⟩⟩

/-- A literal starts with a minus sign or a digit. -/
theorem exists_head : ∃ c tail, l.text = c :: tail ∧ (c = '-' ∨ c.isDigit = true) := by
  obtain ⟨c, whole, hWhole⟩ := List.exists_cons_of_ne_nil l.whole_ne_nil
  have hDigit := l.isDigit_whole c (hWhole ▸ List.mem_cons_self)
  rw [text, hWhole]
  cases l.negative with
  | true => exact ⟨_, _, rfl, .inl rfl⟩
  | false => exact ⟨_, _, rfl, .inr hDigit⟩

end Literal

namespace Tree

/-- The written forms of trees in which at most so many arrays and objects are nested. -/
def FormWithin : Nat → Tree → List Char → Prop
  | _, .null, text => text = "null".toList
  | _, .boolean true, text => text = "true".toList
  | _, .boolean false, text => text = "false".toList
  | _, .number l, text => text = l.text
  | _, .string s, text => StringForm s text
  | 0, .array _, _ => False
  | 0, .object _, _ => False
  | depth + 1, .array elements, text => EnclosedForm (FormWithin depth) '[' ']' elements text
  | depth + 1, .object members, text =>
    EnclosedForm (fun member => MemberForm member.1 (FormWithin depth member.2)) '\x7b' '\x7d'
      members text

/-- The written forms of a tree. -/
def Form (t : Tree) (text : List Char) : Prop := ∃ depth, FormWithin depth t text

/-- At most so many arrays and objects are nested in the tree, and all of its numbers are in
range. -/
def Fits : Nat → Tree → Prop
  | _, .null => True
  | _, .boolean _ => True
  | _, .number l => l.Fits
  | _, .string _ => True
  | 0, .array _ => False
  | 0, .object _ => False
  | depth + 1, .array elements => ∀ t ∈ elements, Fits depth t
  | depth + 1, .object members => ∀ member ∈ members, Fits depth member.2

/-- The value that is read, with at most so many arrays and objects inside one another. -/
def value? : Nat → Tree → Option Value
  | _, .null => some .null
  | _, .boolean b => some (.boolean b)
  | _, .number l => l.number?.map .number
  | _, .string s => some (.string s)
  | 0, .array _ => none
  | 0, .object _ => none
  | depth + 1, .array elements => (elements.mapM (value? depth)).map .array
  | depth + 1, .object members =>
    (members.mapM fun member => (value? depth member.2).map (String.ofList member.1, ·)).map .object

/-- The member that is read, given how deep its value may be nested. -/
def member? (depth : Nat) (member : List Char × Tree) : Option (String × Value) :=
  (member.2.value? depth).map fun v => (String.ofList member.1, v)

/-- The number that a tree is, if it is one. -/
def number? : Tree → Option Binary64
  | .number l => some l.value
  | _ => none

/-- The text of a tree without white space, as far as it is not nested more deeply. -/
def text : Nat → Tree → List Char
  | _, .null => "null".toList
  | _, .boolean true => "true".toList
  | _, .boolean false => "false".toList
  | _, .number l => l.text
  | _, .string s => stringText s
  | 0, .array _ => []
  | 0, .object _ => []
  | depth + 1, .array elements => enclosedText '[' ']' (elements.map (text depth))
  | depth + 1, .object members =>
    enclosedText '\x7b' '\x7d' (members.map fun member =>
      memberText (String.ofList member.1) (text depth member.2))

/-- Every tree has a written form. -/
theorem formWithin_text {depth : Nat} {t : Tree} (h : t.Fits depth) :
    t.FormWithin depth (t.text depth) := by
  induction depth generalizing t with
  | zero =>
      cases t with
      | null | number _ => rfl
      | boolean b => cases b <;> rfl
      | string s => exact stringForm_stringText s
      | array _ | object _ => exact h.elim
  | succ depth ih =>
      cases t with
      | null | number _ => rfl
      | boolean b => cases b <;> rfl
      | string s => exact stringForm_stringText s
      | array elements => exact enclosedForm_text (fun t ht => ih (h t ht)) _ _
      | object members =>
          refine enclosedForm_text (fun member hMember => ?_) _ _
          have hText : MemberForm (String.ofList member.1).toList (FormWithin depth member.2)
              (memberText (String.ofList member.1) (text depth member.2)) :=
            memberForm_text (ih (h member hMember))
          rwa [String.toList_ofList] at hText

/-- The text that a tree is, if it is a string. -/
def string? : Tree → Option (List Char)
  | .string s => some s
  | _ => none

/-! Reading a tree as a value. -/

theorem isSome_mapM {α β : Type} {f : α → Option β} {items : List α} :
    (items.mapM f).isSome = true ↔ ∀ a ∈ items, (f a).isSome = true := by
  induction items with
  | nil => simp
  | cons a items ih =>
      rw [List.mapM_cons, List.forall_mem_cons, ← ih]
      cases f a <;> cases items.mapM f <;> simp

/-- A tree within the limits is a value, and no other tree is. -/
theorem isSome_value? (depth : Nat) (t : Tree) :
    (t.value? depth).isSome = true ↔ t.Fits depth := by
  induction depth generalizing t with
  | zero =>
      cases t with
      | number l =>
          rw [value?, Option.isSome_map]
          exact l.isSome_number?
      | null | boolean _ | string _ => exact iff_of_true rfl trivial
      | array _ | object _ => exact iff_of_false Bool.false_ne_true id
  | succ depth ih =>
      cases t with
      | number l =>
          rw [value?, Option.isSome_map]
          exact l.isSome_number?
      | null | boolean _ | string _ => exact iff_of_true rfl trivial
      | array elements =>
          rw [value?, Option.isSome_map, isSome_mapM, Fits]
          exact forall₂_congr fun t _ => ih t
      | object members =>
          simp only [value?, Option.isSome_map, isSome_mapM, Fits]
          exact forall₂_congr fun member _ => ih member.2

/-- A value is the number that its tree is. -/
theorem number?_of_value? {depth : Nat} {t : Tree} {v : Value} (h : t.value? depth = some v) :
    v.number? = t.number? := by
  cases t with
  | null | boolean _ | string _ =>
      rw [value?] at h
      cases h
      rfl
  | number l =>
      rw [value?] at h
      obtain ⟨n, hNumber, rfl⟩ := Option.map_eq_some_iff.mp h
      exact congrArg some (l.toBinary64_number? hNumber)
  | array _ | object _ =>
      cases depth with
      | zero => cases h
      | succ depth =>
          obtain ⟨_, _, rfl⟩ := Option.map_eq_some_iff.mp h
          rfl

/-- What a tree starts with: neither white space nor the end of an array, and a quote only if it is
a string. -/
theorem FormWithin.exists_start {size : Nat} {t : Tree} {text : List Char}
    (h : t.FormWithin size text) : ∃ c tail, text = c :: tail ∧ isBlank c = false ∧ c ≠ ']' ∧
      (c = '"' → ∃ s, t = .string s) := by
  cases t with
  | null =>
      rw [FormWithin] at h
      exact ⟨_, _, h, rfl, by decide, fun hQuote => absurd hQuote (by decide)⟩
  | boolean b =>
      cases b <;>
      · rw [FormWithin] at h
        exact ⟨_, _, h, rfl, by decide, fun hQuote => absurd hQuote (by decide)⟩
  | number l =>
      rw [FormWithin] at h
      obtain ⟨c, tail, hText, hStart⟩ := l.exists_head
      refine ⟨c, tail, h.trans hText, ?_⟩
      rcases hStart with rfl | hDigit
      · exact ⟨rfl, by decide, fun hQuote => absurd hQuote (by decide)⟩
      · refine ⟨isBlank_of_isDigit hDigit, ?_, ?_⟩ <;>
        · rintro rfl
          exact absurd hDigit (by decide)
  | string s =>
      rw [FormWithin] at h
      obtain ⟨body, hText, -⟩ := h.exists_body
      exact ⟨_, _, hText, rfl, by decide, fun _ => ⟨s, rfl⟩⟩
  | array _ | object _ =>
      cases size with
      | zero => exact h.elim
      | succ size =>
          obtain ⟨tail, hText⟩ := EnclosedForm.exists_cons h
          exact ⟨_, tail, hText, rfl, by decide, fun hQuote => absurd hQuote (by decide)⟩

theorem FormWithin.exists_head {size : Nat} {t : Tree} {text : List Char}
    (h : t.FormWithin size text) :
    ∃ c tail, text = c :: tail ∧ isBlank c = false ∧ c ≠ ']' := by
  obtain ⟨c, tail, hText, hVisible, hClose, -⟩ := h.exists_start
  exact ⟨c, tail, hText, hVisible, hClose⟩

/-- A number is read as a value if it is read as a number. -/
theorem toOption_value_number {l : Literal} {rest : List Char} (hRest : EndsNumber rest)
    (depth : Nat) :
    (value depth (l.text ++ rest)).toOption =
      (l.number?.map Value.number).map fun v => (v, rest) := by
  have hNumber := l.number_append hRest
  obtain ⟨c, tail, hText, hStart⟩ := l.exists_head
  rw [hText, List.cons_append] at hNumber ⊢
  rw [value_of_number hStart, toOption_bind, hNumber]
  cases l.number? <;> rfl

section Nested

variable {item : Tree → List Char → Prop}
  (hRead : ∀ depth t text, item t text → ∀ rest, EndsNumber rest →
    (value depth (text ++ rest)).toOption = (t.value? depth).map fun v => (v, rest))
include hRead

/-- An array is read if its elements are. -/
theorem toOption_value_array
    (hHead : ∀ t text, item t text → ∃ c tail, text = c :: tail ∧ isBlank c = false ∧ c ≠ ']')
    {items : List Tree} {text : List Char} (h : EnclosedForm item '[' ']' items text)
    (depth : Nat) (rest : List Char) :
    (value depth (text ++ rest)).toOption =
      ((Tree.array items).value? depth).map fun v => (v, rest) := by
  cases depth with
  | zero =>
      obtain ⟨tail, rfl⟩ := h.exists_cons
      rfl
  | succ depth =>
      obtain ⟨body, rfl, hElements⟩ := elements_collect hHead h fun t _ => hRead depth t
      have hOpen : value (depth + 1) ('[' :: body ++ rest) =
          elements (fun before rest =>
            value depth rest >>= fun r => .ok (r.1 :: before, r.2)) [] (body ++ rest) >>=
          fun r => .ok (.array r.1.reverse, r.2) := rfl
      rw [hOpen, toOption_bind, hElements, value?]
      cases items.mapM (value? depth) with
      | none => rfl
      | some values =>
          simp only [Option.map_some, Option.bind_some, List.reverse_reverse]
          rfl

/-- An object is read if the values of its members are. -/
theorem toOption_value_object {members : List (List Char × Tree)} {text : List Char}
    (h : EnclosedForm (fun member => MemberForm member.1 (item member.2)) '\x7b' '\x7d' members
      text)
    (depth : Nat) (rest : List Char) :
    (value depth (text ++ rest)).toOption =
      ((Tree.object members).value? depth).map fun v => (v, rest) := by
  cases depth with
  | zero =>
      obtain ⟨tail, rfl⟩ := h.exists_cons
      rfl
  | succ depth =>
      obtain ⟨body, rfl, hMembers⟩ := members_account
        (fun name before rest => do
          let r ← value depth (← colon rest)
          .ok ((String.ofList name, r.1) :: before, r.2))
        (fun front => (front.mapM (member? depth)).map List.reverse) h
        fun front member back _ blank gap text hBlank hGap hItem rest hRest => by
          have hHere := hRead depth member.2 text hItem rest hRest
          rw [mapM_append_reverse, Option.map_bind]
          refine Option.bind_congr fun before _ => ?_
          rw [← value_append hGap] at hHere
          rw [colon_append hBlank]
          change (value depth (gap ++ (text ++ rest)) >>= _).toOption = _
          rw [toOption_bind, hHere, Function.comp_apply, member?]
          cases member.2.value? depth <;> rfl
      obtain ⟨blank, hBlank, hMembers⟩ := hMembers rest
      rw [List.mapM_nil] at hMembers
      have hOpen : value (depth + 1) ('\x7b' :: body ++ rest) =
          Json.members (fun name before rest => do
            let r ← value depth (← colon rest)
            .ok ((String.ofList name, r.1) :: before, r.2)) [] (body ++ rest) >>=
          (fun r => do .ok (.object r.1.reverse, ← closeObject r.2)) := rfl
      rw [hOpen, toOption_bind]
      refine (congrArg (Option.bind · _) hMembers).trans ?_
      rw [value?]
      change _ = ((members.mapM (member? depth)).map Value.object).map _
      cases members.mapM (member? depth) with
      | none => rfl
      | some found =>
          simp only [Option.map_some, Option.bind_some, closeObject_append hBlank,
            List.reverse_reverse]
          rfl

end Nested

/-- Every written form of a tree is read as its value, or refused if it has none. -/
theorem FormWithin.toOption_value {size : Nat} {t : Tree} {text : List Char}
    (h : t.FormWithin size text) (depth : Nat) {rest : List Char} (hRest : EndsNumber rest) :
    (value depth (text ++ rest)).toOption = (t.value? depth).map fun v => (v, rest) := by
  induction size using Nat.strong_induction_on generalizing t text depth rest with
  | _ size ih =>
      cases t with
      | null =>
          rw [FormWithin] at h
          rw [h, value?]
          unfold value
          rfl
      | boolean b =>
          cases b <;>
          · rw [FormWithin] at h
            rw [h, value?]
            unfold value
            rfl
      | number l =>
          rw [FormWithin] at h
          rw [h, value?]
          exact toOption_value_number hRest depth
      | string s =>
          rw [FormWithin] at h
          rw [value_string h, value?]
          rfl
      | array items =>
          cases size with
          | zero => exact h.elim
          | succ size =>
              refine toOption_value_array (fun depth t text hItem rest hRest => ?_)
                (fun _ _ hItem => hItem.exists_head) h depth rest
              exact ih size size.lt_succ_self hItem depth hRest
      | object members =>
          cases size with
          | zero => exact h.elim
          | succ size =>
              refine toOption_value_object (fun depth t text hItem rest hRest => ?_) h depth rest
              exact ih size size.lt_succ_self hItem depth hRest

/-- A tree is read where a string is expected if it is one. -/
theorem FormWithin.toOption_string {size : Nat} {t : Tree} {text : List Char}
    (h : t.FormWithin size text) {blank : List Char} (hBlank : AllBlank blank) (expected : String)
    (rest : List Char) :
    (Json.string expected (blank ++ (text ++ rest))).toOption =
      t.string?.map fun s => (s, rest) := by
  by_cases hString : ∃ s, t = .string s
  · obtain ⟨s, rfl⟩ := hString
    rw [FormWithin] at h
    rw [string_text h hBlank]
    rfl
  · obtain ⟨c, tail, rfl, hVisible, -, hQuote⟩ := h.exists_start
    have hNone : t.string? = none := by
      cases t with
      | string s => exact absurd ⟨s, rfl⟩ hString
      | null | boolean _ | number _ | array _ | object _ => rfl
    rw [hNone, Json.string, skipBlanks_append hBlank, List.cons_append,
      skipBlanks_of_head hVisible]
    split
    · rfl
    · next hText => exact absurd (hQuote (List.cons.inj hText).1) hString
    · exact toOption_eq_none (wrongType_ne_ok _ _)

end Tree

end EquityScreen.Json
