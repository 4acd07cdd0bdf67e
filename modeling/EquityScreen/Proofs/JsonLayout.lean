import EquityScreen.Proofs.JsonLiterals
import EquityScreen.Proofs.JsonStrings
import Mathlib.Data.List.Forall2

/-! Arrays and objects in JSON with white space anywhere between their parts. The loops over
elements and members read every written form: they take one item after another into the
account of those before, and end with the account of all items. -/
namespace EquityScreen.Json

/-- White space in the sense of JSON. -/
def AllBlank (cs : List Char) : Prop := ∀ c ∈ cs, isBlank c = true

theorem allBlank_nil : AllBlank [] := fun _ h => absurd h List.not_mem_nil

theorem allBlank_newLine (depth : Nat) : AllBlank (newLine depth) := by
  intro c hc
  rcases List.mem_cons.mp hc with rfl | hc
  · rfl
  · rw [List.eq_of_mem_replicate hc]
    rfl

theorem skipBlanks_append {blank : List Char} (h : AllBlank blank) (cs : List Char) :
    skipBlanks (blank ++ cs) = skipBlanks cs :=
  List.dropWhile_append_of_pos h

theorem skipBlanks_of_head {c : Char} (h : isBlank c = false) (cs : List Char) :
    skipBlanks (c :: cs) = c :: cs :=
  List.dropWhile_cons_of_neg (by simp [h])

/-- The marks that may follow an item of an array or object. -/
def IsMark (c : Char) : Prop := c = ',' ∨ c = ']' ∨ c = '\x7d'

/-- White space and a mark end a number. -/
theorem endsNumber_mark {blank : List Char} (h : AllBlank blank) {mark : Char}
    (hMark : IsMark mark) (rest : List Char) : EndsNumber (blank ++ mark :: rest) := by
  intro c hc
  cases blank with
  | nil =>
      cases hc
      rcases hMark with rfl | rfl | rfl <;> decide
  | cons d blank =>
      cases hc
      have hBlank := h c List.mem_cons_self
      simp only [isBlank, Bool.or_eq_true, beq_iff_eq] at hBlank
      rcases hBlank with ((rfl | rfl) | rfl) | rfl <;> decide

theorem isBlank_of_isDigit {c : Char} (h : c.isDigit = true) : isBlank c = false := by
  rw [Bool.eq_false_iff]
  intro hBlank
  simp only [isBlank, Bool.or_eq_true, beq_iff_eq] at hBlank
  rcases hBlank with ((rfl | rfl) | rfl) | rfl <;> exact absurd h (by decide)

theorem colon_append {blank : List Char} (h : AllBlank blank) (rest : List Char) :
    colon (blank ++ ':' :: rest) = .ok rest := by
  rw [colon, skipBlanks_append h]
  rfl

theorem closeObject_append {blank : List Char} (h : AllBlank blank) (rest : List Char) :
    closeObject (blank ++ '\x7d' :: rest) = .ok rest := by
  rw [closeObject, skipBlanks_append h]
  rfl

theorem closeArray_append {blank : List Char} (h : AllBlank blank) (rest : List Char) :
    closeArray (blank ++ ']' :: rest) = .ok rest := by
  rw [closeArray, skipBlanks_append h]
  rfl

/-! One step to the next item. -/

section Steps

variable {before after : List Char} (hBefore : AllBlank before) (hAfter : AllBlank after)
include hBefore

theorem nextMember_first (body : List Char) :
    nextMember true (before ++ '"' :: body) = .ok (some body) := by
  rw [nextMember, skipBlanks_append hBefore]
  rfl

theorem nextMember_close (isFirst : Bool) (rest : List Char) :
    nextMember isFirst (before ++ '\x7d' :: rest) = .ok none := by
  rw [nextMember, skipBlanks_append hBefore]
  rfl

theorem nextElement_close (isFirst : Bool) (rest : List Char) :
    nextElement isFirst (before ++ ']' :: rest) = .ok none := by
  rw [nextElement, skipBlanks_append hBefore]
  rfl

theorem nextElement_first {c : Char} (hBlank : isBlank c = false) (hClose : c ≠ ']')
    (rest : List Char) :
    nextElement true (before ++ c :: rest) = .ok (some (c :: rest)) := by
  rw [nextElement, skipBlanks_append hBefore, skipBlanks_of_head hBlank]
  split
  · next h => cases h
  · next h => exact absurd (List.cons.inj h).1 hClose
  · next h =>
      cases h
      rfl

include hAfter

theorem nextMember_comma (body : List Char) :
    nextMember false (before ++ ',' :: (after ++ '"' :: body)) = .ok (some body) := by
  have hComma : skipBlanks (before ++ ',' :: (after ++ '"' :: body)) =
      ',' :: (after ++ '"' :: body) := skipBlanks_append hBefore _
  have hQuote : skipBlanks (after ++ '"' :: body) = '"' :: body := skipBlanks_append hAfter _
  rw [nextMember, hComma]
  simp [hQuote]

theorem nextElement_comma {c : Char} (hBlank : isBlank c = false) (hClose : c ≠ ']')
    (rest : List Char) :
    nextElement false (before ++ ',' :: (after ++ c :: rest)) = .ok (some (c :: rest)) := by
  have hComma : skipBlanks (before ++ ',' :: (after ++ c :: rest)) =
      ',' :: (after ++ c :: rest) := skipBlanks_append hBefore _
  have hNext : skipBlanks (after ++ c :: rest) = c :: rest :=
    (skipBlanks_append hAfter _).trans (skipBlanks_of_head hBlank rest)
  rw [nextElement, hComma]
  split
  case h_1 h => cases h
  case h_2 h => exact absurd (List.cons.inj h).1 (by decide)
  case h_3 h =>
    obtain ⟨rfl, rfl⟩ := List.cons.inj h
    rw [if_neg Bool.false_ne_true, if_pos rfl, hNext]
    split
    · next h => cases h
    · next h => exact absurd (List.cons.inj h).1 hClose
    · rfl

end Steps

/-! The written forms of several items, given those of one. -/

section Forms

variable {α : Type} (item : α → List Char → Prop)

/-- The written forms of the items behind another one. -/
inductive FollowingForm : List α → List Char → Prop
  | none {blank : List Char} (hBlank : AllBlank blank) : FollowingForm [] blank
  | comma {a : α} {items : List α} {before after text rest : List Char}
      (hBefore : AllBlank before) (hAfter : AllBlank after) (hItem : item a text)
      (hRest : FollowingForm items rest) :
      FollowingForm (a :: items) (before ++ ',' :: (after ++ (text ++ rest)))

/-- The written forms of items between an opening and a closing mark. -/
inductive EnclosedForm (opening closing : Char) : List α → List Char → Prop
  | empty {blank : List Char} (hBlank : AllBlank blank) :
      EnclosedForm opening closing [] (opening :: (blank ++ [closing]))
  | items {a : α} {items : List α} {blank text rest : List Char} (hBlank : AllBlank blank)
      (hItem : item a text) (hRest : FollowingForm item items rest) :
      EnclosedForm opening closing (a :: items)
        (opening :: (blank ++ (text ++ (rest ++ [closing]))))

/-- The written forms of a member of an object, given those of its value. -/
inductive MemberForm (name : List Char) (value : List Char → Prop) : List Char → Prop
  | mk {nameText before after text : List Char} (hName : StringForm name nameText)
      (hBefore : AllBlank before) (hAfter : AllBlank after) (hValue : value text) :
      MemberForm name value (nameText ++ (before ++ ':' :: (after ++ text)))

end Forms

variable {α : Type} {item : α → List Char → Prop}

section Change

variable {β : Type} {other : β → List Char → Prop} (f : α → β)

/-- Items may be taken for others of which they have written forms. -/
theorem FollowingForm.map {items : List α} {text : List Char} (h : FollowingForm item items text)
    (hItem : ∀ a ∈ items, ∀ text, item a text → other (f a) text) :
    FollowingForm other (items.map f) text := by
  induction h with
  | none hBlank => exact .none hBlank
  | comma hBefore hAfter hHere _ ih =>
      exact .comma hBefore hAfter (hItem _ List.mem_cons_self _ hHere)
        (ih fun a ha => hItem a (List.mem_cons_of_mem _ ha))

theorem EnclosedForm.map {opening closing : Char} {items : List α} {text : List Char}
    (h : EnclosedForm item opening closing items text)
    (hItem : ∀ a ∈ items, ∀ text, item a text → other (f a) text) :
    EnclosedForm other opening closing (items.map f) text := by
  cases h with
  | empty hBlank => exact .empty hBlank
  | items hBlank hHere hRest =>
      exact .items hBlank (hItem _ List.mem_cons_self _ hHere)
        (hRest.map f fun a ha => hItem a (List.mem_cons_of_mem _ ha))

end Change

theorem EnclosedForm.mono {other : α → List Char → Prop} {opening closing : Char} {items : List α}
    {text : List Char} (h : EnclosedForm item opening closing items text)
    (hItem : ∀ a ∈ items, ∀ text, item a text → other a text) :
    EnclosedForm other opening closing items text := by
  have hSame := h.map id hItem
  rwa [List.map_id] at hSame

theorem MemberForm.mono {name text : List Char} {value other : List Char → Prop}
    (h : MemberForm name value text) (hValue : ∀ text, value text → other text) :
    MemberForm name other text := by
  obtain ⟨hName, hBefore, hAfter, hHere⟩ := h
  exact ⟨hName, hBefore, hAfter, hValue _ hHere⟩

theorem EnclosedForm.exists_cons {opening closing : Char} {items : List α} {text : List Char}
    (h : EnclosedForm item opening closing items text) : ∃ tail, text = opening :: tail := by
  cases h <;> exact ⟨_, rfl⟩

/-- What follows an item ends a number. -/
theorem FollowingForm.endsNumber {items : List α} {text : List Char}
    (h : FollowingForm item items text) {closing : Char} (hClosing : IsMark closing)
    (rest : List Char) : EndsNumber (text ++ closing :: rest) := by
  cases h with
  | none hBlank => exact endsNumber_mark hBlank hClosing rest
  | comma hBefore _ _ _ =>
      rw [List.append_assoc]
      exact endsNumber_mark hBefore (.inl rfl) _

/-- Every item takes at least its comma, so that there are rounds enough for all of them. -/
theorem FollowingForm.length_le {items : List α} {text : List Char}
    (h : FollowingForm item items text) : items.length ≤ text.length := by
  induction h with
  | none => exact Nat.zero_le _
  | comma _ _ _ _ ih =>
      simp only [List.length_append, List.length_cons]
      omega

/-! The loops take items from the account of those before to the account of all. If a step fails,
there is no account from then on, and the loop fails as well. -/

section Rounds

variable {ε σ τ : Type}

theorem toOption_bind (x : Except ε σ) (f : σ → Except ε τ) :
    (x >>= f).toOption = x.toOption.bind fun a => (f a).toOption := by
  cases x <;> rfl

theorem toOption_eq_some {x : Except ε σ} {a : σ} : x.toOption = some a ↔ x = .ok a := by
  cases x <;> simp [Except.toOption]

theorem toOption_eq_none {x : Except ε σ} (h : ∀ a, x ≠ .ok a) : x.toOption = none :=
  Option.eq_none_iff_forall_ne_some.mpr fun a ha => h a (toOption_eq_some.mp ha)

/-- One round of a loop goes on with the account after its step. -/
theorem bind_round {before after : Option σ} {step : σ → Except ε (σ × List Char)}
    {rest : List Char}
    (h : (before.bind fun s => (step s).toOption) = after.map fun s => (s, rest))
    (next : σ × List Char → Except ε τ) :
    (before.bind fun s => (step s >>= next).toOption) =
      after.bind fun s => (next (s, rest)).toOption := by
  simp only [toOption_bind]
  rw [← Option.bind_assoc, h, Option.bind_map]
  rfl

/-- What a list is collected into, one more element being put in front of those before. -/
theorem mapM_append_reverse (f : σ → Option τ) (front : List σ) (a : σ) :
    ((front ++ [a]).mapM f).map List.reverse =
      ((front.mapM f).map List.reverse).bind fun before => (f a).map (· :: before) := by
  rw [List.mapM_append, List.mapM_cons, List.mapM_nil]
  cases front.mapM f <;> cases f a <;> simp

end Rounds

section Elements

variable {σ : Type} {step : σ → Reader σ}

theorem elementsFrom_element {n : Nat} {isFirst : Bool} {start : σ} {cs element : List Char}
    (hNext : nextElement isFirst cs = .ok (some element)) :
    elementsFrom step (n + 1) isFirst start cs =
      step start element >>= fun (account, rest) => elementsFrom step n false account rest := by
  simp only [elementsFrom, hNext, bind, Except.bind]

theorem elementsFrom_close {blank : List Char} (hBlank : AllBlank blank) (n : Nat) (isFirst : Bool)
    (start : σ) (rest : List Char) :
    elementsFrom step (n + 1) isFirst start (blank ++ ']' :: rest) = .ok (start, rest) := by
  simp only [elementsFrom, nextElement_close hBlank, closeArray_append hBlank, bind, Except.bind]

variable {account : List α → Option σ}
  (hStart : ∀ a text, item a text → ∃ c tail, text = c :: tail ∧ isBlank c = false ∧ c ≠ ']')
include hStart

/-- The loop over the elements behind another one. -/
theorem elementsFrom_following {items : List α} {text : List Char}
    (h : FollowingForm item items text) (before : List α)
    (hStep : ∀ front a back, before ++ items = front ++ a :: back →
      ∀ text, item a text → ∀ rest, EndsNumber rest →
        ((account front).bind fun s => (step s (text ++ rest)).toOption) =
          (account (front ++ [a])).map fun s => (s, rest))
    {n : Nat} (hEnough : items.length < n) (rest : List Char) :
    ((account before).bind fun s => (elementsFrom step n false s (text ++ ']' :: rest)).toOption) =
      (account (before ++ items)).map fun s => (s, rest) := by
  induction h generalizing before n with
  | none hBlank =>
      obtain ⟨n, rfl⟩ := Nat.exists_eq_add_one_of_ne_zero (by omega : n ≠ 0)
      simp only [elementsFrom_close hBlank, List.append_nil]
      exact Option.map_eq_bind.symm
  | @comma a items blank gap text tail hBlank hGap hItem hRest ih =>
      obtain ⟨n, rfl⟩ := Nat.exists_eq_add_one_of_ne_zero (by omega : n ≠ 0)
      have hTaken := hStep before a items rfl text hItem (tail ++ ']' :: rest)
        (hRest.endsNumber (.inr (.inl rfl)) rest)
      obtain ⟨c, more, rfl, hHead, hClose⟩ := hStart a text hItem
      have hNext := nextElement_comma hBlank hGap hHead hClose (more ++ (tail ++ ']' :: rest))
      have hLater := ih (before ++ [a]) (n := n)
        (fun front b back hSplit => hStep front b back (by simpa using hSplit))
        (by simpa using hEnough)
      simp only [List.append_assoc, List.cons_append, List.nil_append] at hTaken hNext hLater ⊢
      simp only [elementsFrom_element hNext]
      exact (bind_round hTaken _).trans hLater

variable (step account) in
/-- Reading an array takes all of its elements. -/
theorem elements_account {items : List α} {text : List Char}
    (h : EnclosedForm item '[' ']' items text)
    (hStep : ∀ front a back, items = front ++ a :: back →
      ∀ text, item a text → ∀ rest, EndsNumber rest →
        ((account front).bind fun s => (step s (text ++ rest)).toOption) =
          (account (front ++ [a])).map fun s => (s, rest)) :
    ∃ body, text = '[' :: body ∧
      ∀ rest, ((account []).bind fun s => (elements step s (body ++ rest)).toOption) =
        (account items).map fun s => (s, rest) := by
  cases h with
  | @empty blank hBlank =>
      refine ⟨_, rfl, fun rest => ?_⟩
      rw [List.append_assoc]
      simp only [elements, List.cons_append, List.nil_append, elementsFrom_close hBlank]
      exact Option.map_eq_bind.symm
  | @items a items blank text tail hBlank hItem hRest =>
      refine ⟨_, rfl, fun rest => ?_⟩
      have hTaken := hStep [] a items rfl text hItem (tail ++ ']' :: rest)
        (hRest.endsNumber (.inr (.inl rfl)) rest)
      obtain ⟨c, more, rfl, hHead, hClose⟩ := hStart a text hItem
      have hNext := nextElement_first hBlank hHead hClose (more ++ (tail ++ ']' :: rest))
      have hLength := hRest.length_le
      have hLater := elementsFrom_following hStart hRest [a] hStep
        (n := (blank ++ c :: (more ++ (tail ++ ']' :: rest))).length)
        (by simp only [List.length_append, List.length_cons]; omega) rest
      simp only [List.append_assoc, List.cons_append, List.nil_append] at hTaken hNext hLater ⊢
      simp only [elements, elementsFrom_element hNext]
      exact (bind_round hTaken _).trans hLater

/-- The elements of an array are read one by one, and put in front of those before. -/
theorem elements_collect {β : Type} {read : Reader β} {meaning : α → Option β} {items : List α}
    {text : List Char} (h : EnclosedForm item '[' ']' items text)
    (hRead : ∀ a ∈ items, ∀ text, item a text → ∀ rest, EndsNumber rest →
      (read (text ++ rest)).toOption = (meaning a).map fun b => (b, rest)) :
    ∃ body, text = '[' :: body ∧ ∀ rest,
      (elements (fun before rest => read rest >>= fun (b, rest) => .ok (b :: before, rest)) []
        (body ++ rest)).toOption =
      (items.mapM meaning).map fun bs => (bs.reverse, rest) := by
  obtain ⟨body, hBody, hElements⟩ := elements_account
    (fun before rest => read rest >>= fun (b, rest) => .ok (b :: before, rest))
    (fun front => (front.mapM meaning).map List.reverse) hStart h
    fun front a back hSplit text hItem rest hRest => by
      have hHere := hRead a (hSplit ▸ List.mem_append_cons_self) text hItem rest hRest
      rw [mapM_append_reverse, Option.map_bind]
      refine Option.bind_congr fun before _ => ?_
      rw [toOption_bind, hHere]
      cases meaning a <;> rfl
  refine ⟨body, hBody, fun rest => (hElements rest).trans ?_⟩
  rw [Option.map_map]
  rfl

end Elements

section Members

variable {σ : Type} {step : List Char → σ → Reader σ}

theorem membersFrom_member {n : Nat} {isFirst : Bool} {start : σ} {cs body name rest : List Char}
    (hNext : nextMember isFirst cs = .ok (some body)) (hName : stringBody body = .ok (name, rest)) :
    membersFrom step (n + 1) isFirst start cs =
      step name start rest >>= fun (account, rest) => membersFrom step n false account rest := by
  simp only [membersFrom, hNext, hName, bind, Except.bind]

/-- The first member is taken into the account. -/
theorem membersFrom_first {blank : List Char} (hBlank : AllBlank blank) {name nameText : List Char}
    (hName : StringForm name nameText) (n : Nat) (start : σ) (rest : List Char) :
    membersFrom step (n + 1) true start (blank ++ (nameText ++ rest)) =
      step name start rest >>= fun (account, rest) => membersFrom step n false account rest := by
  obtain ⟨body, rfl, hBody⟩ := hName.exists_body
  exact membersFrom_member (nextMember_first hBlank (body ++ rest)) (hBody rest)

/-- And so is every member behind a comma. -/
theorem membersFrom_comma {before after : List Char} (hBefore : AllBlank before)
    (hAfter : AllBlank after) {name nameText : List Char} (hName : StringForm name nameText)
    (n : Nat) (start : σ) (rest : List Char) :
    membersFrom step (n + 1) false start (before ++ ',' :: (after ++ (nameText ++ rest))) =
      step name start rest >>= fun (account, rest) => membersFrom step n false account rest := by
  obtain ⟨body, rfl, hBody⟩ := hName.exists_body
  exact membersFrom_member (nextMember_comma hBefore hAfter (body ++ rest)) (hBody rest)

theorem membersFrom_close {blank : List Char} (hBlank : AllBlank blank) (n : Nat) (isFirst : Bool)
    (start : σ) (rest : List Char) :
    membersFrom step (n + 1) isFirst start (blank ++ '\x7d' :: rest) =
      .ok (start, blank ++ '\x7d' :: rest) := by
  simp only [membersFrom, nextMember_close hBlank, bind, Except.bind]

variable {name : α → List Char} {value : α → List Char → Prop} {account : List α → Option σ}

/-- The loop over the members behind another one. -/
theorem membersFrom_following {items : List α} {text : List Char}
    (h : FollowingForm (fun a => MemberForm (name a) (value a)) items text) (before : List α)
    (hStep : ∀ front a back, before ++ items = front ++ a :: back →
      ∀ blank gap text, AllBlank blank → AllBlank gap → value a text → ∀ rest, EndsNumber rest →
        ((account front).bind fun s =>
          (step (name a) s (blank ++ ':' :: (gap ++ (text ++ rest)))).toOption) =
            (account (front ++ [a])).map fun s => (s, rest))
    {n : Nat} (hEnough : items.length < n) (rest : List Char) :
    ∃ blank, AllBlank blank ∧
      ((account before).bind fun s =>
        (membersFrom step n false s (text ++ '\x7d' :: rest)).toOption) =
          (account (before ++ items)).map fun s => (s, blank ++ '\x7d' :: rest) := by
  induction h generalizing before n with
  | @none blank hBlank =>
      obtain ⟨n, rfl⟩ := Nat.exists_eq_add_one_of_ne_zero (by omega : n ≠ 0)
      refine ⟨blank, hBlank, ?_⟩
      simp only [membersFrom_close hBlank, List.append_nil]
      exact Option.map_eq_bind.symm
  | @comma a items blank gap text tail hBlank hGap hItem hRest ih =>
      obtain ⟨n, rfl⟩ := Nat.exists_eq_add_one_of_ne_zero (by omega : n ≠ 0)
      obtain @⟨nameText, colonBefore, colonAfter, text, hName, hColonBefore, hColonAfter, hValue⟩ :=
        hItem
      obtain ⟨last, hLast, hLater⟩ := ih (before ++ [a]) (n := n)
        (fun front b back hSplit => hStep front b back (by simpa using hSplit))
        (by simpa using hEnough)
      have hTaken := hStep before a items rfl colonBefore colonAfter text hColonBefore hColonAfter
        hValue (tail ++ '\x7d' :: rest) (hRest.endsNumber (.inr (.inr rfl)) rest)
      refine ⟨last, hLast, ?_⟩
      simp only [List.append_assoc, List.cons_append, List.nil_append] at hLater ⊢
      simp only [membersFrom_comma hBlank hGap hName]
      exact (bind_round hTaken _).trans hLater

variable (step account) in
/-- Reading an object takes all of its members, up to white space and the closing brace. -/
theorem members_account {items : List α} {text : List Char}
    (h : EnclosedForm (fun a => MemberForm (name a) (value a)) '\x7b' '\x7d' items text)
    (hStep : ∀ front a back, items = front ++ a :: back →
      ∀ blank gap text, AllBlank blank → AllBlank gap → value a text → ∀ rest, EndsNumber rest →
        ((account front).bind fun s =>
          (step (name a) s (blank ++ ':' :: (gap ++ (text ++ rest)))).toOption) =
            (account (front ++ [a])).map fun s => (s, rest)) :
    ∃ body, text = '\x7b' :: body ∧ ∀ rest, ∃ blank, AllBlank blank ∧
      ((account []).bind fun s => (members step s (body ++ rest)).toOption) =
        (account items).map fun s => (s, blank ++ '\x7d' :: rest) := by
  cases h with
  | @empty blank hBlank =>
      refine ⟨_, rfl, fun rest => ⟨blank, hBlank, ?_⟩⟩
      rw [List.append_assoc]
      simp only [members, List.cons_append, List.nil_append, membersFrom_close hBlank]
      exact Option.map_eq_bind.symm
  | @items a items blank text tail hBlank hItem hRest =>
      refine ⟨_, rfl, fun rest => ?_⟩
      obtain @⟨nameText, colonBefore, colonAfter, text, hName, hColonBefore, hColonAfter, hValue⟩ :=
        hItem
      have hTaken := hStep [] a items rfl colonBefore colonAfter text hColonBefore hColonAfter
        hValue (tail ++ '\x7d' :: rest) (hRest.endsNumber (.inr (.inr rfl)) rest)
      have hLength := hRest.length_le
      obtain ⟨last, hLast, hLater⟩ := membersFrom_following hRest [a] hStep
        (n := (blank ++ (nameText ++ (colonBefore ++ ':' :: (colonAfter ++ (text ++
          (tail ++ '\x7d' :: rest)))))).length)
        (by simp only [List.length_append, List.length_cons]; omega) rest
      refine ⟨last, hLast, ?_⟩
      simp only [List.append_assoc, List.cons_append, List.nil_append] at hLater ⊢
      simp only [members, membersFrom_first hBlank hName]
      exact (bind_round hTaken _).trans hLater

end Members

/-! Texts that are laid out in one way throughout are written forms. -/

/-- The texts of items between an opening and a closing mark, with something in front of each item
and in front of the closing mark. -/
def laidOutText (inner last : List Char) (opening closing : Char) : List (List Char) → List Char
  | [] => [opening, closing]
  | text :: texts =>
    opening :: (inner ++ (text ++
      ((texts.flatMap fun text => ',' :: (inner ++ text)) ++ (last ++ [closing]))))

section LaidOut

variable {inner last : List Char} (hInner : AllBlank inner) (hLast : AllBlank last)
include hInner hLast

theorem followingForm_laidOut {items : List α} {texts : List (List Char)}
    (h : List.Forall₂ item items texts) :
    FollowingForm item items ((texts.flatMap fun text => ',' :: (inner ++ text)) ++ last) := by
  induction h with
  | nil => exact .none hLast
  | cons hHere _ ih =>
      have hForm := FollowingForm.comma allBlank_nil hInner hHere ih
      simpa only [List.flatMap_cons, List.nil_append, List.cons_append, List.append_assoc] using
        hForm

theorem enclosedForm_laidOut {items : List α} {texts : List (List Char)}
    (h : List.Forall₂ item items texts) (opening closing : Char) :
    EnclosedForm item opening closing items (laidOutText inner last opening closing texts) := by
  cases h with
  | nil => exact .empty allBlank_nil
  | cons hHere hLater =>
      have hForm : EnclosedForm item opening closing _ _ :=
        .items hInner hHere (followingForm_laidOut hInner hLast hLater)
      rwa [List.append_assoc] at hForm

end LaidOut

/-- The texts of items between an opening and a closing mark, without white space. -/
def enclosedText (opening closing : Char) (texts : List (List Char)) : List Char :=
  laidOutText [] [] opening closing texts

theorem enclosedForm_text {items : List α} {text : α → List Char}
    (h : ∀ a ∈ items, item a (text a)) (opening closing : Char) :
    EnclosedForm item opening closing items (enclosedText opening closing (items.map text)) :=
  enclosedForm_laidOut allBlank_nil allBlank_nil
    (List.forall₂_map_right_iff.mpr (List.forall₂_same.mpr h)) _ _

theorem compactElements_cons (v : Value) (elements : List Value) :
    compactElements (v :: elements) =
      v.compact ++ (elements.map Value.compact).flatMap (',' :: ·) := by
  induction elements generalizing v with
  | nil => rw [compactElements, List.map_nil, List.flatMap_nil, List.append_nil]
  | cons w elements ih =>
      rw [compactElements, ih, List.map_cons, List.flatMap_cons, List.cons_append]
      exact List.cons_ne_nil w elements

theorem compact_array (elements : List Value) :
    (Value.array elements).compact = enclosedText '[' ']' (elements.map Value.compact) := by
  rw [Value.compact]
  cases elements with
  | nil => rfl
  | cons v elements =>
      rw [compactElements_cons, List.cons_append, List.append_assoc]
      rfl

/-- The text of a member, given that of its value. -/
def memberText (name : String) (text : List Char) : List Char :=
  stringText name.toList ++ ':' :: text

theorem memberForm_text {name : String} {value : List Char → Prop} {text : List Char}
    (h : value text) : MemberForm name.toList value (memberText name text) :=
  .mk (stringForm_stringText _) allBlank_nil allBlank_nil h

theorem compactMembers_cons (name : String) (v : Value) (members : List (String × Value)) :
    compactMembers ((name, v) :: members) =
      memberText name v.compact ++
        (members.map fun member => memberText member.1 member.2.compact).flatMap (',' :: ·) := by
  induction members generalizing name v with
  | nil => rw [compactMembers, List.map_nil, List.flatMap_nil, List.append_nil, memberText]
  | cons other members ih =>
      obtain ⟨otherName, w⟩ := other
      rw [compactMembers, ih, List.map_cons, List.flatMap_cons, List.cons_append]
      · rfl
      · exact List.cons_ne_nil _ members

theorem compact_object (members : List (String × Value)) :
    (Value.object members).compact =
      enclosedText '\x7b' '\x7d' (members.map fun member =>
        memberText member.1 member.2.compact) := by
  rw [Value.compact]
  cases members with
  | nil => rfl
  | cons member members =>
      rw [compactMembers_cons, List.cons_append, List.append_assoc]
      rfl

/-! The layout with one element or member on each line. -/

theorem prettyElements_cons (depth : Nat) (v : Value) (elements : List Value) :
    prettyElements depth (v :: elements) =
      newLine (depth + 1) ++ (v.pretty (depth + 1) ++
        (elements.map (Value.pretty (depth + 1))).flatMap fun text =>
          ',' :: (newLine (depth + 1) ++ text)) := by
  induction elements generalizing v with
  | nil => rw [prettyElements, List.map_nil, List.flatMap_nil, List.append_nil]
  | cons w elements ih =>
      rw [prettyElements, ih, List.map_cons, List.flatMap_cons]
      · simp only [List.append_assoc, List.cons_append]
      · exact List.cons_ne_nil w elements

theorem pretty_array (depth : Nat) (elements : List Value) :
    (Value.array elements).pretty depth =
      laidOutText (newLine (depth + 1)) (newLine depth) '[' ']'
        (elements.map (Value.pretty (depth + 1))) := by
  cases elements with
  | nil => rw [Value.pretty, List.map_nil, laidOutText]
  | cons v elements =>
      rw [Value.pretty, prettyElements_cons, List.map_cons, laidOutText]
      simp only [List.append_assoc, List.cons_append]

/-- The text of a member with a space in front of its value. -/
def spacedMemberText (name : String) (text : List Char) : List Char :=
  stringText name.toList ++ ':' :: ' ' :: text

theorem memberForm_spaced {name : String} {value : List Char → Prop} {text : List Char}
    (h : value text) : MemberForm name.toList value (spacedMemberText name text) :=
  have hSpace : AllBlank [' '] := List.forall_mem_singleton.mpr rfl
  .mk (stringForm_stringText _) allBlank_nil hSpace h

theorem prettyMembers_cons (depth : Nat) (name : String) (v : Value)
    (members : List (String × Value)) :
    prettyMembers depth ((name, v) :: members) =
      newLine (depth + 1) ++ (spacedMemberText name (v.pretty (depth + 1)) ++
        (members.map fun member =>
            spacedMemberText member.1 (member.2.pretty (depth + 1))).flatMap fun text =>
          ',' :: (newLine (depth + 1) ++ text)) := by
  induction members generalizing name v with
  | nil =>
      rw [prettyMembers, List.map_nil, List.flatMap_nil, List.append_nil, List.append_assoc]
      rfl
  | cons other members ih =>
      obtain ⟨otherName, w⟩ := other
      rw [prettyMembers, ih, List.map_cons, List.flatMap_cons]
      · simp only [spacedMemberText, List.append_assoc, List.cons_append]
      · exact List.cons_ne_nil _ members

theorem pretty_object (depth : Nat) (members : List (String × Value)) :
    (Value.object members).pretty depth =
      laidOutText (newLine (depth + 1)) (newLine depth) '\x7b' '\x7d'
        (members.map fun member => spacedMemberText member.1 (member.2.pretty (depth + 1))) := by
  cases members with
  | nil => rw [Value.pretty, List.map_nil, laidOutText]
  | cons member members =>
      rw [Value.pretty, prettyMembers_cons, List.map_cons, laidOutText]
      simp only [List.append_assoc, List.cons_append]

end EquityScreen.Json
