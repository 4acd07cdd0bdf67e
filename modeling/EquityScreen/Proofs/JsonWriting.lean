import EquityScreen.Proofs.JsonMembers
import EquityScreen.Proofs.JsonNumbers
import EquityScreen.Proofs.JsonTrees
import Mathlib.Data.List.Nodup

/-! Values as trees. A tree says the same as a value if it differs from it only in how its numbers
are spelled out, and then the indented text of the value is a written form of the tree. So what a
text shows can be told from its tree alone. Sorting the members of all objects leaves every member
of a value in its tree, under its name. -/
namespace EquityScreen.Json

open Decimal

theorem exists_forall₂ {α β : Type} {R : α → β → Prop} {items : List α}
    (h : ∀ a ∈ items, ∃ b, R a b) : ∃ others, List.Forall₂ R items others := by
  induction items with
  | nil => exact ⟨[], .nil⟩
  | cons a items ih =>
      obtain ⟨⟨b, hHere⟩, hLater⟩ := List.forall_mem_cons.mp h
      obtain ⟨others, hOthers⟩ := ih hLater
      exact ⟨b :: others, .cons hHere hOthers⟩

theorem exists_of_forall₂ {α β : Type} {R : α → β → Prop} {items : List α} {others : List β}
    (h : List.Forall₂ R items others) : ∀ a ∈ items, ∃ b ∈ others, R a b := by
  induction h with
  | nil => exact fun _ hNone => absurd hNone List.not_mem_nil
  | cons hHere _ ih =>
      refine List.forall_mem_cons.mpr ⟨⟨_, List.mem_cons_self, hHere⟩, fun a ha => ?_⟩
      obtain ⟨b, hb, hLater⟩ := ih a ha
      exact ⟨b, List.mem_cons_of_mem _ hb, hLater⟩

/-- The literal is one for the number, in the spelling of the number. -/
def Number.SpelledBy (n : Number) (l : Literal) : Prop := l.text = n.text ∧ l.value = n.toBinary64

/-- A natural number is spelled in decimal digits, without a point or an exponent. -/
theorem exists_spelledBy_integer (n : Nat) : ∃ l, (Number.integer n).SpelledBy l := by
  have hLead : (digitText n).head? ≠ some '0' ∨ digitText n = ['0'] := by
    rcases Nat.eq_zero_or_pos n with rfl | hPositive
    · exact .inr rfl
    · exact .inl (head_digitText hPositive)
  refine ⟨⟨false, digitText n, none, none, digitText_ne_nil n, isDigit_digitText n, hLead,
    fun _ h => absurd h (Option.not_mem_none _), fun _ h => absurd h (Option.not_mem_none _)⟩,
    ?text, ?value⟩
  case text => exact (List.append_nil _).trans Nat.toList_repr.symm
  case value =>
    have hSign : decide ((n : Int) < 0) = false := decide_eq_false (by omega)
    rw [Number.toBinary64, Binary64.ofInt, hSign, Int.natAbs_natCast, Literal.value,
      Literal.decimal]
    simp only [Option.getD_none, Option.elim_none, ofDigits, List.append_nil,
      digitsValue_digitText]
    rfl

namespace Value

/-- The tree says the same as the value, in which at most so many arrays and objects are nested. -/
def SaidBy : Nat → Value → Tree → Prop
  | _, .null, t => t = .null
  | _, .boolean b, t => t = .boolean b
  | _, .number n, t => ∃ l, t = .number l ∧ n.SpelledBy l
  | _, .string s, t => t = .string s
  | 0, .array _, _ => False
  | 0, .object _, _ => False
  | size + 1, .array elements, t =>
    ∃ trees, t = .array trees ∧ List.Forall₂ (SaidBy size) elements trees
  | size + 1, .object members, t =>
    ∃ trees, t = .object trees ∧
      List.Forall₂ (fun m u => u.1 = m.1.toList ∧ SaidBy size m.2 u.2) members trees

/-- The indented text of a value is a written form of every tree that says the same. -/
theorem SaidBy.formWithin_pretty {size : Nat} {v : Value} {t : Tree} (h : v.SaidBy size t)
    (depth : Nat) : t.FormWithin size (v.pretty depth) := by
  induction size using Nat.strong_induction_on generalizing v t depth with
  | _ size ih =>
      cases v with
      | null =>
          rw [SaidBy] at h
          rw [h, pretty, Tree.FormWithin]
      | boolean b =>
          rw [SaidBy] at h
          cases b <;> rw [h, pretty, Tree.FormWithin]
      | number n =>
          rw [SaidBy] at h
          obtain ⟨l, rfl, hText, -⟩ := h
          rw [pretty, Tree.FormWithin, hText]
      | string s =>
          rw [SaidBy] at h
          rw [h, pretty, Tree.FormWithin]
          exact stringForm_stringText s
      | array elements =>
          cases size with
          | zero => exact h.elim
          | succ size =>
              obtain ⟨trees, rfl, hElements⟩ := h
              rw [pretty_array, Tree.FormWithin]
              refine enclosedForm_laidOut (allBlank_newLine _) (allBlank_newLine _) ?_ _ _
              rw [List.forall₂_map_right_iff]
              exact hElements.flip.imp fun _ _ hSaid => ih size size.lt_succ_self hSaid (depth + 1)
      | object members =>
          cases size with
          | zero => exact h.elim
          | succ size =>
              obtain ⟨trees, rfl, hMembers⟩ := h
              rw [pretty_object, Tree.FormWithin]
              refine enclosedForm_laidOut (allBlank_newLine _) (allBlank_newLine _) ?_ _ _
              rw [List.forall₂_map_right_iff]
              refine hMembers.flip.imp fun u m hMember => ?_
              rw [hMember.1]
              exact memberForm_spaced (ih size size.lt_succ_self hMember.2 (depth + 1))

/-! Which values there are trees for. -/

theorem exists_saidBy_array {size : Nat} {elements : List Value} :
    (∃ t, (Value.array elements).SaidBy (size + 1) t) ↔ ∀ v ∈ elements, ∃ t, v.SaidBy size t := by
  constructor
  · rintro ⟨_, trees, -, hElements⟩ v hv
    obtain ⟨t, -, hSaid⟩ := exists_of_forall₂ hElements v hv
    exact ⟨t, hSaid⟩
  · intro h
    obtain ⟨trees, hElements⟩ := exists_forall₂ h
    exact ⟨_, trees, rfl, hElements⟩

theorem exists_saidBy_object {size : Nat} {members : List (String × Value)} :
    (∃ t, (Value.object members).SaidBy (size + 1) t) ↔
      ∀ m ∈ members, ∃ t, m.2.SaidBy size t := by
  constructor
  · rintro ⟨_, trees, -, hMembers⟩ m hm
    obtain ⟨u, -, -, hSaid⟩ := exists_of_forall₂ hMembers m hm
    exact ⟨u.2, hSaid⟩
  · intro h
    have hTrees : ∀ m ∈ members, ∃ u : List Char × Tree,
        u.1 = m.1.toList ∧ m.2.SaidBy size u.2 := fun m hm =>
      (h m hm).elim fun t hSaid => ⟨(m.1.toList, t), rfl, hSaid⟩
    obtain ⟨trees, hMembers⟩ := exists_forall₂ hTrees
    exact ⟨_, trees, rfl, hMembers⟩

theorem exists_saidBy_ofString (size : Nat) (s : String) : ∃ t, (ofString s).SaidBy size t :=
  ⟨.string s.toList, by rw [ofString, SaidBy]⟩

theorem exists_saidBy_ofNat (size n : Nat) : ∃ t, (ofNat n).SaidBy size t := by
  obtain ⟨l, hSpelled⟩ := exists_spelledBy_integer n
  refine ⟨.number l, ?_⟩
  rw [ofNat, SaidBy]
  exact ⟨l, rfl, hSpelled⟩

/-- A double that is not finite is written as null. -/
theorem exists_saidBy_ofBinary64 (size : Nat) (x : Binary64) :
    ∃ t, (ofBinary64 x).SaidBy size t := by
  unfold ofBinary64
  split
  · next hFinite =>
      obtain ⟨l, hText, hValue, -⟩ := exists_literal hFinite
      refine ⟨.number l, ?_⟩
      rw [SaidBy]
      exact ⟨l, rfl, hText, hValue⟩
  · exact ⟨.null, by rw [SaidBy]⟩

/-- Sorting changes nothing of it. -/
theorem exists_saidBy_sortMembers {size : Nat} {v : Value} (h : ∃ t, v.SaidBy size t) :
    ∃ t, v.sortMembers.SaidBy size t := by
  induction size generalizing v with
  | zero =>
      cases v with
      | null | boolean _ | number _ | string _ => exact h
      | array _ | object _ => exact h.elim fun _ hSaid => hSaid.elim
  | succ size ih =>
      cases v with
      | null | boolean _ | number _ | string _ => exact h
      | array elements =>
          rw [exists_saidBy_array] at h
          rw [sortMembers_array, exists_saidBy_array]
          exact List.forall_mem_map.mpr fun v hv => ih (h v hv)
      | object members =>
          rw [exists_saidBy_object] at h
          rw [sortMembers, exists_saidBy_object]
          rintro ⟨name, v⟩ hMem
          obtain ⟨w, hw, rfl⟩ := mem_sortedMembers.mp hMem
          exact ih (h _ hw)

/-- Every member of an object is found in the tree under its name, and no name comes up twice. -/
theorem SaidBy.members_of_sorted {size : Nat} {members : List (String × Value)} {t : Tree}
    (h : (Value.object members).sortMembers.SaidBy (size + 1) t)
    (hNames : (members.map Prod.fst).Nodup) :
    ∃ trees, t = .object trees ∧ (trees.map Prod.fst).Nodup ∧
      ∀ name v, (name, v) ∈ members →
        ∃ u, (name.toList, u) ∈ trees ∧ v.sortMembers.SaidBy size u := by
  obtain ⟨trees, rfl, hMembers⟩ := h
  refine ⟨trees, rfl, ?_, fun name v hMem => ?_⟩
  · have hSame : trees.map Prod.fst = ((sortedMembers members).map Prod.fst).map String.toList := by
      rw [List.map_map, ← List.forall₂_eq_eq_eq, List.forall₂_map_left_iff,
        List.forall₂_map_right_iff]
      exact hMembers.flip.imp fun _ _ hMember => hMember.1
    rw [hSame]
    exact List.Nodup.map (fun _ _ h => String.toList_injective h)
      ((perm_names_sortedMembers members).nodup_iff.mpr hNames)
  · obtain ⟨⟨_, u⟩, hu, rfl, hSaid⟩ :=
      exists_of_forall₂ hMembers (name, v.sortMembers) (mem_sortedMembers.mpr ⟨v, hMem, rfl⟩)
    exact ⟨u, hu, hSaid⟩

end Value

end EquityScreen.Json
