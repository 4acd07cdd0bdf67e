import EquityScreen.Condition.Json
import Mathlib.Tactic.Common

/-! The order of the members of JSON objects. Sorting them by name changes the text of an
object, but no member gets lost and none is added. -/
namespace EquityScreen

namespace Json

theorem perm_insertMember (name : String) (v : Value) (members : List (String × Value)) :
    (insertMember name v members).Perm ((name, v) :: members) := by
  induction members with
  | nil => exact .refl _
  | cons member members ih =>
      rw [insertMember]
      split
      · exact .refl _
      · exact (ih.cons member).trans (.swap ..)

/-- The sorted members are the members with their values sorted. -/
theorem perm_sortedMembers (members : List (String × Value)) :
    (sortedMembers members).Perm (members.map fun member => (member.1, member.2.sortMembers)) := by
  induction members with
  | nil => exact .refl _
  | cons member members ih =>
      rw [sortedMembers, List.map_cons]
      exact (perm_insertMember ..).trans (ih.cons _)

theorem mem_sortedMembers {members : List (String × Value)} {name : String} {v : Value} :
    (name, v) ∈ sortedMembers members ↔ ∃ w, (name, w) ∈ members ∧ w.sortMembers = v := by
  rw [(perm_sortedMembers members).mem_iff, List.mem_map]
  constructor
  · rintro ⟨⟨_, w⟩, hMem, ⟨⟩⟩
    exact ⟨w, hMem, rfl⟩
  · rintro ⟨w, hMem, rfl⟩
    exact ⟨(name, w), hMem, rfl⟩

theorem perm_names_sortedMembers (members : List (String × Value)) :
    ((sortedMembers members).map Prod.fst).Perm (members.map Prod.fst) := by
  have hNames := (perm_sortedMembers members).map Prod.fst
  rwa [List.map_map] at hNames

/-- Members that are in order stay where they are. -/
theorem sortedMembers_of_pairwise {members : List (String × Value)}
    (h : (members.map Prod.fst).Pairwise (· < ·)) :
    sortedMembers members = members.map fun member => (member.1, member.2.sortMembers) := by
  induction members with
  | nil => rfl
  | cons member members ih =>
      obtain ⟨name, v⟩ := member
      rw [List.map_cons, List.pairwise_cons] at h
      rw [sortedMembers, ih h.2, List.map_cons]
      cases members with
      | nil => rfl
      | cons other members => exact if_pos (h.1 other.1 List.mem_cons_self)

theorem sortElements_eq (elements : List Value) :
    sortElements elements = elements.map Value.sortMembers := by
  induction elements with
  | nil => rfl
  | cons v elements ih => rw [sortElements, ih, List.map_cons]

theorem sortMembers_array (elements : List Value) :
    (Value.array elements).sortMembers = .array (elements.map Value.sortMembers) := by
  rw [Value.sortMembers, sortElements_eq]

theorem sortMembers_ofString (s : String) : (Value.ofString s).sortMembers = .ofString s := rfl

theorem sortMembers_ofNat (n : Nat) : (Value.ofNat n).sortMembers = .ofNat n := rfl

theorem sortMembers_ofBinary64 (x : Binary64) :
    (Value.ofBinary64 x).sortMembers = .ofBinary64 x := by
  unfold Value.ofBinary64
  split <;> rfl

theorem compactElements_cons_cons (v w : Value) (elements : List Value) :
    compactElements (v :: w :: elements) = v.compact ++ ',' :: compactElements (w :: elements) := by
  rw [compactElements]
  exact List.cons_ne_nil w elements

/-- The text of objects in a row ends as the last of them does. -/
theorem exists_compactElements {elements : List Value} (hSome : elements ≠ [])
    (hObjects : ∀ v ∈ elements, ∃ members, v = .object members) :
    ∃ front, compactElements elements = front ++ ['\x7d'] := by
  induction elements with
  | nil => exact absurd rfl hSome
  | cons v elements ih =>
      obtain ⟨members, rfl⟩ := hObjects v List.mem_cons_self
      cases elements with
      | nil => exact ⟨'\x7b' :: compactMembers members, by rw [compactElements, Value.compact]⟩
      | cons w elements =>
          obtain ⟨front, hFront⟩ := ih (List.cons_ne_nil _ _) fun v hv =>
            hObjects v (List.mem_cons_of_mem _ hv)
          refine ⟨(Value.object members).compact ++ ',' :: front, ?_⟩
          rw [compactElements_cons_cons, hFront, List.append_assoc, List.cons_append]

end Json

open Json in
/-- The members of a condition are sorted as they are. -/
theorem Condition.sortMembers_toJson (c : Condition) : c.toJson.sortMembers = c.toJson := by
  have hNames : ["field", "operator", "value"].Pairwise (· < ·) := by decide
  rw [toJson, Value.sortMembers]
  refine (congrArg Value.object (sortedMembers_of_pairwise ?_)).trans ?_
  · exact hNames
  · simp only [List.map_cons, List.map_nil, sortMembers_ofString, sortMembers_ofBinary64]
    rfl

end EquityScreen
