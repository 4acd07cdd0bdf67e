import EquityScreen.Proofs.JsonLayout
import EquityScreen.Proofs.JsonMembers
import EquityScreen.Proofs.JsonNumbers

/-! Conditions written in JSON and read back. The compact text and the text with one
member on each line differ in white space only, so that one reading covers both: the
members come back in turn, and whether the condition is read depends on its value. -/
namespace EquityScreen.Condition

open Json

/-- A name among the variants is read from its string. -/
theorem readVariant_stringText {α : Type} {variants : List (String × α)} {name : String} {x : α}
    (hName : variants.lookup name = some x) {blank : List Char} (hBlank : AllBlank blank)
    (rest : List Char) :
    readVariant variants (blank ++ (stringText name.toList ++ rest)) = .ok (x, rest) := by
  obtain ⟨body, hText, hBody⟩ := (stringForm_stringText name.toList).exists_body
  have hSkip : skipBlanks (blank ++ (stringText name.toList ++ rest)) = '"' :: (body ++ rest) := by
    rw [skipBlanks_append hBlank, hText]
    rfl
  simp only [readVariant, hSkip, hBody, bind, Except.bind, variantOfName, String.ofList_toList,
    hName]

theorem readField_identifier (m : Metric) {blank : List Char} (hBlank : AllBlank blank)
    (rest : List Char) :
    readField (blank ++ (stringText m.identifier.toList ++ rest)) = .ok (m, rest) :=
  readVariant_stringText (by cases m <;> rfl) hBlank rest

theorem readOperator_symbol (op : Operator) {blank : List Char} (hBlank : AllBlank blank)
    (rest : List Char) :
    readOperator (blank ++ (stringText [op.symbol] ++ rest)) = .ok (op, rest) := by
  have hSymbol : [op.symbol] = (String.singleton op.symbol).toList := by
    cases op <;> rfl
  rw [hSymbol]
  exact readVariant_stringText (by cases op <;> rfl) hBlank rest

/-- A finite value is read from its number. -/
theorem readNumber_jsonText {x : Binary64} (hFinite : x.isFinite = true) {blank : List Char}
    (hBlank : AllBlank blank) {rest : List Char} (hRest : EndsNumber rest) :
    readNumber (blank ++ (x.jsonText ++ rest)) = .ok (x, rest) := by
  have hNumber := number_jsonText hFinite hRest
  obtain ⟨c, tail, hText, hStart⟩ := head_of_number hNumber
  have hHead : isBlank c = false := by
    rcases hStart with rfl | hDigit
    · rfl
    · exact Json.isBlank_of_isDigit hDigit
  have hSkip : skipBlanks (blank ++ (x.jsonText ++ rest)) = c :: tail := by
    rw [skipBlanks_append hBlank, hText]
    exact List.dropWhile_cons_of_neg (by simp [hHead])
  rw [hText] at hNumber
  simp only [readNumber, hSkip, if_pos hStart, hNumber, bind, Except.bind]
  rfl

/-- A value that is not finite is written as null, which is no number. -/
theorem readNumber_null {x : Binary64} (hFinite : x.isFinite = false) {blank : List Char}
    (hBlank : AllBlank blank) (rest : List Char) :
    readNumber (blank ++ (x.jsonText ++ rest)) =
      errorAt (.invalidType .null "f64") rest := by
  have hText : x.jsonText = ['n', 'u', 'l', 'l'] := by
    rw [Binary64.jsonText, hFinite]
    rfl
  have hSkip : skipBlanks (blank ++ ('n' :: 'u' :: 'l' :: 'l' :: rest)) =
      'n' :: 'u' :: 'l' :: 'l' :: rest := skipBlanks_append hBlank _
  rw [hText]
  change readNumber (blank ++ ('n' :: 'u' :: 'l' :: 'l' :: rest)) = _
  rw [readNumber, hSkip]
  rfl

/-- A condition as an object, with white space in front of each name, behind each colon
and before the closing brace. -/
def layout (beforeName afterColon beforeClose : List Char) (c : Condition) : List Char :=
  '\x7b' :: (beforeName ++ (stringText "field".toList ++ ':' :: (afterColon ++
    (stringText c.field.identifier.toList ++ ',' :: (beforeName ++
    (stringText "operator".toList ++ ':' :: (afterColon ++
    (stringText [c.operator.symbol] ++ ',' :: (beforeName ++
    (stringText "value".toList ++ ':' :: (afterColon ++
    (c.value.jsonText ++ (beforeClose ++ ['\x7d'])))))))))))))

theorem compact_toJson (c : Condition) : c.toJson.compact = c.layout [] [] [] := by
  simp [toJson, layout, Value.compact, compactMembers, Value.ofString, compact_ofBinary64]

theorem pretty_toJson (depth : Nat) (c : Condition) :
    c.toJson.pretty depth = c.layout (newLine (depth + 1)) [' '] (newLine depth) := by
  simp [toJson, layout, Value.pretty, prettyMembers, Value.ofString, pretty_ofBinary64]

/-! The three members in turn. -/

theorem colon_cons (rest : List Char) : colon (':' :: rest) = .ok rest := rfl

theorem readMember_field {draft : Draft} (hNone : draft.field = none) (rest : List Char) :
    readMember "field".toList draft (':' :: rest) =
      readField rest >>= fun (field, rest) => .ok ({ draft with field := some field }, rest) := by
  simp [readMember, hNone, colon_cons, bind, Except.bind]

theorem readMember_operator {draft : Draft} (hNone : draft.operator = none) (rest : List Char) :
    readMember "operator".toList draft (':' :: rest) =
      readOperator rest >>= fun (operator, rest) =>
        .ok ({ draft with operator := some operator }, rest) := by
  simp [readMember, hNone, colon_cons, bind, Except.bind]

theorem readMember_value {draft : Draft} (hNone : draft.value = none) (rest : List Char) :
    readMember "value".toList draft (':' :: rest) =
      readNumber rest >>= fun (value, rest) => .ok ({ draft with value := some value }, rest) := by
  simp [readMember, hNone, colon_cons, bind, Except.bind]

section Layout

variable {beforeName afterColon : List Char} (hName : AllBlank beforeName)
  (hColon : AllBlank afterColon)
include hName hColon

/-- Reading the members comes down to reading the value. -/
theorem members_layout (beforeClose : List Char) (c : Condition) :
    ∃ n, members readMember Draft.empty ((c.layout beforeName afterColon beforeClose).drop 1) =
      readNumber (afterColon ++ (c.value.jsonText ++ (beforeClose ++ ['\x7d']))) >>=
        fun (value, rest) =>
          membersFrom readMember (n + 1) false ⟨some c.field, some c.operator, some value⟩
            rest := by
  have hRounds : ∃ n, ((c.layout beforeName afterColon beforeClose).drop 1).length + 1 = n + 4 := by
    refine ⟨((c.layout beforeName afterColon beforeClose).drop 1).length - 3, ?_⟩
    simp only [layout, stringText, List.drop_one, List.tail_cons, List.length_append,
      List.length_cons]
    omega
  obtain ⟨n, hRounds⟩ := hRounds
  refine ⟨n, ?_⟩
  rw [members, hRounds, layout, List.drop_one, List.tail_cons,
    membersFrom_first hName (stringForm_stringText _), readMember_field rfl,
    readField_identifier c.field hColon]
  refine (membersFrom_comma allBlank_nil hName (stringForm_stringText _) _ _ _).trans ?_
  rw [readMember_operator rfl, readOperator_symbol c.operator hColon]
  refine (membersFrom_comma allBlank_nil hName (stringForm_stringText _) _ _ _).trans ?_
  rw [readMember_value rfl]
  cases readNumber (afterColon ++ (c.value.jsonText ++ (beforeClose ++ ['\x7d']))) <;> rfl

/-- A condition with a finite value is read back. -/
theorem ofJson_layout {beforeClose : List Char} (hClose : AllBlank beforeClose) {c : Condition}
    (hFinite : c.value.isFinite = true) :
    ofJson (c.layout beforeName afterColon beforeClose) = .ok c := by
  obtain ⟨n, hMembers⟩ := members_layout hName hColon beforeClose c
  have hRead : members readMember Draft.empty
        ((c.layout beforeName afterColon beforeClose).drop 1) =
      .ok (⟨some c.field, some c.operator, some c.value⟩, beforeClose ++ ['\x7d']) := by
    rw [hMembers, readNumber_jsonText hFinite hColon (endsNumber_mark hClose (.inr (.inr rfl)) [])]
    exact membersFrom_close hClose _ false _ []
  have hObject : closeObject (beforeClose ++ ['\x7d']) = .ok [] := closeObject_append hClose []
  change readAll readObject ((c.layout beforeName afterColon beforeClose).drop 1) = _
  simp only [readAll, readObject, hRead, hObject, bind, Except.bind]
  rfl

/-- A condition whose value is not finite is refused, since a number is expected where it
has null. -/
theorem ofJson_layout_null (beforeClose : List Char) {c : Condition}
    (hFinite : c.value.isFinite = false) :
    ofJson (c.layout beforeName afterColon beforeClose) =
      errorAt (.invalidType .null "f64") (beforeClose ++ ['\x7d']) := by
  obtain ⟨n, hMembers⟩ := members_layout hName hColon beforeClose c
  change readAll readObject ((c.layout beforeName afterColon beforeClose).drop 1) = _
  rw [readAll, readObject, hMembers, readNumber_null hFinite hColon]
  rfl

end Layout

end EquityScreen.Condition
