import EquityScreen.Query.Report
import EquityScreen.Proofs.ClauseGrammar
import EquityScreen.Proofs.ConditionRoundTrip
import EquityScreen.Proofs.RoundingRange

/-! Which conditions of a query survive being written in JSON. A clause accepts digits of
any length, so that its value may be infinite. Every finite value is read back exactly;
an infinite one is written as null, and the text is then refused. -/
namespace EquityScreen

/-- The texts that conditions are written as. Inside greater texts the members are
sorted first, and with one member on each line the lines are indented. -/
inductive Condition.Writes (c : Condition) : List Char → Prop where
  | compact : Writes c c.toJson.compact
  | sorted : Writes c c.toJson.sortMembers.compact
  | pretty (depth : Nat) : Writes c (c.toJson.sortMembers.pretty depth)

theorem Condition.Writes.exists_layout {c : Condition} {text : List Char} (h : c.Writes text) :
    ∃ beforeName afterColon beforeClose, Json.AllBlank beforeName ∧ Json.AllBlank afterColon ∧
      Json.AllBlank beforeClose ∧ text = c.layout beforeName afterColon beforeClose := by
  have hSpace : Json.AllBlank [' '] := by simp [Json.AllBlank, Json.isBlank]
  cases h with
  | compact => exact ⟨[], [], [], Json.allBlank_nil, Json.allBlank_nil, Json.allBlank_nil,
        c.compact_toJson⟩
  | sorted =>
      rw [c.sortMembers_toJson]
      exact ⟨[], [], [], Json.allBlank_nil, Json.allBlank_nil, Json.allBlank_nil,
        c.compact_toJson⟩
  | pretty depth =>
      rw [c.sortMembers_toJson]
      exact ⟨_, _, _, Json.allBlank_newLine (depth + 1), hSpace, Json.allBlank_newLine depth,
        c.pretty_toJson depth⟩

namespace Query

/-- The value of a condition is the double nearest to a decimal. -/
theorem exists_decimal_of_parse {clause : List Char} {c : Condition}
    (h : Clause.parse clause = .ok c) : ∃ d : Decimal, c.value = d.toBinary64 false := by
  obtain ⟨p, -, -, -, hValue⟩ := exists_parts_of_parse h
  exact ⟨_, hValue.symm⟩

theorem exists_decimal_of_mem_parse {query : List Char} {c : Condition} (h : c ∈ parse query) :
    ∃ d : Decimal, c.value = d.toBinary64 false := by
  obtain ⟨clause, -, hClause⟩ := List.mem_filterMap.mp h
  cases hParse : Clause.parse clause with
  | error e =>
      rw [hParse] at hClause
      cases hClause
  | ok condition =>
      rw [hParse] at hClause
      obtain rfl : condition = c := Option.some.inj hClause
      exact exists_decimal_of_parse hParse

/-- A condition of a query is read back from its JSON if and only if its value is finite.
The only other value is infinity, and then the text is refused for its null. -/
theorem parsed_condition_json {query : List Char} {c : Condition} (hc : c ∈ parse query)
    {text : List Char} (hText : c.Writes text) :
    (Condition.ofJson text = .ok c ↔ c.value.isFinite = true) ∧
    (c.value.isFinite = false → c.value = .infinity false ∧
      ∃ left, Condition.ofJson text = .error ⟨.invalidType .null "f64", left⟩) := by
  obtain ⟨d, hValue⟩ := exists_decimal_of_mem_parse hc
  obtain ⟨beforeName, afterColon, beforeClose, hName, hColon, hClose, rfl⟩ := hText.exists_layout
  cases hFinite : c.value.isFinite with
  | true =>
      have hRead := Condition.ofJson_layout hName hColon hClose hFinite
      exact ⟨⟨fun _ => rfl, fun _ => hRead⟩, fun h => absurd h (by decide)⟩
  | false =>
      have hRead := Condition.ofJson_layout_null hName hColon beforeClose hFinite
      refine ⟨⟨fun h => ?_, fun h => absurd h (by decide)⟩, fun _ => ⟨?_, _, hRead⟩⟩
      · rw [hRead] at h
        cases h
      · rw [hValue] at hFinite ⊢
        exact Decimal.eq_infinity_of_not_finite hFinite

/-- The smallest query of the kind: fifteen, compactly written. -/
theorem parsed_condition_json_fifteen :
    let query := "roe > 15".toList
    let c : Condition := ⟨.roe, .greater, Decimal.toBinary64 false ⟨15, 0⟩⟩
    let text := "\x7b\"field\":\"roe\",\"operator\":\">\",\"value\":15.0\x7d".toList
    c ∈ parse query ∧ c.Writes text ∧ Condition.ofJson text = .ok c := by
  have hc : (⟨.roe, .greater, Decimal.toBinary64 false ⟨15, 0⟩⟩ : Condition) ∈
      parse "roe > 15".toList := by decide +kernel
  have hText : (⟨.roe, .greater, Decimal.toBinary64 false ⟨15, 0⟩⟩ : Condition).Writes
      "\x7b\"field\":\"roe\",\"operator\":\">\",\"value\":15.0\x7d".toList := by
    have hCompact :
        (⟨.roe, .greater, Decimal.toBinary64 false ⟨15, 0⟩⟩ : Condition).toJson.compact =
          "\x7b\"field\":\"roe\",\"operator\":\">\",\"value\":15.0\x7d".toList := by
      decide +kernel
    rw [← hCompact]
    exact .compact
  exact ⟨hc, hText, (parsed_condition_json hc hText).1.mpr (by decide +kernel)⟩

/-- One and 309 zeros are too much for a double: the condition holds of every number and
is lost in its JSON. -/
theorem parsed_condition_lost :
    ∃ c ∈ parse ("roe < 1".toList ++ List.replicate 309 '0'),
      c.toJson.compact =
        "\x7b\"field\":\"roe\",\"operator\":\"<\",\"value\":null\x7d".toList ∧
      (Condition.ofJson c.toJson.compact).toOption = none := by
  decide +kernel

end Query

end EquityScreen
