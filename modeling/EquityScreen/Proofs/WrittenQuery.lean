import EquityScreen.Proofs.ClauseReading
import EquityScreen.Proofs.QueryReport

/-! A query written as it should be is understood in full: every clause gives its
condition, in order, and nothing is rejected. No separator lies inside a clause,
whatever the case of its label and the white space in it. -/
namespace EquityScreen.Query

open Text

/-- Two characters in a row that the word AND could begin with. -/
def BeginsAnd (a n : Char) : Prop := asciiLower a = 'a' ∧ asciiLower n = 'n'

instance (a n : Char) : Decidable (BeginsAnd a n) := by
  unfold BeginsAnd
  infer_instance

theorem beginsAnd_of_isSeparateAnd {before after : Option Char} {a n d : Char}
    (h : isSeparateAnd before a n d after = true) : BeginsAnd a n := by
  rw [isSeparateAnd, Bool.and_eq_true, Bool.and_eq_true] at h
  have hCases : asciiLower a = 'a' ∧ asciiLower n = 'n' ∧ asciiLower d = 'd' := by
    simpa [sameIgnoringAsciiCase, asciiLower] using h.1.2
  exact ⟨hCases.1, hCases.2.1⟩

/-- A text without letters, in which AND cannot begin. -/
def NoLetters (text : List Char) : Prop := ∀ c ∈ text, (asciiLower c).isAlpha = false

theorem NoLetters.isChain {text : List Char} (h : NoLetters text) :
    text.IsChain fun a n => ¬BeginsAnd a n := by
  refine (List.pairwise_of_forall_mem_list fun a ha n _ hBegins => ?_).isChain
  have hLetter := h a ha
  rw [hBegins.1] at hLetter
  exact absurd hLetter (by decide)

theorem NoLetters.append {first second : List Char} (hFirst : NoLetters first)
    (hSecond : NoLetters second) : NoLetters (first ++ second) :=
  List.forall_mem_append.mpr ⟨hFirst, hSecond⟩

theorem noLetters_gap (g : Gap) : NoLetters g.text := by
  intro c hc
  rw [Bool.eq_false_iff]
  intro hAlpha
  have hBlank := g.allBlank c hc
  rw [isBlank_of_isAlpha_toLower hAlpha] at hBlank
  exact Bool.false_ne_true hBlank

theorem noLetters_numeral (n : Numeral) : NoLetters n.text := by
  refine n.forall_mem_text (fun c hc => ?_) (by decide)
  rw [Bool.eq_false_iff]
  intro hAlpha
  have hLetter : c.isAlpha = true := isAlpha_of_toLower rfl hAlpha
  rw [Char.isDigit, Bool.and_eq_true, decide_eq_true_eq, decide_eq_true_eq] at hc
  have hDigit : c.toNat ≤ 57 := hc.2
  rcases Bool.or_eq_true_iff.mp hLetter with hUpper | hLower
  · have hFirst : 65 ≤ c.toNat := (of_decide_eq_true hUpper).1
    omega
  · have hFirst : 97 ≤ c.toNat := of_decide_eq_true (Bool.and_eq_true_iff.mp hLower).1
    omega

/-- A text without line breaks in which AND begins nowhere is a single segment. -/
theorem segments_unbroken {text : List Char} (hBreaks : ∀ c ∈ text, isLineBreak c = false)
    (hAnd : text.IsChain fun a n => ¬BeginsAnd a n) (before : Option Char) :
    segments before text = [text] := by
  induction text generalizing before with
  | nil => rfl
  | cons a rest ih =>
      have hRest : rest.IsChain fun a n => ¬BeginsAnd a n := hAnd.tail
      have hStart : startsWithAnd before (a :: rest) = false := by
        rw [Bool.eq_false_iff]
        intro hStarts
        obtain ⟨n, d, after, rfl, hSeparate⟩ := exists_of_startsWithAnd hStarts
        have hPair := (List.isChain_cons_cons.mp hAnd).1
        exact hPair (beginsAnd_of_isSeparateAnd hSeparate)
      have hTail := ih (fun c hc => hBreaks c (List.mem_cons_of_mem a hc)) hRest (some a)
      rw [segments_char (hBreaks a List.mem_cons_self) hStart, hTail]
      rfl

/-- White space after a text belongs to no clause of it. -/
theorem splitClauses_append_gap (text : List Char) (g : Gap) :
    splitClauses (text ++ g.text) = splitClauses text := by
  have hWord : ∀ c ∈ g.text, isWordChar c = false := fun c hc =>
    isWordChar_of_isBlank (g.allBlank c hc)
  have hSeam : g.text.head?.any isWordChar = false := by
    cases hHead : g.text.head? with
    | none => rfl
    | some c => exact hWord c (List.mem_of_head? hHead)
  have hGap : segments (lastChar none text) g.text = [g.text] :=
    segments_unbroken (fun c hc => (g.inline c hc).2) (noLetters_gap g).isChain _
  rw [splitClauses_eq, segments_append hSeam, hGap,
    clausesOf_meet g.allBlank (segments_ne_nil _ _), splitClauses_eq]
  exact List.append_nil _

namespace WrittenClause

/-- Everything behind the label of a clause. -/
theorem noLetters_tail (clause : WrittenClause) :
    NoLetters (clause.second.text ++
      clause.operator.symbol :: (clause.third.text ++ clause.numeral.text)) := by
  have hOperator : (asciiLower clause.operator.symbol).isAlpha = false := by
    cases clause.operator <;> decide
  refine (noLetters_gap clause.second).append (List.forall_mem_cons.mpr ⟨hOperator, ?_⟩)
  exact (noLetters_gap clause.third).append (noLetters_numeral clause.numeral)

/-- AND begins in no label, and not where the label ends either. -/
theorem isChain_core (clause : WrittenClause) :
    clause.core.IsChain fun a n => ¬BeginsAnd a n := by
  have hLabel : clause.label.IsChain fun a n => ¬BeginsAnd a n := by
    have hSmall : (clause.label.map asciiLower).IsChain fun a n => ¬(a = 'a' ∧ n = 'n') := by
      rw [map_asciiLower_label clause.spelled]
      cases clause.metric <;> decide
    exact (List.isChain_map asciiLower).mp hSmall
  rw [core, List.append_assoc, List.isChain_append]
  refine ⟨hLabel, clause.noLetters_tail.isChain, fun a _ n hn hBegins => ?_⟩
  have hLetter := clause.noLetters_tail n (List.mem_of_head? hn)
  rw [hBegins.2] at hLetter
  exact absurd hLetter (by decide)

theorem isLineBreak_core (clause : WrittenClause) : ∀ c ∈ clause.core, isLineBreak c = false := by
  have hGap (g : Gap) : ∀ c ∈ g.text, isLineBreak c = false := fun c hc => (g.inline c hc).2
  have hLabel : ∀ c ∈ clause.label, isLineBreak c = false := by
    intro c hc
    have hLower := List.mem_map_of_mem (f := asciiLower) hc
    rw [map_asciiLower_label clause.spelled] at hLower
    rw [Bool.eq_false_iff, isLineBreak, ne_eq, Bool.or_eq_true, beq_iff_eq, beq_iff_eq]
    rintro (rfl | rfl) <;> revert hLower <;> cases clause.metric <;> decide
  have hOperator : isLineBreak clause.operator.symbol = false := by
    cases clause.operator <;> decide
  have hNumeral : ∀ c ∈ clause.numeral.text, isLineBreak c = false := by
    intro c hc
    rw [Bool.eq_false_iff]
    intro hBreak
    have hBlank := isBlank_of_isLineBreak hBreak
    rw [clause.numeral.isBlank_of_mem_text c hc] at hBlank
    exact Bool.false_ne_true hBlank
  simp only [core, List.forall_mem_append, List.forall_mem_cons]
  exact ⟨⟨hLabel, hGap _⟩, hOperator, hGap _, hNumeral⟩

/-- A clause begins with its label and ends with its numeral. -/
theorem trim_core (clause : WrittenClause) : trim clause.core = clause.core := by
  refine trim_of_ends (fun c hc => ?_) fun c hc => ?_
  · rw [core, List.append_assoc, List.head?_append_of_ne_nil _ clause.label_ne_nil] at hc
    exact isBlank_head_label clause.spelled c hc
  · have hEnd : clause.core.getLast? = clause.numeral.text.getLast? := by
      rw [core, ← List.cons_append, ← List.append_assoc,
        List.getLast?_append_of_ne_nil _ clause.numeral.text_ne_nil]
    rw [hEnd] at hc
    exact clause.numeral.isBlank_of_mem_text c (List.mem_of_getLast? hc)

theorem splitClauses_core (clause : WrittenClause) : splitClauses clause.core = [clause.core] := by
  have hSome : clause.core.isEmpty = false := by
    simp [core]
  rw [splitClauses_eq, segments_unbroken clause.isLineBreak_core clause.isChain_core,
    clausesOf, List.map_singleton, clause.trim_core, List.filter_cons_of_pos (by simp [hSome])]
  rfl

theorem splitClauses_text (clause : WrittenClause) : splitClauses clause.text = [clause.core] := by
  rw [text, splitClauses_append_gap, splitClauses_blank_append clause.first.allBlank,
    clause.splitClauses_core]

end WrittenClause

/-- Clauses with separators between them, at least one clause. -/
structure WrittenQuery where
  first : WrittenClause
  rest : List (Separator × WrittenClause)

namespace WrittenQuery

def clauses (q : WrittenQuery) : List WrittenClause := q.first :: q.rest.map Prod.snd

def text (q : WrittenQuery) : List Char :=
  q.first.text ++ q.rest.flatMap fun (separator, clause) => separator.text ++ clause.text

/-- The clauses of the text are the clauses written. Induction on the separators. -/
theorem splitClauses_text (q : WrittenQuery) :
    splitClauses q.text = q.clauses.map WrittenClause.core := by
  obtain ⟨first, rest⟩ := q
  induction rest generalizing first with
  | nil => simp [text, clauses, first.splitClauses_text]
  | cons next rest ih =>
      obtain ⟨separator, clause⟩ := next
      have hRest := ih clause
      have hText : text ⟨first, (separator, clause) :: rest⟩ =
          first.text ++ separator.text ++ text ⟨clause, rest⟩ := by
        simp [text]
      rw [hText, splitClauses_separator, first.splitClauses_text, hRest]
      rfl

end WrittenQuery

/-- A query written as it should be is read as the conditions that its clauses state,
each with the double that its numeral names, and no clause is rejected. -/
theorem parse_written (q : WrittenQuery) :
    parse q.text = q.clauses.map WrittenClause.condition ∧
    (explain q.text).conditions = q.clauses.map WrittenClause.condition ∧
    (explain q.text).rejected = [] ∧
    ∀ clause ∈ q.clauses,
      Binary64.ofNumeral? clause.numeral.text = some clause.condition.value := by
  have hParse : parse q.text = q.clauses.map WrittenClause.condition := by
    rw [parse, q.splitClauses_text, List.filterMap_map, ← List.filterMap_eq_map]
    refine List.filterMap_congr fun clause _ => ?_
    rw [Function.comp_apply, clause.parse_core]
    rfl
  have hRejected : (explain q.text).rejected = [] := by
    rw [explain_eq, q.splitClauses_text, List.filterMap_map, List.filterMap_eq_nil_iff]
    intro clause _
    rw [Function.comp_apply, rejection?, clause.parse_core]
  refine ⟨hParse, ?_, hRejected, fun clause _ => clause.numeral.ofNumeral?_text⟩
  rw [conditions_explain, hParse]

/-- Mixed case, a numeral that starts and one that ends with its point, white space of
several kinds, and a line break and two ANDs in one separator. -/
theorem parse_written_mixed :
    ∃ q : WrittenQuery, q.text = "\tRoE>.5 \r\n aNd\u2003and P/E ratio =20.".toList ∧
      (parse q.text).map (fun c => (c.field, c.operator, some c.value)) =
        [(.roe, .greater, Binary64.ofNumeral? ".5".toList),
          (.peRatio, .equal, Binary64.ofNumeral? "20.".toList)] ∧
      (explain q.text).rejected = [] := by
  let half : Numeral :=
    ⟨[], some ['5'], List.all_eq_true.mp rfl, List.all_eq_true.mp rfl, .inr (by decide)⟩
  let twenty : Numeral :=
    ⟨['2', '0'], some [], List.all_eq_true.mp rfl, List.all_eq_true.mp rfl, .inl (by decide)⟩
  let empty : Gap := ⟨[], List.forall_mem_nil _⟩
  let space : Gap := ⟨[' '], List.forall_mem_singleton.mpr (by decide)⟩
  let tab : Gap := ⟨['\t'], List.forall_mem_singleton.mpr (by decide)⟩
  let first : WrittenClause :=
    ⟨.roe, .greater, half, "RoE".toList, by decide, tab, empty, empty, empty⟩
  let second : WrittenClause :=
    ⟨.peRatio, .equal, twenty, "P/E ratio".toList, by decide, empty, space, empty, empty⟩
  let separator : Separator := ⟨" \r\n ".toList,
    [⟨"aNd".toList, ['\u2003'], by decide, List.all_eq_true.mp (by decide), by decide⟩,
      ⟨"and".toList, [' '], by decide, List.all_eq_true.mp (by decide), by decide⟩],
    List.all_eq_true.mp (by decide), by decide, .inl (List.cons_ne_nil _ _)⟩
  obtain ⟨hParse, -, hRejected, hValues⟩ := parse_written ⟨first, [(separator, second)]⟩
  refine ⟨⟨first, [(separator, second)]⟩, by decide, ?_, hRejected⟩
  have hHalf := hValues first List.mem_cons_self
  have hTwenty := hValues second (List.mem_cons_of_mem _ List.mem_cons_self)
  rw [hParse]
  change [(_, _, some first.condition.value), (_, _, some second.condition.value)] = _
  rw [← hHalf, ← hTwenty]
  rfl

end EquityScreen.Query
