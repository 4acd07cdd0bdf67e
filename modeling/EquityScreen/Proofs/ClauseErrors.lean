import EquityScreen.Proofs.BytePositions
import EquityScreen.Proofs.ClauseGrammar

/-! What an error says about a clause, and where it points. The position always lies between
two characters or at the end, and what the message names stands there. -/
namespace EquityScreen.Query

open Text

/-- What a message about a clause says of the place it points at, given the text in front of
that place and the text from there on. -/
inductive Describes (front back : List Char) : String → Prop where
  | missingOperator (atEnd : back = []) (noOperator : ∀ c ∈ front, Clause.isOperator c = false) :
      Describes front back "expected operator ('>', '<' or '='), found end of input"
  | missingField {op : Operator} {after : List Char} (atOperator : back = op.symbol :: after)
      (isLast : ∀ c ∈ after, Clause.isOperator c = false) (allBlank : AllBlank front) :
      Describes front back "expected field name before operator"
  | noNumber (atEnd : back = []) :
      Describes front back "expected number, found 'end of input'"
  | otherThanNumber {token after : List Char} (atToken : back = token ++ after)
      (isSome : token ≠ []) (noBlank : ∀ c ∈ token, isBlank c = false)
      (isLongest : ∀ c ∈ after.head?, isBlank c = true) :
      Describes front back ("expected number, found '" ++ String.ofList token ++ "'")
  | trailingText (isSome : back ≠ []) :
      Describes front back ("unexpected input after number: '" ++ String.ofList back ++ "'")
  | unknownField {field after : List Char} {op : Operator}
      (parts : front ++ back = field ++ op.symbol :: after)
      (isLast : ∀ c ∈ after, Clause.isOperator c = false) (atName : trim field <+: back) :
      Describes front back ("unknown field '" ++ String.ofList (trim field) ++ "'")

/-- An error points at a place of a clause, with the text in front of it and from it on. -/
structure PointsAt (clause : List Char) (e : ClauseError) (front back : List Char) : Prop where
  parts : clause = front ++ back
  position : e.position = utf8Size front
  describes : Describes front back e.fault.message

/-- A clause has no operator, or a last one. -/
theorem operator_cases (clause : List Char) :
    (∀ c ∈ clause, Clause.isOperator c = false) ∨
    ∃ (before : List Char) (op : Operator) (after : List Char),
      clause = before ++ op.symbol :: after ∧ ∀ c ∈ after, Clause.isOperator c = false := by
  induction clause with
  | nil => exact .inl (List.forall_mem_nil _)
  | cons c rest ih =>
      rcases ih with hNone | ⟨before, op, after, rfl, hLast⟩
      · cases hOperator : Clause.isOperator c with
        | false => exact .inl (List.forall_mem_cons.mpr ⟨hOperator, hNone⟩)
        | true =>
            obtain ⟨op, hFound⟩ := Option.isSome_iff_exists.mp hOperator
            obtain rfl : op.symbol = c := by simpa using List.find?_some hFound
            exact .inr ⟨[], op, rest, rfl, hNone⟩
      · exact .inr ⟨c :: before, op, after, rfl, hLast⟩

theorem splitAtOperator?_none {clause : List Char}
    (h : ∀ c ∈ clause, Clause.isOperator c = false) : Clause.splitAtOperator? clause = none := by
  have hNone : clause.reverse.dropWhile (fun c => !Clause.isOperator c) = [] :=
    List.dropWhile_eq_nil_iff.mpr fun c hc => by rw [h c (List.mem_reverse.mp hc)]; rfl
  rw [Clause.splitAtOperator?, hNone]

/-- A token is the longest text without white space at its place, and at the end there is none. -/
theorem describes_token (front : List Char) {back : List Char}
    (h : ∀ c ∈ back.head?, isBlank c = false) :
    Describes front back (ClauseFault.missingNumber (Clause.token? back)).message := by
  cases back with
  | nil => exact .noNumber rfl
  | cons c rest =>
      have hHead : (!isBlank c) = true := by
        rw [h c rfl]
        rfl
      have hTake : (c :: rest).takeWhile (fun c => !isBlank c) =
          c :: rest.takeWhile fun c => !isBlank c := List.takeWhile_cons_of_pos hHead
      have hToken : Clause.token? (c :: rest) =
          some ((c :: rest).takeWhile fun c => !isBlank c) := by
        rw [Clause.token?, hTake]
      rw [hToken]
      refine .otherThanNumber List.takeWhile_append_dropWhile.symm ?_ (fun d hd => ?_)
        fun d hd => ?_
      · rw [hTake]
        exact List.cons_ne_nil _ _
      · simpa using List.mem_takeWhile_imp hd
      · simpa using head?_dropWhile_eq_false (fun c => !isBlank c) (c :: rest) d hd

/-- A trimmed text stands where the white space in front of it ends. -/
theorem trim_isPrefix (cs : List Char) : trim cs <+: trimStart cs :=
  ⟨_, trim_append_blanks cs⟩

/-- An error behind the operator is placed by what is left of the clause there. -/
theorem pointsAt_of_rest {fault : ClauseFault} {front back : List Char}
    (h : Describes front back fault.message) :
    PointsAt (front ++ back) ⟨fault, utf8Size (front ++ back) - utf8Size back⟩ front back where
  parts := rfl
  position := by
    rw [utf8Size_append]
    exact Nat.add_sub_cancel _ _
  describes := h

/-- Every error of a clause points at what it names. -/
theorem exists_pointsAt {clause : List Char} {e : ClauseError}
    (h : Clause.parse clause = .error e) : ∃ front back, PointsAt clause e front back := by
  rcases operator_cases clause with hNone | ⟨before, op, after, rfl, hLast⟩
  · rw [Clause.parse, splitAtOperator?_none hNone] at h
    cases h
    exact ⟨clause, [], (List.append_nil _).symm, rfl, .missingOperator rfl hNone⟩
  obtain ⟨gap, -, hAfter⟩ := exists_eq_append_trimStart after
  have hNumeral : before ++ op.symbol :: after = before ++ op.symbol :: gap ++ trimStart after := by
    rw [List.append_assoc, List.cons_append, ← hAfter]
  rw [Clause.parse, splitAtOperator?_symbol before op hLast] at h
  dsimp only at h
  generalize hSpan : spanDecimal (trimStart after) = span at h
  obtain ⟨whole, fraction, rest⟩ := span
  dsimp only at h
  split_ifs at h with hName hDigits hRest
  · cases h
    have hBlank := isEmpty_trim_iff.mp hName
    exact ⟨before, op.symbol :: after, rfl, rfl, .missingField rfl hLast hBlank⟩
  · cases h
    rw [hNumeral]
    exact ⟨_, _, pointsAt_of_rest (describes_token _ (head?_dropWhile_eq_false isBlank after))⟩
  · cases h
    obtain ⟨n, hText, -⟩ := exists_numeral_of_spanDecimal hSpan hDigits
    obtain ⟨blank, -, hBehind⟩ := exists_eq_append_trimStart rest
    have hTrailing : before ++ op.symbol :: after =
        before ++ op.symbol :: gap ++ (n.text ++ blank) ++ trimStart rest := by
      rw [List.append_assoc, List.append_assoc n.text, ← hBehind, ← hText, hNumeral]
    rw [hTrailing]
    exact ⟨_, _, pointsAt_of_rest (.trailingText (by simpa using hRest))⟩
  · split at h
    · cases h
      have hField : before.takeWhile isBlank ++ (trimStart before ++ op.symbol :: after) =
          before ++ op.symbol :: after := by
        rw [← List.append_assoc, trimStart, List.takeWhile_append_dropWhile]
      have hPrefix : trim before <+: trimStart before ++ op.symbol :: after :=
        (trim_isPrefix before).trans (List.prefix_append _ _)
      exact ⟨_, _, hField.symm, rfl, .unknownField hField hLast hPrefix⟩
    · cases h

/-- An error of a clause points between two characters of it or at its end, and at what its
message names. In the clause shown with a caret, as many spaces stand in front of the caret
as characters in front of that place. -/
theorem error_points_at {clause : List Char} {e : ClauseError}
    (h : Clause.parse clause = .error e) :
    ∃ front back, clause = front ++ back ∧ e.diagnostic.position = utf8Size front ∧
      e.diagnostic.position ≤ utf8Size clause ∧ Describes front back e.diagnostic.message ∧
      e.diagnostic.inContext (String.ofList clause) =
        String.ofList clause ++ "\n" ++ String.ofList (List.replicate front.length ' ') ++
          "^\n" ++ e.diagnostic.text := by
  obtain ⟨front, back, hParts, hPosition, hDescribes⟩ := exists_pointsAt h
  have hBoundary : IsBoundary clause e.position := ⟨front, back, hParts, hPosition⟩
  refine ⟨front, back, hParts, hPosition, hBoundary.le, hDescribes, ?_⟩
  have hColumn : Diagnostic.charsBefore e.position clause = front.length := by
    rw [hPosition, hParts, Diagnostic.charsBefore_append]
  change String.ofList clause ++ "\n" ++ String.ofList (List.replicate
    (Diagnostic.charsBefore e.position (String.ofList clause).toList) ' ') ++ "^\n" ++ _ = _
  rw [String.toList_ofList, hColumn]

/-- Behind an em space of three bytes the caret stands in the second column. -/
theorem error_points_at_wide :
    let clause := "\u2003é > 5".toList
    let e : ClauseError := ⟨.unknownField ['é'], 3⟩
    Clause.parse clause = .error e ∧
    ∃ front back, clause = front ++ back ∧ e.diagnostic.position = utf8Size front ∧
      e.diagnostic.position ≤ utf8Size clause ∧ Describes front back e.diagnostic.message ∧
      e.diagnostic.inContext (String.ofList clause) =
        String.ofList clause ++ "\n" ++ String.ofList (List.replicate front.length ' ') ++
          "^\n" ++ e.diagnostic.text := by
  have hParse : Clause.parse "\u2003é > 5".toList = .error ⟨.unknownField ['é'], 3⟩ := by
    decide +kernel
  exact ⟨hParse, error_points_at hParse⟩

end EquityScreen.Query
