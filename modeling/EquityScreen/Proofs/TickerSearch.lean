import EquityScreen.Table.Search
import EquityScreen.Proofs.AsciiCase
import EquityScreen.Proofs.Separators

/-! Search by ticker. A stock is found if the term, in small letters, is a part of its ticker, in
small letters. A part of a ticker has the small letters that it has inside the ticker, with one
exception: a capital sigma has another small letter at the end of a word, and a part may be cut
off behind one that stands inside a word of the ticker. Every other part of a ticker finds it. -/
namespace EquityScreen

namespace Text

theorem occursIn_iff {needle cs : List Char} : occursIn needle cs = true ↔ needle <:+: cs := by
  induction cs with
  | nil => rw [occursIn, List.isEmpty_iff, List.infix_nil]
  | cons c cs ih =>
      rw [occursIn, Bool.or_eq_true, List.isPrefixOf_iff_prefix, ih, List.infix_cons_iff]

/-! Small letters of a part of a text. -/

/-- A capital sigma between the two texts ends a word. -/
def endsWord (front back : List Char) : Bool := startsCased front.reverse && !startsCased back

/-- Every capital sigma in a part of a text ends a word of the text if and only if it ends one of
the part alone. -/
def SigmasAlike (before part after : List Char) : Prop :=
  ∀ i < part.length, part[i]? = some 'Σ' →
    endsWord (before ++ part.take i) (part.drop (i + 1) ++ after) =
      endsWord (part.take i) (part.drop (i + 1))

instance (before part after : List Char) : Decidable (SigmasAlike before part after) :=
  inferInstanceAs (Decidable (∀ i < part.length, _ → _))

theorem sigmasAlike_iff {before part after : List Char} :
    SigmasAlike before part after ↔ ∀ front back, part = front ++ 'Σ' :: back →
      endsWord (before ++ front) (back ++ after) = endsWord front back := by
  constructor
  · rintro h front back rfl
    have hHere := h front.length (by simp) (by simp)
    simpa using hHere
  · intro h i hi hSigma
    obtain ⟨_, hSigma⟩ := List.getElem?_eq_some_iff.mp hSigma
    refine h (part.take i) (part.drop (i + 1)) ?_
    rw [← hSigma, List.getElem_cons_drop, List.take_append_drop]

/-- White space has no case and is not passed over. -/
theorem startsCased_append_blank {blank : List Char} (h : AllBlank blank) (cs : List Char) :
    startsCased (cs ++ blank) = startsCased cs := by
  unfold startsCased
  rw [List.find?_append]
  cases cs.find? fun c => !isCaseIgnorable c with
  | some c => rfl
  | none =>
      cases blank with
      | nil => rfl
      | cons c blank =>
          have hHead := h c List.mem_cons_self
          have hStops : (!isCaseIgnorable c) = true :=
            forall_blank (fun c => !isCaseIgnorable c) (by decide +kernel) hHead
          have hUncased : (!isCased c) = true :=
            forall_blank (fun c => !isCased c) (by decide +kernel) hHead
          rw [List.find?_cons, hStops]
          simpa using hUncased

/-- White space around a part makes no difference to where its words end. -/
theorem SigmasAlike.of_blanks {before lead part trail after : List Char} (hLead : AllBlank lead)
    (hTrail : AllBlank trail) (h : SigmasAlike before (lead ++ (part ++ trail)) after) :
    SigmasAlike (before ++ lead) part (trail ++ after) := by
  rw [sigmasAlike_iff] at h ⊢
  rintro front back rfl
  have hReverse : AllBlank lead.reverse := fun c hc => hLead c (List.mem_reverse.mp hc)
  have hPart : endsWord (lead ++ front) (back ++ trail) = endsWord front back := by
    rw [endsWord, List.reverse_append, startsCased_append_blank hReverse,
      startsCased_append_blank hTrail, endsWord]
  have hText := h (lead ++ front) (back ++ trail) (by simp)
  rw [hPart] at hText
  simpa only [List.append_assoc] using hText

/-- What stands in front of a text only puts small letters in front of its small letters. -/
theorem exists_lowercaseFrom_append (before front cs : List Char) :
    ∃ small, lowercaseFrom before (front ++ cs) =
      small ++ lowercaseFrom (front.reverse ++ before) cs := by
  induction front generalizing before with
  | nil => exact ⟨[], rfl⟩
  | cons c front ih =>
      obtain ⟨small, hSmall⟩ := ih (c :: before)
      rw [List.cons_append, lowercaseFrom, hSmall, List.reverse_cons, List.append_assoc,
        List.singleton_append, ← List.append_assoc]
      exact ⟨_, rfl⟩

/-- The small letters of a part are found where the part is, if its capital sigmas end words alike.
The two texts before are reversed. -/
theorem lowercaseFrom_part {before alone part after : List Char}
    (h : ∀ front back, part = front ++ 'Σ' :: back →
      (startsCased (front.reverse ++ before) && !startsCased (back ++ after)) =
        (startsCased (front.reverse ++ alone) && !startsCased back)) :
    lowercaseFrom before (part ++ after) =
      lowercaseFrom alone part ++ lowercaseFrom (part.reverse ++ before) after := by
  induction part generalizing before alone with
  | nil => rfl
  | cons c part ih =>
      have hLater : ∀ front back, part = front ++ 'Σ' :: back →
          (startsCased (front.reverse ++ c :: before) && !startsCased (back ++ after)) =
            (startsCased (front.reverse ++ c :: alone) && !startsCased back) := by
        intro front back hSplit
        simpa using h (c :: front) back (by rw [hSplit, List.cons_append])
      have hRest := ih hLater
      rw [List.cons_append, lowercaseFrom, lowercaseFrom, hRest, List.reverse_cons,
        List.append_assoc part.reverse, List.singleton_append, List.append_assoc]
      by_cases hSigma : c = 'Σ'
      · have hHere : (startsCased before && !startsCased (part ++ after)) =
            (startsCased alone && !startsCased part) := h [] part (by rw [hSigma]; rfl)
        rw [if_pos hSigma, if_pos hSigma, hHere]
      · rw [if_neg hSigma, if_neg hSigma]

theorem SigmasAlike.lowercase_part {before part after : List Char}
    (h : SigmasAlike before part after) :
    lowercase part <:+: lowercase (before ++ (part ++ after)) := by
  obtain ⟨small, hSmall⟩ := exists_lowercaseFrom_append [] before (part ++ after)
  have hPart : lowercaseFrom (before.reverse ++ []) (part ++ after) =
      lowercaseFrom [] part ++
        lowercaseFrom (part.reverse ++ (before.reverse ++ [])) after := by
    refine lowercaseFrom_part fun front back hSplit => ?_
    have hSame := sigmasAlike_iff.mp h front back hSplit
    simpa [endsWord] using hSame
  rw [lowercase, lowercase, hSmall, hPart, ← List.append_assoc]
  exact List.infix_append small _ _

/-- A search term has the small letters of what it says in any case. -/
theorem lowercase_trim_of_sameIgnoringAsciiCase {part term : List Char}
    (h : sameIgnoringAsciiCase part term = true) :
    lowercase (trim term) = lowercase (trim part) := by
  rw [← lowercase_map_asciiLower (trim term), ← trim_map_asciiLower,
    ← sameIgnoringAsciiCase_iff.mp h, trim_map_asciiLower, lowercase_map_asciiLower]

end Text

open Text

/-- The ticker contains the term, both in small letters. -/
def Stock.tickerContains (s : Stock) (term : List Char) : Bool :=
  occursIn (lowercase (trim term)) (lowercase s.ticker.toList)

theorem searchByTicker_eq_filter (rows : List Stock) (term : List Char) :
    searchByTicker rows term = rows.filter fun s => s.tickerContains term := by
  unfold searchByTicker
  dsimp only
  split
  · next hEmpty =>
      refine (List.filter_eq_self.mpr fun s _ => ?_).symm
      rw [Stock.tickerContains, List.isEmpty_iff.mp hEmpty]
      exact occursIn_iff.mpr List.nil_infix
  · rfl

/-- A ticker contains its parts in any case, unless a capital sigma ends a word in the part
alone. -/
theorem Stock.tickerContains_part {s : Stock} {before part after term : List Char}
    (hTicker : s.ticker.toList = before ++ (part ++ after))
    (hTerm : sameIgnoringAsciiCase part term = true) (hSigmas : SigmasAlike before part after) :
    s.tickerContains term = true := by
  obtain ⟨lead, trail, hLead, hTrail, hPart⟩ := exists_eq_append_trim part
  have hText : s.ticker.toList = before ++ lead ++ (trim part ++ (trail ++ after)) := by
    rw [hTicker]
    nth_rewrite 1 [hPart]
    simp only [List.append_assoc]
  rw [hPart] at hSigmas
  rw [tickerContains, lowercase_trim_of_sameIgnoringAsciiCase hTerm, hText]
  exact occursIn_iff.mpr (hSigmas.of_blanks hLead hTrail).lowercase_part

/-- A search keeps some rows, in their order. It keeps the rows whose ticker contains the term, both
in small letters; among them are those of which the term is a part in any case, as long as every
capital sigma in the part ends a word there just as it does in the ticker. -/
theorem search_keeps_parts (rows : List Stock) (term : List Char) :
    (searchByTicker rows term).Sublist rows ∧
    searchByTicker rows term = (rows.filter fun s => s.tickerContains term) ∧
    ∀ s ∈ rows,
      (s ∈ searchByTicker rows term ↔
        lowercase (trim term) <:+: lowercase s.ticker.toList) ∧
      ∀ before part after, s.ticker.toList = before ++ (part ++ after) →
        sameIgnoringAsciiCase part term = true → SigmasAlike before part after →
        s ∈ searchByTicker rows term := by
  have hKept {s : Stock} (hs : s ∈ rows) :
      s ∈ searchByTicker rows term ↔ s.tickerContains term = true := by
    rw [searchByTicker_eq_filter, List.mem_filter]
    exact and_iff_right hs
  refine ⟨?_, searchByTicker_eq_filter rows term, fun s hs => ⟨?_, ?_⟩⟩
  · rw [searchByTicker_eq_filter]
    exact List.filter_sublist
  · rw [hKept hs]
    exact occursIn_iff
  · intro before part after hTicker hTerm hSigmas
    exact (hKept hs).mpr (Stock.tickerContains_part hTicker hTerm hSigmas)

/-- A part with a sigma at the end of a word, cut off in a later word, in other letters. -/
theorem search_keeps_parts_final_sigma :
    ∃ s : Stock, s.ticker.toList = ['x'] ++ ("ΟΔΟΣ aB".toList ++ ['c']) ∧
      sameIgnoringAsciiCase "ΟΔΟΣ aB".toList "ΟΔΟΣ Ab".toList = true ∧
      SigmasAlike ['x'] "ΟΔΟΣ aB".toList ['c'] ∧ s ∈ searchByTicker [s] "ΟΔΟΣ Ab".toList :=
  have hSigmas : SigmasAlike ['x'] "ΟΔΟΣ aB".toList ['c'] := by decide +kernel
  ⟨.ofTicker "xΟΔΟΣ aBc", by decide, by decide, hSigmas,
    ((search_keeps_parts _ _).2.2 _ List.mem_cons_self).2 _ _ _ (by decide) (by decide) hSigmas⟩

/-- A term may be a part of a ticker, letter for letter, and not find it. -/
theorem part_not_found :
    ¬∀ (rows : List Stock), ∀ s ∈ rows, ∀ before part after term,
      s.ticker.toList = before ++ (part ++ after) → sameIgnoringAsciiCase part term = true →
      s ∈ searchByTicker rows term := by
  intro hAll
  have hFound := hAll [.ofTicker "ΑΣΑ"] _ List.mem_cons_self [] "ΑΣ".toList ['Α'] "ΑΣ".toList
    (by decide) (by decide)
  rw [searchByTicker_eq_filter, List.mem_filter] at hFound
  exact absurd hFound.2 (by decide +kernel)

end EquityScreen
