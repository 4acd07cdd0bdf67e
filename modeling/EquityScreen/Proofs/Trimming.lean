import EquityScreen.Text.Blank
import Mathlib.Data.List.TakeWhile

/-! Trimming removes exactly the white space at the two ends. White space put
around a text is therefore never seen after trimming, and trimming twice is
trimming once. -/
namespace EquityScreen.Text

/-- White space throughout. -/
def AllBlank (cs : List Char) : Prop := ∀ c ∈ cs, isBlank c = true

/-- Behind what is dropped from the front something else begins. -/
theorem head?_dropWhile_eq_false (p : Char → Bool) (cs : List Char) :
    ∀ c ∈ (cs.dropWhile p).head?, p c = false := by
  intro c hc
  have hNot := List.head?_dropWhile_not p cs
  rw [Option.mem_def.mp hc] at hNot
  simpa using hNot

/-- Nothing is dropped from the front of a text that begins with something else. -/
theorem dropWhile_of_head? {p : Char → Bool} {cs : List Char}
    (h : ∀ c ∈ cs.head?, p c = false) : cs.dropWhile p = cs := by
  cases cs with
  | nil => rfl
  | cons c cs => exact List.dropWhile_cons_of_neg (by simp [h c rfl])

theorem trimStart_append {before : List Char} (h : AllBlank before) (cs : List Char) :
    trimStart (before ++ cs) = trimStart cs :=
  List.dropWhile_append_of_pos h

theorem trimEnd_append {after : List Char} (h : AllBlank after) (cs : List Char) :
    trimEnd (cs ++ after) = trimEnd cs := by
  have hReverse : ∀ c ∈ after.reverse, isBlank c = true := fun c hc =>
    h c (List.mem_reverse.mp hc)
  rw [trimEnd, trimEnd, List.reverse_append, List.dropWhile_append_of_pos hReverse]

theorem trimStart_eq_nil_iff {cs : List Char} : trimStart cs = [] ↔ AllBlank cs := by
  simp [trimStart, AllBlank]

theorem trimStart_of_allBlank {cs : List Char} (h : AllBlank cs) : trimStart cs = [] :=
  trimStart_eq_nil_iff.mpr h

/-- A text is some white space and what remains of it from the left. -/
theorem exists_eq_append_trimStart (cs : List Char) :
    ∃ before, AllBlank before ∧ cs = before ++ trimStart cs :=
  ⟨cs.takeWhile isBlank, fun _ hc => List.mem_takeWhile_imp hc,
    List.takeWhile_append_dropWhile.symm⟩

theorem trim_blank_append {before : List Char} (h : AllBlank before) (cs : List Char) :
    trim (before ++ cs) = trim cs := by
  rw [trim, trim, trimStart_append h]

/-- If the text itself is blank, then everything goes; otherwise its first
character stops the trimming from the left, so `after` is met from the right. -/
theorem trim_append_blank {after : List Char} (h : AllBlank after) (cs : List Char) :
    trim (cs ++ after) = trim cs := by
  have hSplit : trimStart (cs ++ after) =
      if (trimStart cs).isEmpty then trimStart after else trimStart cs ++ after :=
    List.dropWhile_append
  rw [trim, trim, hSplit]
  split
  · next hEmpty =>
      rw [trimStart_of_allBlank h, List.isEmpty_iff.mp hEmpty]
  · exact trimEnd_append h _

/-- Behind the trimmed text there is the white space at the end, and nothing else. -/
theorem trim_append_blanks (cs : List Char) :
    trim cs ++ ((trimStart cs).reverse.takeWhile isBlank).reverse = trimStart cs := by
  rw [trim, trimEnd, ← List.reverse_append, List.takeWhile_append_dropWhile, List.reverse_reverse]

/-- A text is its trimmed text with white space around it. -/
theorem exists_eq_append_trim (cs : List Char) :
    ∃ before after, AllBlank before ∧ AllBlank after ∧ cs = before ++ (trim cs ++ after) := by
  refine ⟨cs.takeWhile isBlank, ((trimStart cs).reverse.takeWhile isBlank).reverse, ?_, ?_, ?_⟩
  · exact fun c hc => List.mem_takeWhile_imp hc
  · exact fun c hc => List.mem_takeWhile_imp (List.mem_reverse.mp hc)
  · rw [trim_append_blanks]
    exact List.takeWhile_append_dropWhile.symm

/-- Nothing is left of a text that is white space, and of no other. -/
theorem isEmpty_trim_iff {cs : List Char} : (trim cs).isEmpty = true ↔ AllBlank cs := by
  rw [List.isEmpty_iff]
  constructor
  · intro hEmpty
    obtain ⟨before, after, hBefore, hAfter, hText⟩ := exists_eq_append_trim cs
    rw [hText, hEmpty]
    exact List.forall_mem_append.mpr ⟨hBefore, hAfter⟩
  · intro hBlank
    rw [trim, trimStart_of_allBlank hBlank]
    rfl

/-- Nothing but white space goes. -/
theorem mem_trim {cs : List Char} {c : Char} (hc : c ∈ cs) (h : isBlank c = false) :
    c ∈ trim cs := by
  obtain ⟨before, after, hBefore, hAfter, hText⟩ := exists_eq_append_trim cs
  have hNot {blank : List Char} (hBlank : AllBlank blank) : c ∉ blank := fun hMem => by
    rw [hBlank c hMem] at h
    cases h
  rw [hText, List.mem_append, List.mem_append] at hc
  exact (hc.resolve_left (hNot hBefore)).resolve_right (hNot hAfter)

theorem trim_trim (cs : List Char) : trim (trim cs) = trim cs := by
  obtain ⟨before, after, hBefore, hAfter, hText⟩ := exists_eq_append_trim cs
  calc
    trim (trim cs) = trim (trim cs ++ after) := (trim_append_blank hAfter _).symm
    _ = trim (before ++ (trim cs ++ after)) := (trim_blank_append hBefore _).symm
    _ = trim cs := by rw [← hText]

theorem trimString_trimString (s : String) : trimString (trimString s) = trimString s := by
  simp only [trimString, String.toList_ofList, trim_trim]

theorem trimString_empty : trimString "" = "" := rfl

/-- Nothing goes from the end of a text that does not end with white space. -/
theorem trimEnd_of_last {cs : List Char} (h : ∀ c ∈ cs.getLast?, isBlank c = false) :
    trimEnd cs = cs := by
  have hReverse : ∀ c ∈ cs.reverse.head?, isBlank c = false := by
    rwa [List.head?_reverse]
  rw [trimEnd, dropWhile_of_head? hReverse, List.reverse_reverse]

/-- A text without white space at its ends stays as it is. -/
theorem trim_of_ends {cs : List Char} (hHead : ∀ c ∈ cs.head?, isBlank c = false)
    (hLast : ∀ c ∈ cs.getLast?, isBlank c = false) : trim cs = cs := by
  rw [trim, trimStart, dropWhile_of_head? hHead, trimEnd_of_last hLast]

theorem no_blank_of_all {cs : List Char} (h : (cs.all fun c => !isBlank c) = true) :
    ∀ c ∈ cs, isBlank c = false := by
  simpa using h

theorem trim_of_no_blank {cs : List Char} (h : ∀ c ∈ cs, isBlank c = false) : trim cs = cs :=
  trim_of_ends (fun c hc => h c (List.mem_of_head? hc)) fun c hc => h c (List.mem_of_getLast? hc)

end EquityScreen.Text
