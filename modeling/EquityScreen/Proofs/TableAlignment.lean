import EquityScreen.CommandLine.FormatWidth
import EquityScreen.Proofs.Digits
import EquityScreen.Proofs.Trimming
import Mathlib.Data.List.DropRight
import Mathlib.Data.List.Forall2

/-! Text tables are aligned. Every column takes the same place in all lines, which are therefore
equally long, and what stands in a column can be read back from its place. Nothing is cut off at
the ends of lines, since a line ends with the text of a metric, and such a text has no white
space in it. -/
namespace EquityScreen

/-! The texts of numbers. -/

theorem Decimal.mem_positional {whole : List Char} {d : Decimal} {c : Char}
    (hc : c ∈ d.positional whole) : c.isDigit = true ∨ c = '.' ∨ c ∈ whole := by
  have hDigit : ∀ c ∈ digitText d.digits, c.isDigit = true := isDigit_digitText d.digits
  have hZero (n : Nat) : ∀ c ∈ List.replicate n '0', c.isDigit = true := fun c hc => by
    rw [List.eq_of_mem_replicate hc]
    rfl
  unfold positional at hc
  dsimp only at hc
  split_ifs at hc
  · simp only [List.mem_cons, List.mem_append] at hc
    obtain rfl | rfl | hc | hc := hc
    · exact .inl rfl
    · exact .inr (.inl rfl)
    · exact .inl (hZero _ c hc)
    · exact .inl (hDigit c hc)
  · simp only [List.mem_append] at hc
    obtain (hc | hc) | hc := hc
    · exact .inl (hDigit c hc)
    · exact .inl (hZero _ c hc)
    · exact .inr (.inr hc)
  · simp only [List.mem_cons, List.mem_append] at hc
    obtain hc | rfl | hc := hc
    · exact .inl (hDigit c (List.mem_of_mem_take hc))
    · exact .inr (.inl rfl)
    · exact .inl (hDigit c (List.mem_of_mem_drop hc))

theorem Decimal.positional_ne_nil (whole : List Char) (d : Decimal) : d.positional whole ≠ [] := by
  unfold positional
  dsimp only
  split_ifs
  · exact List.cons_ne_nil _ _
  · simp [digitText_ne_nil]
  · simp

/-- No text of a number has white space in it, whatever the number. -/
theorem Binary64.isBlank_of_mem_text (x : Binary64) : ∀ c ∈ x.text, Text.isBlank c = false := by
  have hSign : ∀ c ∈ x.signText, Text.isBlank c = false := by
    unfold signText
    split <;> exact Text.no_blank_of_all (by decide)
  unfold text
  split_ifs
  · exact Text.no_blank_of_all (by decide)
  · exact List.forall_mem_append.mpr ⟨hSign, Text.no_blank_of_all (by decide)⟩
  · refine List.forall_mem_append.mpr ⟨hSign, fun c hc => ?_⟩
    obtain hDigit | rfl | hNone := Decimal.mem_positional hc
    · exact isBlank_of_isDigit hDigit
    · decide
    · cases hNone

theorem Binary64.text_ne_nil (x : Binary64) : x.text ≠ [] := by
  unfold text
  split_ifs
  · exact List.cons_ne_nil _ _
  · simp
  · simp [Decimal.positional_ne_nil]

namespace CommandLine

/-! Widths. -/

theorem maxLength_cons (cell : List Char) (cells : List (List Char)) :
    maxLength (cell :: cells) = max cell.length (maxLength cells) := by
  rw [maxLength, List.map_cons, List.foldl_cons, Nat.max_comm, List.foldl_assoc]
  rfl

theorem length_le_maxLength {cell : List Char} {cells : List (List Char)} (h : cell ∈ cells) :
    cell.length ≤ maxLength cells := by
  induction cells with
  | nil => cases h
  | cons first cells ih =>
      rw [maxLength_cons]
      rcases List.mem_cons.mp h with rfl | h
      · exact Nat.le_max_left _ _
      · exact (ih h).trans (Nat.le_max_right _ _)

/-- Some cell is as long as all of them allow. -/
theorem exists_length_eq_maxLength (cell : List Char) (cells : List (List Char)) :
    ∃ longest ∈ cell :: cells, longest.length = maxLength (cell :: cells) := by
  induction cells generalizing cell with
  | nil => exact ⟨cell, List.mem_cons_self, by simp [maxLength]⟩
  | cons next cells ih =>
      obtain ⟨longest, hMem, hLength⟩ := ih next
      rw [maxLength_cons]
      rcases Nat.le_total cell.length (maxLength (next :: cells)) with hLe | hLe
      · exact ⟨longest, List.mem_cons_of_mem _ hMem, by rw [hLength, Nat.max_eq_right hLe]⟩
      · exact ⟨cell, List.mem_cons_self, (Nat.max_eq_left hLe).symm⟩

/-! What an aligned table is. -/

/-- The place of a column in a line begins behind the columns in front of it, each of which has two
spaces behind it. -/
def columnStart : List Nat → Nat → Nat
  | width :: widths, i + 1 => width + 2 + columnStart widths i
  | _, _ => 0

def columnEnd (widths : List Nat) (i : Nat) : Nat := columnStart widths i + widths.getD i 0

/-- What stands in the place of a column. -/
def columnText (widths : List Nat) (i : Nat) (line : List Char) : List Char :=
  (line.drop (columnStart widths i)).take (widths.getD i 0)

/-- The widths of all columns, and two for each gap between them. -/
def lineLength : List Nat → Nat
  | [] => 0
  | [width] => width
  | width :: widths => width + 2 + lineLength widths

/-- The length of the longest of some cells. -/
def IsGreatestLength (width : Nat) (cells : List (List Char)) : Prop :=
  (∀ cell ∈ cells, cell.length ≤ width) ∧ ∃ cell ∈ cells, cell.length = width

/-- A line has its cells in it, each in the place of its column. -/
structure PlacesCells (widths : List Nat) (cells : List (List Char)) (line : List Char) : Prop where
  length : line.length = lineLength widths
  /-- The places are as wide as their columns. -/
  wide : ∀ i (h : i < widths.length), (columnText widths i line).length = widths[i]
  /-- Two spaces stand between a column and the next. -/
  spaced : ∀ i, i + 1 < widths.length → (line.drop (columnEnd widths i)).take 2 = [' ', ' ']
  /-- The first cell is at the left of its place, and only spaces fill the place. -/
  first : ∀ cell, cells[0]? = some cell →
    ∃ n, columnText widths 0 line = cell ++ List.replicate n ' '
  /-- The other cells are at the right of theirs. -/
  others : ∀ i cell, cells[i + 1]? = some cell →
    ∃ n, columnText widths (i + 1) line = List.replicate n ' ' ++ cell
  /-- The first cell is read back from its place, but for spaces at its own end: they cannot be told
  from those that fill the place. -/
  readFirst : ∀ cell, cells[0]? = some cell →
    (columnText widths 0 line).rdropWhile (· == ' ') = cell.rdropWhile (· == ' ')
  readWholeFirst : ∀ cell, cells[0]? = some cell → cell.getLast? ≠ some ' ' →
    (columnText widths 0 line).rdropWhile (· == ' ') = cell
  readOthers : ∀ i cell, cells[i + 1]? = some cell →
    (columnText widths (i + 1) line).dropWhile (· == ' ') = cell

/-- A line shows its cells if it is a single one. -/
structure LineShows (widths : List Nat) (cells : List (List Char)) (line : List Char) : Prop
    extends PlacesCells widths cells line where
  unbroken : '\n' ∉ line

/-- The cells of all lines of a table: the headers, the rule and the stocks. -/
def tableCells (widths : List Nat) (rows : List Stock) : List (List (List Char)) :=
  headerCells :: (widths.map fun w => List.replicate w '-') :: rows.map Stock.cells

/-- The cells of a line side by side, all of them. -/
def sideBySide (widths : List Nat) (cells : List (List Char)) : List Char :=
  [' ', ' '].intercalate (alignedCells widths cells)

/-- Lines are the aligned table of some stocks. -/
structure Aligned (rows : List Stock) (widths : List Nat) (lines : List (List Char)) : Prop where
  /-- A column is as wide as its header or its longest cell. -/
  widest : List.Forall₂
    (fun column width => IsGreatestLength width (column.header.toList :: rows.map (·.cell column)))
    Column.all widths
  count : lines.length = rows.length + 2
  shows : List.Forall₂ (LineShows widths) (tableCells widths rows) lines
  /-- The trimming of lines finds nothing at their ends. -/
  untrimmed : ∀ cells ∈ tableCells widths rows,
    Text.trimEnd (sideBySide widths cells) = sideBySide widths cells

/-! Places in texts that are joined with two spaces. -/

theorem columnStart_zero (widths : List Nat) : columnStart widths 0 = 0 := by
  cases widths <;> rfl

theorem columnStart_cons (width : Nat) (widths : List Nat) (i : Nat) :
    columnStart (width :: widths) (i + 1) = width + 2 + columnStart widths i := rfl

theorem columnEnd_cons (width : Nat) (widths : List Nat) (i : Nat) :
    columnEnd (width :: widths) (i + 1) = width + 2 + columnEnd widths i := by
  rw [columnEnd, columnStart_cons, List.getD_cons_succ, columnEnd, Nat.add_assoc]

section Joined

variable {piece : List Char} {pieces : List (List Char)}

theorem joined_cons (h : pieces ≠ []) :
    [' ', ' '].intercalate (piece :: pieces)
      = piece ++ [' ', ' '] ++ [' ', ' '].intercalate pieces := by
  cases pieces with
  | nil => exact absurd rfl h
  | cons next pieces => exact List.intercalate_cons_cons

/-- Behind a piece and the two spaces the others go on. -/
theorem drop_joined_cons (h : pieces ≠ []) (n : Nat) :
    ([' ', ' '].intercalate (piece :: pieces)).drop (piece.length + 2 + n)
      = ([' ', ' '].intercalate pieces).drop n := by
  have hFront : piece.length + 2 = (piece ++ [' ', ' ']).length := by
    rw [List.length_append]
    rfl
  rw [joined_cons h, hFront, List.drop_length_add_append]

/-- Every piece stands in its place. -/
theorem columnText_joined {i : Nat} (h : pieces[i]? = some piece) :
    columnText (pieces.map List.length) i ([' ', ' '].intercalate pieces) = piece := by
  induction pieces generalizing i with
  | nil => cases h
  | cons first pieces ih =>
      cases i with
      | zero =>
          cases h
          rw [columnText, columnStart_zero, List.map_cons, List.getD_cons_zero, List.drop_zero]
          cases pieces with
          | nil => simp [List.intercalate_singleton]
          | cons next pieces => simp [List.append_assoc]
      | succ i =>
          rw [List.getElem?_cons_succ] at h
          rw [columnText, List.map_cons, columnStart_cons, List.getD_cons_succ,
            drop_joined_cons (List.ne_nil_of_mem (List.mem_of_getElem? h))]
          exact ih h

/-- Two spaces stand behind every piece but the last. -/
theorem spaced_joined {i : Nat} (h : i + 1 < pieces.length) :
    (([' ', ' '].intercalate pieces).drop (columnEnd (pieces.map List.length) i)).take 2
      = [' ', ' '] := by
  induction pieces generalizing i with
  | nil => cases h
  | cons first pieces ih =>
      have hMore : pieces ≠ [] := by
        rintro rfl
        simp at h
      cases i with
      | zero =>
          rw [columnEnd, columnStart_zero, List.map_cons, List.getD_cons_zero, joined_cons hMore]
          simp [List.append_assoc]
      | succ i =>
          rw [List.map_cons, columnEnd_cons, drop_joined_cons hMore]
          exact ih (Nat.lt_of_succ_lt_succ h)

theorem length_joined :
    ([' ', ' '].intercalate pieces).length = lineLength (pieces.map List.length) := by
  induction pieces with
  | nil => rfl
  | cons first pieces ih =>
      cases pieces with
      | nil => rw [List.intercalate_singleton, List.map_singleton, lineLength]
      | cons next pieces =>
          rw [joined_cons (List.cons_ne_nil _ _), List.length_append, List.length_append, ih]
          rfl

/-- A character of the joined pieces is one of a piece or a space. -/
theorem mem_joined {c : Char} (h : c ∈ [' ', ' '].intercalate pieces) :
    c = ' ' ∨ ∃ piece ∈ pieces, c ∈ piece := by
  induction pieces with
  | nil => cases h
  | cons first pieces ih =>
      cases pieces with
      | nil =>
          rw [List.intercalate_singleton] at h
          exact .inr ⟨first, List.mem_cons_self, h⟩
      | cons next pieces =>
          rw [joined_cons (List.cons_ne_nil _ _), List.append_assoc] at h
          rcases List.mem_append.mp h with hFirst | h
          · exact .inr ⟨first, List.mem_cons_self, hFirst⟩
          rcases List.mem_append.mp h with hSpace | h
          · exact .inl (by simpa using hSpace)
          obtain hSpace | ⟨piece, hMem, hc⟩ := ih h
          · exact .inl hSpace
          · exact .inr ⟨piece, List.mem_cons_of_mem _ hMem, hc⟩

/-- The joined pieces end as the last of them does. -/
theorem getLast?_joined (h : pieces.getLast? = some piece) (hText : piece ≠ []) :
    ([' ', ' '].intercalate pieces).getLast? = piece.getLast? := by
  induction pieces with
  | nil => cases h
  | cons first pieces ih =>
      cases pieces with
      | nil =>
          have hOnly : first = piece := by simpa using h
          rw [List.intercalate_singleton, hOnly]
      | cons next pieces =>
          rw [List.getLast?_cons_cons] at h
          have hLater := ih h
          rw [joined_cons (List.cons_ne_nil _ _), List.getLast?_append, hLater,
            List.getLast?_eq_some_getLast hText, Option.some_or]

end Joined

/-! Lines. -/

/-- A text that begins and ends with something to be seen. -/
def HasVisibleEnds (cell : List Char) : Prop :=
  cell ≠ [] ∧ (∀ c ∈ cell.head?, Text.isBlank c = false) ∧
    ∀ c ∈ cell.getLast?, Text.isBlank c = false

/-- Cells that a line of columns can show. -/
structure Showable (widths : List Nat) (cells : List (List Char)) : Prop where
  fits : List.Forall₂ (fun width cell => cell.length ≤ width) widths cells
  several : cells.tail ≠ []
  visible : ∀ cell ∈ cells.tail, HasVisibleEnds cell

theorem hasVisibleEnds_of_no_blank {cell : List Char} (hText : cell ≠ [])
    (h : ∀ c ∈ cell, Text.isBlank c = false) : HasVisibleEnds cell :=
  ⟨hText, fun c hc => h c (List.mem_of_head? hc), fun c hc => h c (List.mem_of_getLast? hc)⟩

theorem length_padRight {width : Nat} {cell : List Char} (h : cell.length ≤ width) :
    (padRight width cell).length = width := by
  rw [padRight, List.length_append, List.length_replicate]
  omega

theorem length_padLeft {width : Nat} {cell : List Char} (h : cell.length ≤ width) :
    (padLeft width cell).length = width := by
  rw [padLeft, List.length_append, List.length_replicate]
  omega

theorem map_length_alignedCells {widths : List Nat} {cells : List (List Char)}
    (h : List.Forall₂ (fun width cell => cell.length ≤ width) widths cells) :
    (alignedCells widths cells).map List.length = widths := by
  cases h with
  | nil => rfl
  | cons hFirst hOthers =>
      rw [alignedCells, List.map_cons, length_padRight hFirst]
      congr 1
      induction hOthers with
      | nil => rfl
      | cons hHere _ ih => rw [List.zipWith_cons_cons, List.map_cons, length_padLeft hHere, ih]

theorem getElem?_alignedCells {widths : List Nat} {cells : List (List Char)} {i width : Nat}
    {cell : List Char} (hWidth : widths[i]? = some width) (hCell : cells[i]? = some cell) :
    (alignedCells widths cells)[i]?
      = some (if i = 0 then padRight width cell else padLeft width cell) := by
  cases widths with
  | nil => cases hWidth
  | cons first widths =>
      cases cells with
      | nil => cases hCell
      | cons firstCell cells =>
          cases i with
          | zero =>
              cases hWidth
              cases hCell
              rfl
          | succ i =>
              rw [List.getElem?_cons_succ] at hWidth hCell
              rw [alignedCells, List.getElem?_cons_succ, List.getElem?_zipWith, hWidth, hCell]
              rfl

theorem exists_width {widths : List Nat} {cells : List (List Char)} {i : Nat} {cell : List Char}
    (h : List.Forall₂ (fun width cell => cell.length ≤ width) widths cells)
    (hCell : cells[i]? = some cell) : ∃ width, widths[i]? = some width ∧ cell.length ≤ width := by
  induction h generalizing i with
  | nil => cases hCell
  | @cons width _ _ _ hHere _ ih =>
      cases i with
      | zero =>
          cases hCell
          exact ⟨width, rfl, hHere⟩
      | succ i => exact ih hCell

/-- Filling puts nothing but spaces around a cell. -/
theorem mem_alignedCells {widths : List Nat} {cells : List (List Char)} {piece : List Char}
    {c : Char} (h : piece ∈ alignedCells widths cells) (hc : c ∈ piece) :
    c = ' ' ∨ ∃ cell ∈ cells, c ∈ cell := by
  cases widths with
  | nil => cases h
  | cons first widths =>
      cases cells with
      | nil => cases h
      | cons firstCell cells =>
          rcases List.mem_cons.mp h with rfl | h
          · rcases List.mem_append.mp hc with hc | hc
            · exact .inr ⟨firstCell, List.mem_cons_self, hc⟩
            · exact .inl (List.eq_of_mem_replicate hc)
          · obtain ⟨i, hPiece⟩ := List.mem_iff_getElem?.mp h
            obtain ⟨width, cell, -, hCell, rfl⟩ := List.getElem?_zipWith_eq_some.mp hPiece
            rcases List.mem_append.mp hc with hc | hc
            · exact .inl (List.eq_of_mem_replicate hc)
            · exact .inr ⟨cell, List.mem_cons_of_mem _ (List.mem_of_getElem? hCell), hc⟩

theorem beq_space_of_mem_replicate {n : Nat} {c : Char} (h : c ∈ List.replicate n ' ') :
    (c == ' ') = true :=
  beq_iff_eq.mpr (List.eq_of_mem_replicate h)

namespace Showable

variable {widths : List Nat} {cells : List (List Char)}

/-- In the place of a column stands its cell, filled up. -/
theorem columnText_sideBySide (h : Showable widths cells) {i : Nat} {cell : List Char}
    (hCell : cells[i]? = some cell) :
    ∃ width, widths[i]? = some width ∧ cell.length ≤ width ∧
      columnText widths i (sideBySide widths cells)
        = if i = 0 then padRight width cell else padLeft width cell := by
  obtain ⟨width, hWidth, hFits⟩ := exists_width h.fits hCell
  refine ⟨width, hWidth, hFits, ?_⟩
  have hText := columnText_joined (getElem?_alignedCells hWidth hCell)
  rwa [map_length_alignedCells h.fits] at hText

theorem visible_later (h : Showable widths cells) {i : Nat} {cell : List Char}
    (hCell : cells[i + 1]? = some cell) : HasVisibleEnds cell := by
  refine h.visible cell (List.mem_of_getElem? (i := i) ?_)
  rwa [List.getElem?_tail]

/-- The last cell of a line ends with something to be seen, and so does the line. -/
theorem trimEnd_sideBySide (h : Showable widths cells) :
    Text.trimEnd (sideBySide widths cells) = sideBySide widths cells := by
  have hLength : (alignedCells widths cells).length = cells.length := by
    rw [← h.fits.length_eq, ← List.length_map (f := List.length), map_length_alignedCells h.fits]
  -- There are at least two cells, so the last is no ticker, which may be blank.
  obtain ⟨last, hLast⟩ : ∃ last, cells.length = last + 1 + 1 := by
    have hTail := List.length_pos_of_ne_nil h.several
    rw [List.length_tail] at hTail
    exact ⟨cells.length - 2, by omega⟩
  obtain ⟨cell, hCell⟩ : ∃ cell, cells[last + 1]? = some cell :=
    ⟨_, List.getElem?_eq_getElem (by omega)⟩
  obtain ⟨hText, -, hVisible⟩ := h.visible_later hCell
  obtain ⟨width, hWidth, -⟩ := exists_width h.fits hCell
  have hPiece : (alignedCells widths cells).getLast? = some (padLeft width cell) := by
    rw [List.getLast?_eq_getElem?, hLength, hLast, Nat.add_sub_cancel,
      getElem?_alignedCells hWidth hCell]
    rfl
  refine Text.trimEnd_of_last fun c hc => hVisible c ?_
  rw [sideBySide, getLast?_joined hPiece (List.append_ne_nil_of_right_ne_nil _ hText), padLeft,
    List.getLast?_append_of_ne_nil _ hText] at hc
  exact hc

/-- Spaces that fill the place of the first cell go with those at its own end. -/
theorem rdropWhile_first (h : Showable widths cells) {cell : List Char}
    (hCell : cells[0]? = some cell) :
    (columnText widths 0 (sideBySide widths cells)).rdropWhile (· == ' ')
      = cell.rdropWhile (· == ' ') := by
  obtain ⟨width, -, -, hText⟩ := h.columnText_sideBySide hCell
  rw [hText, if_pos rfl, padRight, List.rdropWhile, List.reverse_append, List.reverse_replicate,
    List.dropWhile_append_of_pos fun _ => beq_space_of_mem_replicate, List.rdropWhile]

/-- A line has the cells that stand in it side by side in their places. -/
theorem placesCells (h : Showable widths cells) :
    PlacesCells widths cells (sideBySide widths cells) where
  length := by
    rw [sideBySide, length_joined, map_length_alignedCells h.fits]
  wide := by
    intro i hi
    obtain ⟨cell, hCell⟩ : ∃ cell, cells[i]? = some cell :=
      ⟨_, List.getElem?_eq_getElem (h.fits.length_eq ▸ hi)⟩
    obtain ⟨width, hWidth, hFits, hText⟩ := h.columnText_sideBySide hCell
    rw [List.getElem?_eq_getElem hi] at hWidth
    rw [hText, Option.some.inj hWidth]
    split
    · exact length_padRight hFits
    · exact length_padLeft hFits
  spaced := by
    intro i hi
    rw [← map_length_alignedCells h.fits, List.length_map] at hi
    have hSpaces := spaced_joined hi
    rwa [map_length_alignedCells h.fits] at hSpaces
  first := by
    intro cell hCell
    obtain ⟨width, -, -, hText⟩ := h.columnText_sideBySide hCell
    exact ⟨width - cell.length, hText⟩
  others := by
    intro i cell hCell
    obtain ⟨width, -, -, hText⟩ := h.columnText_sideBySide hCell
    exact ⟨width - cell.length, hText⟩
  readFirst _ hCell := h.rdropWhile_first hCell
  readWholeFirst := by
    intro cell hCell hEnd
    have hLast : ∀ hText : cell ≠ [], ¬(cell.getLast hText == ' ') = true := by
      intro hText hSpace
      refine hEnd ?_
      rw [List.getLast?_eq_some_getLast hText, beq_iff_eq.mp hSpace]
    exact (h.rdropWhile_first hCell).trans (List.rdropWhile_eq_self_iff.mpr hLast)
  readOthers := by
    intro i cell hCell
    obtain ⟨width, -, -, hText⟩ := h.columnText_sideBySide hCell
    have hHead : ∀ c ∈ cell.head?, (c == ' ') = false := by
      intro c hc
      rw [beq_eq_false_iff_ne]
      rintro rfl
      exact absurd ((h.visible_later hCell).2.1 ' ' hc) (by decide)
    rw [hText]
    exact (List.dropWhile_append_of_pos fun _ => beq_space_of_mem_replicate).trans
      (Text.dropWhile_of_head? hHead)

/-- A line is a single one if no cell breaks it. -/
theorem lineShows (h : Showable widths cells) (hUnbroken : ∀ cell ∈ cells, '\n' ∉ cell) :
    LineShows widths cells (sideBySide widths cells) where
  toPlacesCells := h.placesCells
  unbroken := by
    intro hMem
    obtain hSpace | ⟨piece, hPiece, hBreak⟩ := mem_joined hMem
    · exact absurd hSpace (by decide)
    · obtain hSpace | ⟨cell, hCell, hBreak⟩ := mem_alignedCells hPiece hBreak
      · exact absurd hSpace (by decide)
      · exact hUnbroken cell hCell hBreak

end Showable

/-! The cells of tables. -/

/-- The cells of a column and its header. -/
def columnCells (rows : List Stock) (column : Column) : List (List Char) :=
  column.header.toList :: rows.map (·.cell column)

theorem columnWidths_eq (rows : List Stock) :
    columnWidths rows = Column.all.map fun column => maxLength (columnCells rows column) := rfl

/-- A line with one cell for each column can be shown if no cell is wider than its column. -/
theorem showable_columns {rows : List Stock} {cellOf : Column → List Char}
    (hFits : ∀ column, (cellOf column).length ≤ maxLength (columnCells rows column))
    (hVisible : ∀ m, HasVisibleEnds (cellOf (.metric m))) :
    Showable (columnWidths rows) (Column.all.map cellOf) := by
  have hTail : (Column.all.map cellOf).tail = Metric.all.map fun m => cellOf (.metric m) := by
    rw [Column.all, List.map_cons, List.tail_cons, List.map_map]
    rfl
  constructor
  · rw [columnWidths_eq, List.forall₂_map_left_iff, List.forall₂_map_right_iff, List.forall₂_same]
    exact fun column _ => hFits column
  · rw [hTail]
    exact List.cons_ne_nil _ _
  · rw [hTail]
    exact List.forall_mem_map.mpr fun m _ => hVisible m

theorem header_unbroken (column : Column) : '\n' ∉ column.header.toList := by
  cases column with
  | ticker => decide
  | metric m => cases m <;> decide

theorem header_visible (m : Metric) : HasVisibleEnds (Column.metric m).header.toList := by
  refine ⟨?_, ?_, ?_⟩
  · cases m <;> decide
  · cases m <;> (rintro c ⟨⟩; rfl)
  · cases m <;> (rintro c ⟨⟩; rfl)

theorem showable_header (rows : List Stock) : Showable (columnWidths rows) headerCells :=
  showable_columns (fun _ => length_le_maxLength List.mem_cons_self) header_visible

/-- No column is without width, because no header is empty. -/
theorem showable_rule (rows : List Stock) :
    Showable (columnWidths rows) ((columnWidths rows).map fun w => List.replicate w '-') := by
  have hDash (n : Nat) : ∀ c ∈ List.replicate n '-', Text.isBlank c = false := fun c hc => by
    rw [List.eq_of_mem_replicate hc]
    rfl
  rw [columnWidths_eq, List.map_map]
  refine showable_columns (fun column => ?_) fun m => ?_
  · exact (List.length_replicate ..).le
  · refine hasVisibleEnds_of_no_blank (fun hNil => ?_) (hDash _)
    have hHeader : (Column.metric m).header.toList.length
        ≤ maxLength (columnCells rows (.metric m)) := length_le_maxLength List.mem_cons_self
    have hZero : maxLength (columnCells rows (.metric m)) = 0 := by
      simpa using hNil
    rw [hZero, Nat.le_zero, List.length_eq_zero_iff] at hHeader
    exact (header_visible m).1 hHeader

/-- The text of a metric is visible throughout, and there always is one. -/
theorem metric_visible (s : Stock) (m : Metric) :
    s.cell (.metric m) ≠ [] ∧ ∀ c ∈ s.cell (.metric m), Text.isBlank c = false := by
  cases hMetric : s.metric m with
  | none =>
      have hCell : s.cell (.metric m) = ['-'] := by
        rw [Stock.cell, hMetric]
      rw [hCell]
      exact ⟨List.cons_ne_nil _ _, Text.no_blank_of_all (by decide)⟩
  | some x =>
      have hCell : s.cell (.metric m) = x.text := by
        rw [Stock.cell, hMetric]
      rw [hCell]
      exact ⟨x.text_ne_nil, x.isBlank_of_mem_text⟩

theorem showable_cells {rows : List Stock} {s : Stock} (hRow : s ∈ rows) :
    Showable (columnWidths rows) s.cells := by
  refine showable_columns (fun column => ?_) fun m => ?_
  · exact length_le_maxLength (List.mem_cons_of_mem _ (List.mem_map_of_mem hRow))
  · exact hasVisibleEnds_of_no_blank (metric_visible s m).1 (metric_visible s m).2

theorem showable_tableCells (rows : List Stock) :
    ∀ cells ∈ tableCells (columnWidths rows) rows, Showable (columnWidths rows) cells := by
  refine List.forall_mem_cons.mpr ⟨showable_header rows, ?_⟩
  refine List.forall_mem_cons.mpr ⟨showable_rule rows, ?_⟩
  exact List.forall_mem_map.mpr fun s hRow => showable_cells hRow

/-- Only tickers can break the lines of a table. -/
theorem unbroken_tableCells {rows : List Stock} (h : ∀ s ∈ rows, '\n' ∉ s.ticker.toList)
    (widths : List Nat) : ∀ cells ∈ tableCells widths rows, ∀ cell ∈ cells, '\n' ∉ cell := by
  refine List.forall_mem_cons.mpr ⟨?header, List.forall_mem_cons.mpr ⟨?rule, ?stocks⟩⟩
  case header => exact List.forall_mem_map.mpr fun column _ => header_unbroken column
  case rule =>
    refine List.forall_mem_map.mpr fun _ _ hMem => ?_
    exact absurd (List.eq_of_mem_replicate hMem) (by decide)
  case stocks =>
    refine List.forall_mem_map.mpr fun s hRow => List.forall_mem_map.mpr fun column _ => ?_
    cases column with
    | ticker => exact h s hRow
    | metric m => exact fun hMem => absurd ((metric_visible s m).2 _ hMem) (by decide)

/-! Writing with a limit of widths. -/

theorem mapM_guarded {α β : Type} (P : α → Prop) [DecidablePred P] (f : α → β) (items : List α) :
    (items.mapM fun a => if P a then some (f a) else none)
      = if ∀ a ∈ items, P a then some (items.map f) else none := by
  induction items with
  | nil => rfl
  | cons a items ih =>
      rw [List.mapM_cons, ih]
      by_cases hHere : P a
      · by_cases hLater : ∀ a ∈ items, P a
        · rw [if_pos hHere, if_pos hLater, if_pos (List.forall_mem_cons.mpr ⟨hHere, hLater⟩)]
          rfl
        · rw [if_pos hHere, if_neg hLater, if_neg fun h => hLater (List.forall_mem_cons.mp h).2]
          rfl
      · rw [if_neg hHere, if_neg fun h => hHere (List.forall_mem_cons.mp h).1]
        rfl

theorem alignedCells?_eq {widths : List Nat} {cells : List (List Char)}
    (h : widths.length = cells.length) :
    alignedCells? widths cells
      = if ∀ width ∈ widths, width < widthLimit then some (alignedCells widths cells)
        else none := by
  cases widths with
  | nil => rfl
  | cons first widths =>
      obtain ⟨firstCell, cells, rfl⟩ := List.exists_cons_of_length_eq_add_one h.symm
      have hWidths : (∀ x ∈ widths.zip cells, x.1 < widthLimit) ↔
          ∀ width ∈ widths, width < widthLimit := by
        have hFirsts := List.map_fst_zip (Nat.le_of_succ_le_succ h.le)
        conv_rhs => rw [← hFirsts, List.forall_mem_map]
      have hOthers : ((widths.zip cells).mapM fun x => padTo? padLeft x.1 x.2)
          = if ∀ width ∈ widths, width < widthLimit
            then some (List.zipWith padLeft widths cells) else none := by
        refine (mapM_guarded (fun x : Nat × List Char => x.1 < widthLimit)
          (fun x => padLeft x.1 x.2) _).trans ?_
        rw [List.zip_eq_zipWith, List.map_zipWith, ← List.zip_eq_zipWith]
        exact if_congr hWidths rfl rfl
      have hParts : alignedCells? (first :: widths) (firstCell :: cells)
          = (padTo? padRight first firstCell).bind fun piece =>
            ((widths.zip cells).mapM fun x => padTo? padLeft x.1 x.2).bind fun pieces =>
              some (piece :: pieces) := rfl
      rw [hParts, hOthers, padTo?]
      refine Eq.trans ?_ (if_congr List.forall_mem_cons rfl rfl).symm
      by_cases hFirst : first < widthLimit
      · rw [if_pos hFirst]
        by_cases hLater : ∀ width ∈ widths, width < widthLimit
        · rw [if_pos hLater]
          exact (if_pos ⟨hFirst, hLater⟩).symm
        · rw [if_neg hLater]
          exact (if_neg fun h => hLater h.2).symm
      · rw [if_neg hFirst]
        exact (if_neg fun h => hFirst h.1).symm

/-- A line is written if none of its columns is too wide. -/
theorem tableLine?_eq {widths : List Nat} {cells : List (List Char)}
    (h : widths.length = cells.length) :
    tableLine? widths cells
      = if ∀ width ∈ widths, width < widthLimit then some (tableLine widths cells) else none := by
  rw [tableLine?, alignedCells?_eq h]
  split_ifs <;> rfl

/-- And so is a table, all lines of which have the same columns. -/
theorem renderTable?_eq (rows : List Stock) :
    renderTable? rows
      = if ∀ width ∈ columnWidths rows, width < widthLimit then some (renderTable rows)
        else none := by
  have hHeader : (columnWidths rows).length = headerCells.length := by
    rw [columnWidths, headerCells, List.length_map, List.length_map]
  have hRule : (columnWidths rows).length =
      ((columnWidths rows).map fun w => List.replicate w '-').length := (List.length_map _).symm
  have hCells (s : Stock) : (columnWidths rows).length = s.cells.length := by
    rw [columnWidths, Stock.cells, List.length_map, List.length_map]
  rw [renderTable?, tableLine?_eq hHeader, tableLine?_eq hRule]
  simp only [tableLine?_eq (hCells _)]
  split_ifs with hWidths
  · have hLines : (rows.mapM fun s => some (tableLine (columnWidths rows) s.cells))
        = some (rows.map fun s => tableLine (columnWidths rows) s.cells) := List.mapM_pure
    rw [hLines]
    rfl
  · rfl

theorem columnWidths_lt {rows : List Stock}
    (h : ∀ s ∈ rows, ∀ column, (s.cell column).length < widthLimit) :
    ∀ width ∈ columnWidths rows, width < widthLimit := by
  rw [columnWidths_eq, List.forall_mem_map]
  intro column _
  obtain ⟨longest, hMem, hLength⟩ :=
    exists_length_eq_maxLength column.header.toList (rows.map (·.cell column))
  rw [columnCells, ← hLength]
  rcases List.mem_cons.mp hMem with rfl | hMem
  · cases column with
    | ticker => decide
    | metric m => cases m <;> decide
  · obtain ⟨s, hRow, rfl⟩ := List.mem_map.mp hMem
    exact h s hRow column

theorem tableLine_eq {widths : List Nat} {cells : List (List Char)} (h : Showable widths cells) :
    tableLine widths cells = sideBySide widths cells ++ ['\n'] :=
  congrArg (· ++ ['\n']) h.trimEnd_sideBySide

/-- The cells of all lines side by side. -/
def tableLines (rows : List Stock) : List (List Char) :=
  (tableCells (columnWidths rows) rows).map (sideBySide (columnWidths rows))

/-- A table is one line after another. -/
theorem renderTable_eq (rows : List Stock) :
    renderTable rows = (tableLines rows).flatMap (· ++ ['\n']) :=
  calc
    renderTable rows
      = (tableCells (columnWidths rows) rows).flatMap (tableLine (columnWidths rows)) := by
        rw [tableCells, List.flatMap_cons, List.flatMap_cons, List.flatMap_map,
          ← List.append_assoc]
        rfl
    _ = (tableCells (columnWidths rows) rows).flatMap
          fun cells => sideBySide (columnWidths rows) cells ++ ['\n'] :=
        List.flatMap_congr fun cells hCells => tableLine_eq (showable_tableCells rows cells hCells)
    _ = _ := by rw [tableLines, List.flatMap_map]

/-- Whatever stands in the tickers, every cell is in its place. -/
theorem placesCells_tableLines (rows : List Stock) :
    List.Forall₂ (PlacesCells (columnWidths rows)) (tableCells (columnWidths rows) rows)
      (tableLines rows) := by
  rw [tableLines, List.forall₂_map_right_iff, List.forall₂_same]
  exact fun cells hCells => (showable_tableCells rows cells hCells).placesCells

theorem isGreatestLength_maxLength (cell : List Char) (cells : List (List Char)) :
    IsGreatestLength (maxLength (cell :: cells)) (cell :: cells) :=
  ⟨fun _ => length_le_maxLength, exists_length_eq_maxLength cell cells⟩

/-- Side by side, the cells of all lines are the aligned table. -/
theorem aligned_tableLines {rows : List Stock} (h : ∀ s ∈ rows, '\n' ∉ s.ticker.toList) :
    Aligned rows (columnWidths rows) (tableLines rows) where
  widest := by
    rw [columnWidths_eq, List.forall₂_map_right_iff, List.forall₂_same]
    exact fun column _ => isGreatestLength_maxLength _ _
  count := by
    rw [tableLines, List.length_map, tableCells, List.length_cons, List.length_cons,
      List.length_map]
  shows := by
    rw [tableLines, List.forall₂_map_right_iff, List.forall₂_same]
    exact fun cells hCells => (showable_tableCells rows cells hCells).lineShows
      (unbroken_tableCells h _ cells hCells)
  untrimmed cells hCells := (showable_tableCells rows cells hCells).trimEnd_sideBySide

/-- Tickers that are empty, blank or end in a space, and metrics that are absent, not finite, or
some 300 digits long. -/
def unevenStocks : List Stock :=
  [⟨"", fun _ => none⟩,
    ⟨"  ", fun m => some (if m = .roe then .nan true else .infinity true)⟩,
    ⟨"Größe ", fun m => if m = .roe then some .zero else some (Decimal.toBinary64 true ⟨17, 299⟩)⟩]

end CommandLine

end EquityScreen
