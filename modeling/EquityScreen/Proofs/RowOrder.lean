import EquityScreen.Table.Order
import Mathlib.Tactic.Common

/-! The order of rows, told by ranks. The rank of a row is all that a comparison reads of it: the
key of its ticker, the value of a metric, or that there is no value to sort by. Rows compare
as their ranks are ordered, so that comparing is a total preorder, and rows compare equal
exactly if they have the same rank. -/
namespace EquityScreen

namespace Binary64

/-- The total order of numbers: the numeric one, with negative zero before positive zero. -/
def TotalLE (x y : Binary64) : Prop :=
  x.less y = true ∨ (x.same y = true ∧ (x.negative = true ∨ y.negative = false))

variable {x y z : Binary64}

instance : Std.OrientedCmp compareTotal where
  eq_swap := Std.OrientedOrd.eq_swap

theorem isLE_compareTotal (hx : x.isNaN = false) (hy : y.isNaN = false) :
    (x.compareTotal y).isLE = true ↔ x.TotalLE y := by
  rw [compareTotal, Std.isLE_compare]
  obtain ⟨xNegative, xMagnitude⟩ := x
  obtain ⟨yNegative, yMagnitude⟩ := y
  cases xNegative <;> cases yNegative <;>
    simp [TotalLE, less, same, hx, hy, totalKey, numericKey] <;> omega

theorem TotalLE.trans (h : x.TotalLE y) (h' : y.TotalLE z) : x.TotalLE z := by
  simp only [TotalLE, less, same, Bool.and_eq_true, Bool.not_eq_true', decide_eq_true_eq] at *
  grind

theorem TotalLE.antisymm (h : x.TotalLE y) (h' : y.TotalLE x) : x = y := by
  obtain ⟨xNegative, xMagnitude⟩ := x
  obtain ⟨yNegative, yMagnitude⟩ := y
  simp only [TotalLE, less, same, numericKey, Bool.and_eq_true, decide_eq_true_eq] at h h'
  cases xNegative <;> cases yNegative <;> simp at h h' ⊢ <;> omega

end Binary64

/-- Keys of tickers are compared byte after byte. -/
theorem isLE_compare_bytes (k l : List UInt8) : (compare k l).isLE = true ↔ k ≤ l := by
  induction k generalizing l with
  | nil => cases l <;> simp
  | cons b k ih =>
      cases l with
      | nil => simp
      | cons c l =>
          rw [List.compare_cons_cons, List.cons_le_cons_iff, ← ih, Ordering.isLE_then_iff_or,
            Std.compare_eq_lt, Std.compare_eq_eq_iff_eq]

namespace SortDirection

/-- A relation read in a direction. -/
def Oriented {α : Type} (r : α → α → Prop) : SortDirection → α → α → Prop
  | ascending, a, b => r a b
  | descending, a, b => r b a

theorem apply_swap (direction : SortDirection) (o : Ordering) :
    direction.apply o.swap = (direction.apply o).swap := by
  cases direction <;> rfl

theorem isLE_apply {α : Type} {cmp : α → α → Ordering} [Std.OrientedCmp cmp]
    {r : α → α → Prop} {a b : α} (direction : SortDirection)
    (h : (cmp a b).isLE = true ↔ r a b) (h' : (cmp b a).isLE = true ↔ r b a) :
    (direction.apply (cmp a b)).isLE = true ↔ direction.Oriented r a b := by
  cases direction with
  | ascending => exact h
  | descending => rwa [apply, ← Std.OrientedCmp.eq_swap]

theorem Oriented.trans {α : Type} {r : α → α → Prop} {direction : SortDirection} {a b c : α}
    (hTrans : ∀ a b c, r a b → r b c → r a c) (h : direction.Oriented r a b)
    (h' : direction.Oriented r b c) : direction.Oriented r a c := by
  cases direction with
  | ascending => exact hTrans a b c h h'
  | descending => exact hTrans c b a h' h

theorem Oriented.antisymm {α : Type} {r : α → α → Prop} {direction : SortDirection} {a b : α}
    (hAntisymm : ∀ a b, r a b → r b a → a = b) (h : direction.Oriented r a b)
    (h' : direction.Oriented r b a) : a = b := by
  cases direction with
  | ascending => exact hAntisymm a b h h'
  | descending => exact hAntisymm a b h' h

end SortDirection

/-- All that sorting reads of a row. -/
inductive Rank where
  | ticker (key : List UInt8)
  | value (x : Binary64)
  | missing
deriving DecidableEq, Repr

/-- A rank may stand before another. Nothing but the comparison of two keys or of two values
depends on the direction. -/
inductive Rank.Before (direction : SortDirection) : Rank → Rank → Prop where
  | tickers {k l : List UInt8} (inOrder : direction.Oriented (· ≤ ·) k l) :
      Before direction (.ticker k) (.ticker l)
  | values {x y : Binary64} (inOrder : direction.Oriented Binary64.TotalLE x y) :
      Before direction (.value x) (.value y)
  | missing (r : Rank) : Before direction r .missing

namespace Rank

variable {direction : SortDirection} {r s t : Rank}

@[simp]
theorem before_tickers_iff {k l : List UInt8} :
    Before direction (.ticker k) (.ticker l) ↔ direction.Oriented (· ≤ ·) k l :=
  ⟨fun h => by cases h; assumption, .tickers⟩

@[simp]
theorem before_values_iff {x y : Binary64} :
    Before direction (.value x) (.value y) ↔ direction.Oriented Binary64.TotalLE x y :=
  ⟨fun h => by cases h; assumption, .values⟩

@[simp]
theorem before_missing (r : Rank) : Before direction r .missing := .missing r

@[simp]
theorem not_before_value {x : Binary64} : ¬Before direction .missing (.value x) := nofun

theorem Before.trans (h : Before direction r s) (h' : Before direction s t) :
    Before direction r t := by
  cases h' with
  | missing => exact .missing r
  | tickers later =>
      cases h with
      | tickers earlier => exact .tickers (earlier.trans (fun _ _ _ => List.le_trans) later)
  | values later =>
      cases h with
      | values earlier => exact .values (earlier.trans (fun _ _ _ => Binary64.TotalLE.trans) later)

theorem Before.antisymm (h : Before direction r s) (h' : Before direction s r) : r = s := by
  cases h with
  | missing =>
      cases h'
      rfl
  | tickers inOrder =>
      cases h' with
      | tickers reverse =>
          exact congrArg Rank.ticker (inOrder.antisymm (fun _ _ => List.le_antisymm) reverse)
  | values inOrder =>
      cases h' with
      | values reverse =>
          exact congrArg Rank.value
            (inOrder.antisymm (fun _ _ => Binary64.TotalLE.antisymm) reverse)

theorem missing_of_before (h : Before direction .missing r) : r = .missing := by
  cases h
  rfl

end Rank

namespace SortConfig

/-- The rank of a row: of its ticker the bytes of the small letters, of a metric the value. A NaN
is no value. -/
def rank (sort : SortConfig) (s : Stock) : Rank :=
  match sort.column with
  | .ticker => .ticker (Text.utf8Bytes (Text.lowercase s.ticker.toList))
  | .metric m =>
    match s.metric m with
    | some x => if x.isNaN then .missing else .value x
    | none => .missing

theorem rank_ticker (direction : SortDirection) (s : Stock) :
    rank ⟨.ticker, direction⟩ s = .ticker s.tickerKey := rfl

theorem rank_metric (m : Metric) (direction : SortDirection) (s : Stock) :
    rank ⟨.metric m, direction⟩ s = (s.sortValue? m).elim .missing .value := by
  cases hMetric : s.metric m with
  | none => simp [rank, Stock.sortValue?, hMetric]
  | some x =>
      cases hNaN : x.isNaN <;>
        simp [rank, Stock.sortValue?, hMetric, Option.filter_some, hNaN]

theorem isNaN_of_sortValue? {m : Metric} {s : Stock} {x : Binary64}
    (h : s.sortValue? m = some x) : x.isNaN = false := by
  simpa using (Option.filter_eq_some_iff.mp h).2

/-- A row compares as not after another exactly if its rank may stand before the other rank. -/
theorem isLE_compareRows_iff (sort : SortConfig) (a b : Stock) :
    (sort.compareRows a b).isLE = true ↔
      Rank.Before sort.direction (sort.rank a) (sort.rank b) := by
  obtain ⟨column, direction⟩ := sort
  cases column with
  | ticker =>
      rw [rank_ticker, rank_ticker, Rank.before_tickers_iff]
      exact direction.isLE_apply (isLE_compare_bytes _ _) (isLE_compare_bytes _ _)
  | metric m =>
      rw [rank_metric, rank_metric]
      cases ha : a.sortValue? m with
      | none => cases hb : b.sortValue? m <;> simp [compareRows, ha, hb]
      | some x =>
          have hx := isNaN_of_sortValue? ha
          cases hb : b.sortValue? m with
          | none => simp [compareRows, ha, hb]
          | some y =>
              have hy := isNaN_of_sortValue? hb
              simp only [compareRows, ha, hb, Option.elim_some, Rank.before_values_iff]
              exact direction.isLE_apply (Binary64.isLE_compareTotal hx hy)
                (Binary64.isLE_compareTotal hy hx)

/-- Comparing the other way round turns the result round. -/
instance (sort : SortConfig) : Std.OrientedCmp sort.compareRows where
  eq_swap := by
    intro a b
    obtain ⟨column, direction⟩ := sort
    cases column with
    | ticker =>
        simp only [compareRows]
        rw [← direction.apply_swap, ← Std.OrientedOrd.eq_swap]
    | metric m =>
        simp only [compareRows]
        cases a.sortValue? m with
        | none => cases b.sortValue? m <;> rfl
        | some x =>
            cases b.sortValue? m with
            | none => rfl
            | some y =>
                simp only
                rw [← direction.apply_swap, ← Std.OrientedCmp.eq_swap]

/-- Comparing is transitive, so that it is a total preorder of the rows. -/
instance (sort : SortConfig) : Std.TransCmp sort.compareRows where
  isLE_trans := by
    intro a b c hab hbc
    rw [isLE_compareRows_iff] at hab hbc ⊢
    exact hab.trans hbc

theorem isLE_compareRows_total (sort : SortConfig) (a b : Stock) :
    ((sort.compareRows a b).isLE || (sort.compareRows b a).isLE) = true := by
  have hSwap : sort.compareRows b a = (sort.compareRows a b).swap := Std.OrientedCmp.eq_swap
  rw [hSwap]
  cases sort.compareRows a b <;> rfl

/-- Rows compare equal exactly if they have the same rank. -/
theorem compareRows_eq_iff (sort : SortConfig) (a b : Stock) :
    sort.compareRows a b = .eq ↔ sort.rank a = sort.rank b := by
  constructor
  · intro hEq
    have hBefore := (isLE_compareRows_iff sort a b).mp (Ordering.isLE_of_eq_eq hEq)
    have hAfter := (isLE_compareRows_iff sort b a).mp
      (Ordering.isLE_of_eq_eq (Std.OrientedCmp.eq_symm hEq))
    exact hBefore.antisymm hAfter
  · intro hRank
    have hSelf : Rank.Before sort.direction (sort.rank b) (sort.rank b) :=
      (isLE_compareRows_iff sort b b).mp Std.ReflCmp.isLE_rfl
    apply Std.OrientedCmp.isLE_antisymm
    · rwa [isLE_compareRows_iff, hRank]
    · rwa [isLE_compareRows_iff, hRank]

end SortConfig

end EquityScreen
