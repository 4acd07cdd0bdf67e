import EquityScreen.Stock.Json
import EquityScreen.Proofs.RoundingRange

/-! Numbers that come from JSON. The reader refuses a number past the finite doubles, so that
every metric of a stock in JSON is a finite double or absent, however the stock is written. -/
namespace EquityScreen

theorem bind_eq_ok {ε α β : Type} {x : Except ε α} {f : α → Except ε β} {b : β} :
    x >>= f = .ok b ↔ ∃ a, x = .ok a ∧ f a = .ok b := by
  cases x <;> simp [bind, Except.bind]

namespace Json

/-! What every step of a loop keeps, the loop keeps. -/

section Loops

variable {σ : Type} {P : σ → Prop}

theorem elementsFrom_keeps {step : σ → Reader σ}
    (hStep : ∀ a cs b rest, P a → step a cs = .ok (b, rest) → P b) {n : Nat} {isFirst : Bool}
    {a b : σ} {cs rest : List Char} (h : P a)
    (hRead : elementsFrom step n isFirst a cs = .ok (b, rest)) : P b := by
  induction n generalizing isFirst a cs with
  | zero => cases hRead
  | succ n ih =>
      rw [elementsFrom, bind_eq_ok] at hRead
      obtain ⟨next, -, hRead⟩ := hRead
      cases next with
      | none =>
          obtain ⟨after, -, hRead⟩ := bind_eq_ok.mp hRead
          cases hRead
          exact h
      | some element =>
          obtain ⟨⟨c, after⟩, hElement, hRead⟩ := bind_eq_ok.mp hRead
          exact ih (hStep a element c after h hElement) hRead

theorem membersFrom_keeps {step : List Char → σ → Reader σ}
    (hStep : ∀ name a cs b rest, P a → step name a cs = .ok (b, rest) → P b) {n : Nat}
    {isFirst : Bool} {a b : σ} {cs rest : List Char} (h : P a)
    (hRead : membersFrom step n isFirst a cs = .ok (b, rest)) : P b := by
  induction n generalizing isFirst a cs with
  | zero => cases hRead
  | succ n ih =>
      rw [membersFrom, bind_eq_ok] at hRead
      obtain ⟨next, -, hRead⟩ := hRead
      cases next with
      | none =>
          cases hRead
          exact h
      | some member =>
          obtain ⟨⟨name, value⟩, -, hRead⟩ := bind_eq_ok.mp hRead
          obtain ⟨⟨c, after⟩, hMember, hRead⟩ := bind_eq_ok.mp hRead
          exact ih (hStep name a value c after h hMember) hRead

end Loops

theorem errorAtClose_ne_ok {α : Type} (fault : Fault) (close : Char) (cs : List Char)
    (r : α) : errorAtClose fault close cs ≠ .ok r := by
  intro h
  unfold errorAtClose at h
  split at h
  · cases h
  · split at h <;> cases h

theorem wrongType_ne_ok {α : Type} (expected : String) (cs : List Char) (r : α) :
    wrongType expected cs ≠ .ok r := by
  intro h
  unfold wrongType at h
  dsimp only at h
  split at h
  case h_1 | h_2 | h_3 | h_4 =>
    obtain ⟨_, _, h⟩ := bind_eq_ok.mp h
    cases h
  case h_5 | h_6 | h_8 => cases h
  case h_7 =>
    split at h
    · obtain ⟨_, _, h⟩ := bind_eq_ok.mp h
      cases h
    · cases h

/-- Whole numbers are kept only if they fit 64 bits, and other numbers only if they are in
the range of finite doubles. -/
theorem isFinite_of_numberOfParts {negative : Bool} {whole : List Char}
    {fraction : Option (List Char)} {exponent : Option Int} {cs rest : List Char} {n : Number}
    (h : numberOfParts negative whole fraction exponent cs = .ok (n, rest)) :
    n.toBinary64.isFinite = true := by
  unfold numberOfParts at h
  split at h
  · next k hWhole =>
      cases h
      unfold wholeNumber? at hWhole
      have hWord : k.natAbs < 2 ^ 64 := by
        dsimp only at hWhole
        split at hWhole
        · rw [Option.ite_none_right_eq_some] at hWhole
          obtain ⟨hBounds, hValue⟩ := hWhole
          cases hValue
          omega
        · rw [Option.ite_none_right_eq_some] at hWhole
          obtain ⟨hBound, hValue⟩ := hWhole
          cases hValue
          omega
      exact Decimal.isFinite_of_whole hWord _
  · dsimp only at h
    split at h
    · next hFinite =>
        cases h
        exact hFinite
    · cases h

theorem isFinite_of_number {cs rest : List Char} {n : Number} (h : number cs = .ok (n, rest)) :
    n.toBinary64.isFinite = true := by
  unfold number at h
  split at h
  simp only [bind_eq_ok] at h
  obtain ⟨_, _, _, _, _, _, h⟩ := h
  exact isFinite_of_numberOfParts h

/-- A value that is a number is a finite one. -/
theorem isFinite_of_value {depth : Nat} {cs rest : List Char} {v : Value}
    (h : value depth cs = .ok (v, rest)) : ∀ x ∈ v.number?, x.isFinite = true := by
  have hNone {w : Value} {cs : List Char} (hw : w.number? = none)
      (hValue : (w, cs) = (v, rest)) : ∀ x ∈ v.number?, x.isFinite = true := by
    obtain ⟨rfl, -⟩ := Prod.mk.inj hValue
    rw [hw]
    exact fun _ hx => absurd hx (Option.not_mem_none _)
  unfold value at h
  split at h
  case h_1 => cases h
  case h_2 | h_3 | h_4 | h_5 =>
    obtain ⟨_, _, h⟩ := bind_eq_ok.mp h
    exact hNone rfl (Except.ok.inj h)
  · split at h
    · cases h
    · obtain ⟨_, _, h⟩ := bind_eq_ok.mp h
      exact hNone rfl (Except.ok.inj h)
  · split at h
    · cases h
    · obtain ⟨_, _, h⟩ := bind_eq_ok.mp h
      obtain ⟨_, _, h⟩ := bind_eq_ok.mp h
      exact hNone rfl (Except.ok.inj h)
  · split at h
    · obtain ⟨⟨n, after⟩, hNumber, h⟩ := bind_eq_ok.mp h
      cases h
      rintro x ⟨⟩
      exact isFinite_of_number hNumber
    · cases h

end Json

namespace Stock

/-- Every metric of the stock is a finite double or absent. -/
def AllFinite (s : Stock) : Prop := ∀ m, ∀ x ∈ s.metric m, x.isFinite = true

theorem allFinite_ofTicker (ticker : String) : (ofTicker ticker).AllFinite :=
  fun _ _ hx => absurd hx (Option.not_mem_none _)

theorem AllFinite.setMetric {s : Stock} (h : s.AllFinite) (m : Metric) {value : Option Binary64}
    (hValue : ∀ x ∈ value, x.isFinite = true) : (s.setMetric m value).AllFinite := by
  intro other x hx
  rw [metric_setMetric] at hx
  split at hx
  · exact hValue x hx
  · exact h other x hx

/-! From one member or element of a record to the whole list. -/

/-- Every number in the draft is finite. -/
def Draft.AllFinite (draft : Draft) : Prop :=
  ∀ entry ∈ draft.metrics, ∀ x ∈ entry.2, x.isFinite = true

theorem Draft.AllFinite.readMember {name cs rest : List Char} {draft after : Draft}
    (h : draft.AllFinite) (hRead : Stock.readMember name draft cs = .ok (after, rest)) :
    after.AllFinite := by
  unfold Stock.readMember at hRead
  dsimp only at hRead
  split at hRead
  · split at hRead
    · exact absurd hRead (Json.errorAtClose_ne_ok _ _ _ _)
    · simp only [bind_eq_ok] at hRead
      obtain ⟨_, _, _, _, hRead⟩ := hRead
      cases hRead
      exact h
  · split at hRead
    · split at hRead
      · exact absurd hRead (Json.errorAtClose_ne_ok _ _ _ _)
      · simp only [bind_eq_ok] at hRead
        obtain ⟨_, _, ⟨v, _⟩, hValue, hRead⟩ := hRead
        cases hRead
        exact List.forall_mem_cons.mpr ⟨Json.isFinite_of_value hValue, h⟩
    · simp only [bind_eq_ok] at hRead
      obtain ⟨_, _, _, _, hRead⟩ := hRead
      cases hRead
      exact h

theorem Draft.AllFinite.ofDraft {draft : Draft} (h : draft.AllFinite) (ticker : String) :
    (Stock.ofDraft ticker draft).AllFinite := by
  obtain ⟨other, metrics⟩ := draft
  unfold Stock.ofDraft
  induction metrics with
  | nil => exact allFinite_ofTicker ticker
  | cons entry metrics ih =>
      obtain ⟨hEntry, hMetrics⟩ := List.forall_mem_cons.mp h
      exact (ih hMetrics).setMetric entry.1 hEntry

theorem allFinite_readObject {cs rest : List Char} {s : Stock}
    (h : readObject cs = .ok (s, rest)) : s.AllFinite := by
  unfold readObject at h
  obtain ⟨⟨draft, after⟩, hMembers, h⟩ := bind_eq_ok.mp h
  have hDraft : draft.AllFinite :=
    Json.membersFrom_keeps (P := Draft.AllFinite)
      (fun name a cs b rest hBefore hRead => hBefore.readMember hRead)
      (fun _ hEntry => absurd hEntry List.not_mem_nil) hMembers
  dsimp only at h
  split at h
  · exact absurd h (Json.errorAtClose_ne_ok _ _ _ _)
  · obtain ⟨_, _, h⟩ := bind_eq_ok.mp h
    cases h
    exact hDraft.ofDraft _

theorem AllFinite.readElement {s t : Stock} {m : Metric} {cs rest : List Char} (h : s.AllFinite)
    (hRead : Stock.readElement s m cs = .ok (t, rest)) : t.AllFinite := by
  unfold Stock.readElement at hRead
  obtain ⟨next, _, hRead⟩ := bind_eq_ok.mp hRead
  cases next with
  | none =>
      cases hRead
      exact h
  | some element =>
      obtain ⟨⟨v, _⟩, hValue, hRead⟩ := bind_eq_ok.mp hRead
      cases hRead
      exact h.setMetric m (Json.isFinite_of_value hValue)

theorem AllFinite.readElements {metrics : List Metric} {s t : Stock} {cs rest : List Char}
    (h : s.AllFinite)
    (hRead : metrics.foldlM (fun (s, rest) m => Stock.readElement s m rest) (s, cs) =
      .ok (t, rest)) : t.AllFinite := by
  induction metrics generalizing s cs with
  | nil =>
      cases hRead
      exact h
  | cons m metrics ih =>
      rw [List.foldlM_cons, bind_eq_ok] at hRead
      obtain ⟨⟨next, after⟩, hElement, hRead⟩ := hRead
      exact ih (h.readElement hElement) hRead

theorem allFinite_readArray {cs rest : List Char} {s : Stock}
    (h : readArray cs = .ok (s, rest)) : s.AllFinite := by
  unfold readArray at h
  obtain ⟨next, _, h⟩ := bind_eq_ok.mp h
  cases next with
  | none => exact absurd h (Json.errorAtClose_ne_ok _ _ _ _)
  | some first =>
      obtain ⟨⟨ticker, _⟩, _, h⟩ := bind_eq_ok.mp h
      obtain ⟨⟨t, _⟩, hElements, h⟩ := bind_eq_ok.mp h
      obtain ⟨_, _, h⟩ := bind_eq_ok.mp h
      cases h
      exact (allFinite_ofTicker _).readElements hElements

theorem allFinite_readJson {cs rest : List Char} {s : Stock} (h : readJson cs = .ok (s, rest)) :
    s.AllFinite := by
  unfold readJson at h
  split at h
  · cases h
  · exact allFinite_readObject h
  · exact allFinite_readArray h
  · exact absurd h (Json.wrongType_ne_ok _ _ _)

/-- The metrics that a JSON text gives are finite doubles or absent. -/
theorem allFinite_listOfJson {text : List Char} {stocks : List Stock}
    (h : listOfJson text = .ok stocks) : ∀ s ∈ stocks, s.AllFinite := by
  obtain ⟨⟨read, rest⟩, hList, h⟩ := bind_eq_ok.mp h
  dsimp only at h
  split at h
  case h_2 => cases h
  cases h
  unfold readList at hList
  split at hList
  · cases hList
  · obtain ⟨⟨reversed, _⟩, hElements, hList⟩ := bind_eq_ok.mp hList
    cases hList
    have hStep : ∀ before cs after rest, (∀ s ∈ before, AllFinite s) →
        (readJson cs >>= fun (s, rest) => .ok (s :: before, rest)) =
          (.ok (after, rest) : Except Json.Error (List Stock × List Char)) →
        ∀ s ∈ after, AllFinite s := by
      intro before cs after rest hBefore hRead
      obtain ⟨⟨s, _⟩, hStock, hRead⟩ := bind_eq_ok.mp hRead
      cases hRead
      exact List.forall_mem_cons.mpr ⟨allFinite_readJson hStock, hBefore⟩
    have hAll := Json.elementsFrom_keeps (P := fun before => ∀ s ∈ before, AllFinite s) hStep
      (fun _ hs => absurd hs List.not_mem_nil) hElements
    exact fun s hs => hAll s (List.mem_reverse.mp hs)
  · exact absurd hList (Json.wrongType_ne_ok _ _ _)

end Stock

end EquityScreen
