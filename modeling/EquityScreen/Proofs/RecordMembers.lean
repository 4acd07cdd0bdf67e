import EquityScreen.Proofs.JsonSkipping
import EquityScreen.Proofs.TableLayout
import Mathlib.Data.List.Nodup

/-! Records in JSON, by the names of their members. A record is read member by member into a draft.
Members of unknown names leave it as it is, and a known name may come up once. So what a record is
read as depends on the known members alone, wherever they stand, and the value of a metric decides
about that metric only. -/
namespace EquityScreen

open Json

/-- The members of an object in JSON. -/
abbrev Members := List (List Char × Tree)

namespace Stock

/-- The written forms of a record. -/
def RecordForm (r : Members) (text : List Char) : Prop :=
  EnclosedForm (fun member => MemberForm member.1 member.2.Form) '\x7b' '\x7d' r text

/-- The texts of a list of records, with white space anywhere. -/
inductive RecordsForm (records : List Members) : List Char → Prop
  | mk {before text after : List Char} (hBefore : AllBlank before)
      (hText : EnclosedForm RecordForm '[' ']' records text) (hAfter : AllBlank after) :
      RecordsForm records (before ++ (text ++ after))

/-- A record as it should be: no known name comes up twice, the ticker is a string, and the metrics
are within the limits of the reader. -/
structure IsRecord (r : Members) : Prop where
  once : ∀ c : Column, (r.map Prod.fst).count c.identifier.toList ≤ 1
  ticker : ∃ s, (Column.ticker.identifier.toList, .string s) ∈ r
  metric : ∀ (m : Metric) (t : Tree), (m.identifier.toList, t) ∈ r → t.Fits metricDepth

/-- The stock with the ticker of a record, and with the number that the member of each metric is, if
there is such a member and it is a number. -/
structure RecordGives (r : Members) (s : Stock) : Prop where
  ticker : (Column.ticker.identifier.toList, .string s.ticker.toList) ∈ r
  metric : ∀ m x, s.metric m = some x ↔
    ∃ l : Literal, (m.identifier.toList, .number l) ∈ r ∧ l.value = x

/-- The record lacks the ticker, has a ticker that is no string, or repeats a known name. -/
inductive IsBroken (r : Members) : Prop
  | lacksTicker (h : ∀ t, (Column.ticker.identifier.toList, t) ∉ r)
  | otherTicker (t : Tree) (h : (Column.ticker.identifier.toList, t) ∈ r)
      (hOther : t.string? = none)
  | repeats (c : Column) (h : 2 ≤ (r.map Prod.fst).count c.identifier.toList)

/-! The known members of a record. -/

/-- A member that has the name of a column. -/
abbrev KnownMember := Column × Tree

def known? (member : List Char × Tree) : Option KnownMember :=
  (Column.ofIdentifier? (String.ofList member.1)).map fun c => (c, member.2)

def knownMembers (r : Members) : List KnownMember := r.filterMap known?

theorem mem_knownMembers {r : Members} {c : Column} {t : Tree} :
    (c, t) ∈ knownMembers r ↔ (c.identifier.toList, t) ∈ r := by
  simp only [knownMembers, known?, List.mem_filterMap, Option.map_eq_some_iff, column?_eq_some_iff,
    Prod.exists, Prod.mk.injEq]
  constructor
  · rintro ⟨name, u, hMem, d, rfl, rfl, rfl⟩
    exact hMem
  · exact fun hMem => ⟨_, t, hMem, c, rfl, rfl, rfl⟩

theorem count_knownMembers (r : Members) (c : Column) :
    ((knownMembers r).map Prod.fst).count c = (r.map Prod.fst).count c.identifier.toList := by
  have hNames : (knownMembers r).map Prod.fst =
      (r.map Prod.fst).filterMap fun name => Column.ofIdentifier? (String.ofList name) := by
    rw [knownMembers, List.map_filterMap, List.filterMap_map]
    refine List.filterMap_congr fun member _ => ?_
    rw [known?, Option.map_map]
    exact Option.map_id'
  rw [hNames, List.count_filterMap, List.count]
  refine List.countP_congr fun name _ => ?_
  simp only [beq_iff_eq, column?_eq_some_iff]

/-! Drafts. -/

/-- The draft with one more known member, if it may be there. -/
def Draft.addKnown? (draft : Draft) : KnownMember → Option Draft
  | (.ticker, t) =>
    if draft.ticker.isSome then none
    else t.string?.map fun s => { draft with ticker := some (String.ofList s) }
  | (.metric m, t) =>
    if draft.metrics.any fun entry => entry.1 == m then none
    else (t.value? metricDepth).map fun v =>
      { draft with metrics := (m, v.number?) :: draft.metrics }

/-- The draft with one more member. -/
def Draft.add? (draft : Draft) (member : List Char × Tree) : Option Draft :=
  match known? member with
  | some member => draft.addKnown? member
  | none => some draft

/-- The stock that a record is read as. -/
def ofMembers? (r : Members) : Option Stock :=
  (r.foldlM Draft.add? Draft.empty).bind Draft.stock?

/-- A member is read into the draft, or refused, and nothing behind it is touched. -/
theorem toOption_readMember {t : Tree} {text : List Char} (h : t.Form text) (name : List Char)
    (draft : Draft) {blank gap : List Char} (hBlank : AllBlank blank) (hGap : AllBlank gap)
    {rest : List Char} (hRest : EndsNumber rest) :
    (readMember name draft (blank ++ ':' :: (gap ++ (text ++ rest)))).toOption =
      (draft.add? (name, t)).map fun draft => (draft, rest) := by
  have hSkip := h.skipValue hGap hRest
  obtain ⟨size, hText⟩ := h
  have hString := hText.toOption_string hGap "a string" rest
  have hValue := hText.toOption_value metricDepth hRest
  rw [← value_append hGap] at hValue
  have hAdd : draft.add? (name, t) =
      (Column.ofIdentifier? (String.ofList name)).elim (some draft) fun c =>
        draft.addKnown? (c, t) := by
    rw [Draft.add?, known?]
    cases Column.ofIdentifier? (String.ofList name) <;> rfl
  rw [hAdd, Column.ofIdentifier?]
  unfold readMember
  rw [colon_append hBlank]
  dsimp only
  split
  · change _ = (draft.addKnown? (.ticker, t)).map _
    by_cases hAgain : draft.ticker.isSome = true
    · rw [if_pos hAgain, Draft.addKnown?, if_pos hAgain]
      exact toOption_eq_none (errorAtClose_ne_ok _ _ _)
    · rw [if_neg hAgain, Draft.addKnown?, if_neg hAgain]
      change (Json.string "a string" _ >>= _).toOption = _
      rw [toOption_bind, hString]
      cases t.string? <;> rfl
  · cases Metric.ofIdentifier? (String.ofList name) with
    | none =>
        change (Json.skipValue _ >>= _).toOption = _
        rw [hSkip]
        rfl
    | some m =>
        dsimp only [Option.map_some, Option.elim_some]
        by_cases hAgain : (draft.metrics.any fun entry => entry.1 == m) = true
        · rw [if_pos hAgain, Draft.addKnown?, if_pos hAgain]
          exact toOption_eq_none (errorAtClose_ne_ok _ _ _)
        · rw [if_neg hAgain, Draft.addKnown?, if_neg hAgain]
          change (Json.value metricDepth _ >>= _).toOption = _
          rw [toOption_bind, hValue]
          cases t.value? metricDepth <;> rfl

/-! What a draft holds. -/

/-- What a column takes. -/
def Takes : KnownMember → Prop
  | (.ticker, t) => ∃ s, t = .string s
  | (.metric _, t) => t.Fits metricDepth

/-- No column comes up twice, and all of them take what they are given. -/
structure Sound (known : List KnownMember) : Prop where
  nodup : (known.map Prod.fst).Nodup
  takes : ∀ member ∈ known, Takes member

theorem sound_append {known : List KnownMember} {member : KnownMember} :
    Sound (known ++ [member]) ↔ Sound known ∧ member.1 ∉ known.map Prod.fst ∧ Takes member := by
  have hNodup : ((known ++ [member]).map Prod.fst).Nodup ↔
      (known.map Prod.fst).Nodup ∧ member.1 ∉ known.map Prod.fst := by
    rw [List.map_append, List.map_singleton, ← List.concat_eq_append, List.nodup_concat, and_comm]
  constructor
  · rintro ⟨hNames, hTakes⟩
    obtain ⟨hNames, hNew⟩ := hNodup.mp hNames
    obtain ⟨hKnown, hMember⟩ := List.forall_mem_append.mp hTakes
    exact ⟨⟨hNames, hKnown⟩, hNew, hMember member List.mem_cons_self⟩
  · rintro ⟨⟨hNames, hKnown⟩, hNew, hMember⟩
    refine ⟨hNodup.mpr ⟨hNames, hNew⟩, List.forall_mem_append.mpr ⟨hKnown, ?_⟩⟩
    exact List.forall_mem_singleton.mpr hMember

/-- The draft holds what the members say. -/
structure Draft.Holds (draft : Draft) (known : List KnownMember) : Prop where
  ticker : ∀ s, draft.ticker = some s ↔ (.ticker, .string s.toList) ∈ known
  nodup : (draft.metrics.map Prod.fst).Nodup
  metrics : ∀ m x, (m, x) ∈ draft.metrics ↔ ∃ t, (.metric m, t) ∈ known ∧ t.number? = x

theorem Draft.holds_empty : Draft.empty.Holds [] where
  ticker s := iff_of_false (Option.some_ne_none s).symm List.not_mem_nil
  nodup := List.nodup_nil
  metrics _ _ := iff_of_false List.not_mem_nil fun ⟨_, hMem, _⟩ => List.not_mem_nil hMem

namespace Draft.Holds

variable {draft : Draft} {known : List KnownMember} (h : draft.Holds known)
include h

theorem metric_mem_iff {m : Metric} :
    (draft.metrics.any fun entry => entry.1 == m) = true ↔ .metric m ∈ known.map Prod.fst := by
  simp only [List.any_eq_true, Prod.exists, beq_iff_eq, List.mem_map]
  constructor
  · rintro ⟨m, x, hEntry, rfl⟩
    obtain ⟨t, hMem, -⟩ := (h.metrics m x).mp hEntry
    exact ⟨_, t, hMem, rfl⟩
  · rintro ⟨_, t, hMem, rfl⟩
    exact ⟨m, t.number?, (h.metrics m _).mpr ⟨t, hMem, rfl⟩, rfl⟩

theorem ticker_mem_iff (hSound : Sound known) :
    draft.ticker.isSome = true ↔ .ticker ∈ known.map Prod.fst := by
  rw [Option.isSome_iff_exists]
  constructor
  · rintro ⟨s, hTicker⟩
    exact List.mem_map.mpr ⟨_, (h.ticker s).mp hTicker, rfl⟩
  · intro hColumn
    obtain ⟨⟨_, t⟩, hMem, rfl⟩ := List.mem_map.mp hColumn
    obtain ⟨s, rfl⟩ := hSound.takes _ hMem
    exact ⟨String.ofList s, (h.ticker _).mpr (by rwa [String.toList_ofList])⟩

/-- A member is taken into the draft exactly if its column is new and takes it. -/
theorem isSome_addKnown? (hSound : Sound known) (member : KnownMember) :
    (draft.addKnown? member).isSome = true ↔
      member.1 ∉ known.map Prod.fst ∧ Takes member := by
  obtain ⟨c, t⟩ := member
  cases c with
  | ticker =>
      rw [addKnown?, ← h.ticker_mem_iff hSound]
      have hString : t.string?.isSome = true ↔ Takes (.ticker, t) := by
        cases t <;> simp [Tree.string?, Takes]
      split
      · next hAgain => exact iff_of_false Bool.false_ne_true fun hNew => hNew.1 hAgain
      · next hNew => rw [Option.isSome_map, hString, and_iff_right hNew]
  | metric m =>
      rw [addKnown?, ← h.metric_mem_iff]
      split
      · next hAgain => exact iff_of_false Bool.false_ne_true fun hNew => hNew.1 hAgain
      · next hNew =>
          rw [Option.isSome_map, Tree.isSome_value?, and_iff_right hNew]
          rfl

omit h in
theorem mem_append_other {c d : Column} {t u : Tree} (hColumn : c ≠ d) :
    (c, t) ∈ known ++ [(d, u)] ↔ (c, t) ∈ known := by
  rw [List.mem_append, List.mem_singleton, Prod.mk.injEq]
  exact or_iff_left fun hSame => hColumn hSame.1

theorem addTicker (hNew : ¬draft.ticker.isSome = true) (s : List Char) :
    Holds { draft with ticker := some (String.ofList s) } (known ++ [(.ticker, .string s)]) where
  ticker ticker := by
    rw [List.mem_append, List.mem_singleton, Prod.mk.injEq, Tree.string.injEq, Option.some_inj]
    constructor
    · rintro rfl
      exact .inr ⟨rfl, String.toList_ofList⟩
    · rintro (hMem | ⟨-, rfl⟩)
      · exact absurd (Option.isSome_iff_exists.mpr ⟨_, (h.ticker ticker).mpr hMem⟩) hNew
      · exact String.ofList_toList
  nodup := h.nodup
  metrics m x := by
    simp only [mem_append_other (by simp : Column.metric m ≠ .ticker)]
    exact h.metrics m x

theorem addMetric {m : Metric} (hNew : ¬(draft.metrics.any fun entry => entry.1 == m) = true)
    (t : Tree) :
    Holds { draft with metrics := (m, t.number?) :: draft.metrics } (known ++ [(.metric m, t)])
    where
  ticker ticker := by
    rw [mem_append_other (by simp)]
    exact h.ticker ticker
  nodup := by
    refine List.nodup_cons.mpr ⟨fun hMem => hNew ?_, h.nodup⟩
    obtain ⟨entry, hEntry, hSame⟩ := List.mem_map.mp hMem
    exact List.any_eq_true.mpr ⟨entry, hEntry, beq_iff_eq.mpr hSame⟩
  metrics other x := by
    rw [List.mem_cons, Prod.mk.injEq, h.metrics]
    by_cases hSame : other = m
    · subst hSame
      have hAbsent (u : Tree) : (.metric other, u) ∉ known := fun hMem =>
        hNew (h.metric_mem_iff.mpr (List.mem_map.mpr ⟨_, hMem, rfl⟩))
      simp only [List.mem_append, hAbsent, false_and, exists_false, or_false, false_or,
        List.mem_singleton, Prod.mk.injEq, true_and, exists_eq_left]
      exact eq_comm
    · simp only [mem_append_other (by simpa using hSame : Column.metric other ≠ .metric m), hSame,
        false_and, false_or]

/-- And then the draft holds what the member says, too. -/
theorem addKnown? {member : KnownMember} {next : Draft}
    (hAdd : draft.addKnown? member = some next) : next.Holds (known ++ [member]) := by
  obtain ⟨c, t⟩ := member
  cases c with
  | ticker =>
      rw [Draft.addKnown?, Option.ite_none_left_eq_some, Option.map_eq_some_iff] at hAdd
      obtain ⟨hNew, s, hString, rfl⟩ := hAdd
      obtain rfl : t = .string s := by
        cases t <;> cases hString
        rfl
      exact h.addTicker hNew s
  | metric m =>
      rw [Draft.addKnown?, Option.ite_none_left_eq_some, Option.map_eq_some_iff] at hAdd
      obtain ⟨hNew, v, hValue, rfl⟩ := hAdd
      rw [Tree.number?_of_value? hValue]
      exact h.addMetric hNew t

end Draft.Holds

/-! What a record is read as. -/

theorem foldlM_append_singleton {σ τ : Type} (f : σ → τ → Option σ) (s : σ) (front : List τ)
    (a : τ) : (front ++ [a]).foldlM f s = (front.foldlM f s).bind fun s => f s a := by
  rw [List.foldlM_append]
  refine Option.bind_congr fun s _ => ?_
  rw [List.foldlM_cons]
  exact Option.bind_fun_some (f s a)

theorem foldlM_add? (r : Members) (draft : Draft) :
    r.foldlM Draft.add? draft = (knownMembers r).foldlM Draft.addKnown? draft := by
  rw [knownMembers, List.foldlM_filterMap]
  refine congrArg (fun step => List.foldlM step draft r) (funext₂ fun draft member => ?_)
  rw [Draft.add?]
  cases known? member <;> rfl

/-- Known members are taken together exactly if they are sound, and then the draft holds them. -/
theorem holds_of_foldlM {known : List KnownMember} {draft : Draft}
    (h : known.foldlM Draft.addKnown? Draft.empty = some draft) :
    Sound known ∧ draft.Holds known := by
  induction known using List.reverseRecOn generalizing draft with
  | nil =>
      cases h
      exact ⟨⟨List.nodup_nil, fun _ hMem => absurd hMem List.not_mem_nil⟩, Draft.holds_empty⟩
  | append_singleton known member ih =>
      rw [foldlM_append_singleton, Option.bind_eq_some_iff] at h
      obtain ⟨before, hBefore, hAdd⟩ := h
      obtain ⟨hSound, hHolds⟩ := ih hBefore
      have hTaken := (hHolds.isSome_addKnown? hSound member).mp
        (Option.isSome_iff_exists.mpr ⟨draft, hAdd⟩)
      exact ⟨sound_append.mpr ⟨hSound, hTaken⟩, hHolds.addKnown? hAdd⟩

theorem exists_foldlM {known : List KnownMember} (h : Sound known) :
    ∃ draft, known.foldlM Draft.addKnown? Draft.empty = some draft := by
  induction known using List.reverseRecOn with
  | nil => exact ⟨Draft.empty, rfl⟩
  | append_singleton known member ih =>
      obtain ⟨hSound, hTaken⟩ := sound_append.mp h
      obtain ⟨before, hBefore⟩ := ih hSound
      obtain ⟨draft, hAdd⟩ := Option.isSome_iff_exists.mp
        (((holds_of_foldlM hBefore).2.isSome_addKnown? hSound member).mpr hTaken)
      exact ⟨draft, by rw [foldlM_append_singleton, hBefore, Option.bind_some, hAdd]⟩

theorem metric_ofDraft_eq_some_iff {draft : Draft} (h : (draft.metrics.map Prod.fst).Nodup)
    (ticker : String) (m : Metric) (x : Binary64) :
    (ofDraft ticker draft).metric m = some x ↔ (m, some x) ∈ draft.metrics := by
  rw [metric_ofDraft, Option.bind_eq_some_iff]
  constructor
  · rintro ⟨⟨other, value⟩, hFirst, rfl⟩
    obtain rfl : other = m := beq_iff_eq.mp (List.find?_eq_some_iff_append.mp hFirst).1
    exact List.mem_of_find?_eq_some hFirst
  · intro hEntry
    have hSome : (draft.metrics.find? fun entry => entry.1 == m).isSome = true :=
      List.find?_isSome.mpr ⟨_, hEntry, BEq.rfl⟩
    obtain ⟨first, hFirst⟩ := Option.isSome_iff_exists.mp hSome
    have hMatch : (first.1 == m) = true := (List.find?_eq_some_iff_append.mp hFirst).1
    obtain rfl : first = (m, some x) := List.inj_on_of_nodup_map h
      (List.mem_of_find?_eq_some hFirst) hEntry (beq_iff_eq.mp hMatch)
    exact ⟨_, hFirst, rfl⟩

theorem number?_eq_some_iff {t : Tree} {x : Binary64} :
    t.number? = some x ↔ ∃ l, t = .number l ∧ l.value = x := by
  cases t <;> simp [Tree.number?]

namespace IsRecord

variable {r : Members} (h : IsRecord r)
include h

theorem nodup : ((knownMembers r).map Prod.fst).Nodup :=
  List.nodup_iff_count_le_one.mpr fun c => (count_knownMembers r c).trans_le (h.once c)

/-- There is one member of a known name. -/
theorem unique {c : Column} {t u : Tree} (ht : (c.identifier.toList, t) ∈ r)
    (hu : (c.identifier.toList, u) ∈ r) : t = u :=
  (Prod.mk.inj (List.inj_on_of_nodup_map h.nodup (mem_knownMembers.mpr ht)
    (mem_knownMembers.mpr hu) rfl)).2

theorem sound : Sound (knownMembers r) where
  nodup := h.nodup
  takes := by
    rintro ⟨c, t⟩ hMem
    cases c with
    | ticker =>
        obtain ⟨s, hTicker⟩ := h.ticker
        exact ⟨s, h.unique (mem_knownMembers.mp hMem) hTicker⟩
    | metric m => exact h.metric m t (mem_knownMembers.mp hMem)

theorem recordGives_unique {s t : Stock} (hs : RecordGives r s) (ht : RecordGives r t) : s = t := by
  refine Stock.ext ?_ fun m => Option.ext fun x => (hs.metric m x).trans (ht.metric m x).symm
  have hTicker := h.unique hs.ticker ht.ticker
  exact String.toList_injective (Tree.string.inj hTicker)

end IsRecord

/-- What is read from a record is the stock that it gives. -/
theorem of_ofMembers? {r : Members} {s : Stock} (h : ofMembers? r = some s) :
    IsRecord r ∧ RecordGives r s := by
  obtain ⟨draft, hDraft, hStock⟩ := Option.bind_eq_some_iff.mp h
  obtain ⟨ticker, hTicker, rfl⟩ := Option.map_eq_some_iff.mp hStock
  rw [foldlM_add?] at hDraft
  obtain ⟨hSound, hHolds⟩ := holds_of_foldlM hDraft
  have hMember := mem_knownMembers.mp ((hHolds.ticker ticker).mp hTicker)
  refine ⟨⟨fun c => ?_, ⟨_, hMember⟩, fun m t hMem => ?_⟩, ⟨?_, fun m x => ?_⟩⟩
  · rw [← count_knownMembers]
    exact List.nodup_iff_count_le_one.mp hSound.nodup c
  · exact hSound.takes (.metric m, t) (mem_knownMembers.mpr hMem)
  · rwa [ticker_ofDraft]
  · rw [metric_ofDraft_eq_some_iff hHolds.nodup, hHolds.metrics]
    simp only [mem_knownMembers, number?_eq_some_iff]
    constructor
    · rintro ⟨_, hMem, l, rfl, hValue⟩
      exact ⟨l, hMem, hValue⟩
    · rintro ⟨l, hMem, hValue⟩
      exact ⟨_, hMem, l, rfl, hValue⟩

theorem IsRecord.exists_ofMembers? {r : Members} (h : IsRecord r) : ∃ s, ofMembers? r = some s := by
  obtain ⟨draft, hDraft⟩ := exists_foldlM h.sound
  obtain ⟨ticker, hMember⟩ := h.ticker
  have hTicker := ((holds_of_foldlM hDraft).2.ticker (String.ofList ticker)).mpr
    (by rwa [String.toList_ofList, mem_knownMembers])
  refine ⟨ofDraft (String.ofList ticker) draft, ?_⟩
  rw [ofMembers?, foldlM_add?, hDraft, Option.bind_some, Draft.stock?, hTicker]
  rfl

/-- And nothing is read unless the record is as it should be. -/
theorem ofMembers?_eq_some_iff {r : Members} {s : Stock} :
    ofMembers? r = some s ↔ IsRecord r ∧ RecordGives r s := by
  refine ⟨of_ofMembers?, fun ⟨hRecord, hGives⟩ => ?_⟩
  obtain ⟨t, hRead⟩ := hRecord.exists_ofMembers?
  rw [hRead, hRecord.recordGives_unique hGives (of_ofMembers? hRead).2]

theorem IsBroken.ofMembers?_eq_none {r : Members} (h : IsBroken r) : ofMembers? r = none := by
  refine Option.eq_none_iff_forall_ne_some.mpr fun s hRead => ?_
  obtain ⟨hRecord, hGives⟩ := ofMembers?_eq_some_iff.mp hRead
  cases h with
  | lacksTicker h => exact h _ hGives.ticker
  | otherTicker t h hOther =>
      rw [hRecord.unique h hGives.ticker] at hOther
      cases hOther
  | repeats c h => exact absurd (hRecord.once c) (Nat.not_le_of_lt h)

section Perm

variable {r other : Members} (hPerm : (knownMembers r).Perm (knownMembers other))
include hPerm

theorem mem_iff_of_perm {c : Column} {t : Tree} :
    (c.identifier.toList, t) ∈ r ↔ (c.identifier.toList, t) ∈ other := by
  rw [← mem_knownMembers, ← mem_knownMembers, hPerm.mem_iff]

theorem IsRecord.of_perm (h : IsRecord r) : IsRecord other where
  once c := by
    rw [← count_knownMembers, ← (hPerm.map Prod.fst).count_eq, count_knownMembers]
    exact h.once c
  ticker := h.ticker.imp fun _ => (mem_iff_of_perm hPerm).mp
  metric m t hMem := h.metric m t (mem_iff_of_perm hPerm (c := .metric m) |>.mpr hMem)

theorem RecordGives.of_perm {s : Stock} (h : RecordGives r s) : RecordGives other s where
  ticker := (mem_iff_of_perm hPerm).mp h.ticker
  metric m x := (h.metric m x).trans
    (exists_congr fun _ => and_congr_left' (mem_iff_of_perm hPerm (c := .metric m)))

theorem ofMembers?_perm : ofMembers? r = ofMembers? other := by
  refine Option.ext fun s => ?_
  rw [ofMembers?_eq_some_iff, ofMembers?_eq_some_iff]
  exact and_congr ⟨.of_perm hPerm, .of_perm hPerm.symm⟩ ⟨.of_perm hPerm, .of_perm hPerm.symm⟩

end Perm

/-- The same known members in any order, and any members of other names. -/
def Rearranged (r other : Members) : Prop :=
  ∃ extra : Members, (∀ member ∈ extra, ∀ c : Column, member.1 ≠ c.identifier.toList) ∧
    other.Perm (r ++ extra)

theorem Rearranged.knownMembers_perm {r other : Members} (h : Rearranged r other) :
    (knownMembers other).Perm (knownMembers r) := by
  obtain ⟨extra, hUnknown, hPerm⟩ := h
  have hNone : knownMembers extra = [] := by
    rw [knownMembers, List.filterMap_eq_nil_iff]
    intro member hMem
    rw [known?, Option.map_eq_none_iff, Option.eq_none_iff_forall_ne_some]
    exact fun c hColumn => hUnknown member hMem c (column?_eq_some_iff.mp hColumn)
  have hKnown := hPerm.filterMap known?
  rw [List.filterMap_append] at hKnown
  change (knownMembers other).Perm (knownMembers r ++ knownMembers extra) at hKnown
  rwa [hNone, List.append_nil] at hKnown

/-- A new value for one metric changes that metric and nothing else. -/
theorem ofMembers?_replace {front back : Members} {m : Metric} {t u : Tree} {s : Stock}
    (h : ofMembers? (front ++ (m.identifier.toList, t) :: back) = some s)
    (hFits : u.Fits metricDepth) :
    ofMembers? (front ++ (m.identifier.toList, u) :: back) = some (s.setMetric m u.number?) := by
  obtain ⟨hRecord, hGives⟩ := ofMembers?_eq_some_iff.mp h
  have hOther {c : Column} (hColumn : c ≠ .metric m) {v : Tree} :
      (c.identifier.toList, v) ∈ front ++ (m.identifier.toList, t) :: back ↔
        (c.identifier.toList, v) ∈ front ++ (m.identifier.toList, u) :: back := by
    have hName : c.identifier.toList ≠ m.identifier.toList := fun hName =>
      hColumn (identifier_injective hName)
    simp only [List.mem_append, List.mem_cons, Prod.mk.injEq, hName, false_and, false_or]
  have hNew : IsRecord (front ++ (m.identifier.toList, u) :: back) := by
    refine ⟨fun c => ?_, hRecord.ticker.imp fun _ => (hOther (by simp)).mp, fun n v hMem => ?_⟩
    · have hOnce := hRecord.once c
      rwa [List.map_append, List.map_cons] at hOnce ⊢
    · rcases List.mem_append.mp hMem with hFront | hMem
      · exact hRecord.metric n v (List.mem_append_left _ hFront)
      · rcases List.mem_cons.mp hMem with hHere | hBack
        · exact (Prod.mk.inj hHere).2 ▸ hFits
        · exact hRecord.metric n v (List.mem_append_right _ (List.mem_cons_of_mem _ hBack))
  refine ofMembers?_eq_some_iff.mpr ⟨hNew, (hOther (by simp)).mp hGives.ticker, fun n x => ?_⟩
  rw [metric_setMetric]
  by_cases hSame : n = m
  · subst hSame
    have hHere : (n.identifier.toList, u) ∈ front ++ (n.identifier.toList, u) :: back :=
      List.mem_append_cons_self
    rw [if_pos rfl, number?_eq_some_iff]
    refine exists_congr fun l => and_congr_left' ⟨?_, fun hMem => ?_⟩
    · rintro rfl
      exact hHere
    · exact hNew.unique (c := .metric n) hHere hMem
  · rw [if_neg hSame, hGives.metric]
    refine exists_congr fun l => and_congr_left' ?_
    exact hOther (c := .metric n) (by simpa using hSame)

/-! Lists of records. -/

/-- A record is read from all of its written forms, whatever follows. -/
theorem RecordForm.toOption_readJson {r : Members} {text : List Char} (h : RecordForm r text)
    (rest : List Char) :
    (readJson (text ++ rest)).toOption = (ofMembers? r).map fun s => (s, rest) := by
  refine readJson_members (fun front => front.foldlM Draft.add? Draft.empty) h rfl ?_ rest
  intro front member back _ blank gap text hBlank hGap hText rest hRest
  rw [foldlM_append_singleton, Option.map_bind]
  exact Option.bind_congr fun draft _ => toOption_readMember hText _ draft hBlank hGap hRest

/-- A list of records is read from all of its texts. -/
theorem RecordsForm.toOption_stocksOfJson {records : List Members} {text : List Char}
    (h : RecordsForm records text) :
    (stocksOfJson text).toOption = records.mapM ofMembers? := by
  obtain ⟨hBefore, hText, hAfter⟩ := h
  have hRead := listOfJson_elements ofMembers? hText
    (fun _ _ hRecord => EnclosedForm.exists_cons hRecord)
    (fun _ _ _ hRecord rest => RecordForm.toOption_readJson hRecord rest) hBefore hAfter
  rw [← hRead, stocksOfJson]
  split <;> simp_all [Except.toOption]

theorem exists_dataFormat {text : List Char} (h : (stocksOfJson text).toOption = none) :
    ∃ reason, stocksOfJson text = .error (.dataFormat reason) := by
  unfold stocksOfJson at h ⊢
  cases hList : listOfJson text with
  | ok stocks =>
      rw [hList] at h
      cases h
  | error e => exact ⟨_, rfl⟩

/-- The text of a list of records without white space. -/
def recordsText (depth : Nat) (records : List Members) : List Char :=
  enclosedText '[' ']' (records.map fun r => enclosedText '\x7b' '\x7d' (r.map fun member =>
    memberText (String.ofList member.1) (member.2.text depth)))

/-- Every list of records has a text. -/
theorem recordsForm_recordsText (depth : Nat) {records : List Members}
    (h : ∀ r ∈ records, ∀ member ∈ r, member.2.Fits depth) :
    RecordsForm records (recordsText depth records) := by
  have hRecords : EnclosedForm RecordForm '[' ']' records (recordsText depth records) := by
    refine enclosedForm_text (fun r hr => enclosedForm_text (fun member hMember => ?_) _ _) _ _
    have hText : MemberForm (String.ofList member.1).toList member.2.Form
        (memberText (String.ofList member.1) (member.2.text depth)) :=
      memberForm_text ⟨depth, Tree.formWithin_text (h r hr member hMember)⟩
    rwa [String.toList_ofList] at hText
  have hForm := RecordsForm.mk allBlank_nil hRecords allBlank_nil
  rwa [List.append_nil] at hForm

section Lists

variable {α β : Type} {f : α → Option β}

theorem forall₂_of_mapM {items : List α} {results : List β} (h : items.mapM f = some results) :
    List.Forall₂ (fun a b => f a = some b) items results := by
  induction items generalizing results with
  | nil =>
      cases h
      exact .nil
  | cons a items ih =>
      rw [List.mapM_cons] at h
      obtain ⟨b, hHere, h⟩ := Option.bind_eq_some_iff.mp h
      obtain ⟨later, hLater, h⟩ := Option.bind_eq_some_iff.mp h
      cases h
      exact .cons hHere (ih hLater)

theorem mapM_congr {items others : List α} (h : List.Forall₂ (fun a b => f a = f b) items others) :
    items.mapM f = others.mapM f := by
  induction h with
  | nil => rfl
  | cons hHere _ ih => rw [List.mapM_cons, List.mapM_cons, hHere, ih]

/-- The results for a list, and those for the list with another element in one place. -/
theorem exists_mapM_replace {front back : List α} {a : α} {results : List β}
    (h : (front ++ a :: back).mapM f = some results) :
    ∃ before b after, before.length = front.length ∧ results = before ++ b :: after ∧
      f a = some b ∧ ∀ a' b', f a' = some b' →
        (front ++ a' :: back).mapM f = some (before ++ b' :: after) := by
  rw [List.mapM_append] at h
  obtain ⟨before, hFront, h⟩ := Option.bind_eq_some_iff.mp h
  rw [List.mapM_cons] at h
  obtain ⟨rest, h, hResults⟩ := Option.bind_eq_some_iff.mp h
  obtain ⟨b, hHere, h⟩ := Option.bind_eq_some_iff.mp h
  obtain ⟨after, hBack, h⟩ := Option.bind_eq_some_iff.mp h
  cases h
  cases hResults
  refine ⟨before, b, after, (forall₂_of_mapM hFront).length_eq.symm, rfl, hHere,
    fun a' b' hOther => ?_⟩
  rw [List.mapM_append, List.mapM_cons, hFront, hOther, hBack]
  rfl

end Lists

/-- The number that is written `1e3`. -/
def thousand : Literal where
  negative := false
  whole := ['1']
  fraction := none
  exponent := some ⟨false, .unsigned, ['3'], by decide, List.all_eq_true.mp rfl⟩
  whole_ne_nil := by decide
  isDigit_whole := List.all_eq_true.mp rfl
  lead_whole := .inl (by decide)
  fraction_ne_nil := nofun
  isDigit_fraction := nofun

end Stock

end EquityScreen
