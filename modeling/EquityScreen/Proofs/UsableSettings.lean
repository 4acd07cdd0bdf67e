import EquityScreen.Config.Settings
import EquityScreen.Proofs.Paging
import EquityScreen.Proofs.Shells

/-! Settings from a configuration. Checking a configuration and reading it are two passes
over the same texts; they agree because the values of a configuration are trimmed when it
is read. So a check that passes leaves nothing to fail, and no default takes the place of
a value that is written. -/
namespace EquityScreen

/-- The written forms of a whole number: digits, with or without a sign. -/
inductive IntegerText : List Char → Int → Prop
  | unsigned {digits : List Char} (hSome : digits ≠ [])
      (hDigits : ∀ c ∈ digits, c.isDigit = true) : IntegerText digits (Decimal.digitsValue digits)
  | plus {digits : List Char} (hSome : digits ≠ []) (hDigits : ∀ c ∈ digits, c.isDigit = true) :
      IntegerText ('+' :: digits) (Decimal.digitsValue digits)
  | minus {digits : List Char} (hSome : digits ≠ []) (hDigits : ∀ c ∈ digits, c.isDigit = true) :
      IntegerText ('-' :: digits) (-(Decimal.digitsValue digits : Int))

theorem IntegerText.of_splitSign {cs : List Char} (hSome : (splitSign cs).2 ≠ [])
    (hDigits : ∀ c ∈ (splitSign cs).2, c.isDigit = true) :
    IntegerText cs (if (splitSign cs).1 then -(Decimal.digitsValue (splitSign cs).2 : Int)
      else Decimal.digitsValue (splitSign cs).2) := by
  revert hSome hDigits
  unfold splitSign
  split <;> intro hSome hDigits
  · exact .minus hSome hDigits
  · exact .plus hSome hDigits
  · exact .unsigned hSome hDigits

theorem boundedInt?_of_splitSign {low high : Int} {cs digits : List Char} {negative : Bool}
    (hSign : splitSign cs = (negative, digits)) (hSome : digits ≠ [])
    (hDigits : ∀ c ∈ digits, c.isDigit = true) :
    boundedInt? low high cs =
      let n : Int := if negative then -(Decimal.digitsValue digits : Int)
        else Decimal.digitsValue digits
      if low ≤ n ∧ n ≤ high then some n else none := by
  have hEmpty : digits.isEmpty = false := List.isEmpty_eq_false_iff.mpr hSome
  have hAll : digits.all Char.isDigit = true := List.all_eq_true.mpr hDigits
  rw [boundedInt?, hSign]
  simp only [hEmpty, hAll, Bool.not_true, Bool.false_eq_true, or_self, if_false]

/-- Exactly the whole numbers between the bounds are read. -/
theorem boundedInt?_eq_some_iff {low high n : Int} {cs : List Char} :
    boundedInt? low high cs = some n ↔ IntegerText cs n ∧ low ≤ n ∧ n ≤ high := by
  constructor
  · intro h
    refine ⟨?_, boundedInt?_bounds h⟩
    simp only [boundedInt?, Option.ite_none_left_eq_some, Option.ite_none_right_eq_some,
      Option.some.injEq, not_or, List.isEmpty_iff, Bool.not_eq_true', Bool.not_eq_false,
      List.all_eq_true] at h
    obtain ⟨⟨hSome, hDigits⟩, -, rfl⟩ := h
    exact .of_splitSign hSome hDigits
  · rintro ⟨hText, hBounds⟩
    cases hText with
    | unsigned hSome hDigits =>
        rw [boundedInt?_of_splitSign (splitSign_of_digits hDigits) hSome hDigits]
        exact if_pos hBounds
    | @plus digits hSome hDigits =>
        have hSign : splitSign ('+' :: digits) = (false, digits) := rfl
        rw [boundedInt?_of_splitSign hSign hSome hDigits]
        exact if_pos hBounds
    | @minus digits hSome hDigits =>
        have hSign : splitSign ('-' :: digits) = (true, digits) := rfl
        rw [boundedInt?_of_splitSign hSign hSome hDigits]
        exact if_pos hBounds

namespace Config

/-! Every value of a configuration is stored trimmed. -/

theorem trim_value_of_parseLine {line key value : List Char}
    (h : parseLine line = .ok (.entry key (some value))) : Text.trim value = value := by
  unfold parseLine at h
  dsimp only at h
  split at h
  · cases h
  · split at h <;> cases h
  · split at h
    · cases h
    · split at h
      · cases h
      · cases h
        exact Text.trim_trim _

theorem trim_value_of_parseLines {name : List Char} {entries ini : Ini} {number : Nat}
    {lines : List (List Char)} (h : parseLines name entries number lines = .ok ini)
    (hBefore : ∀ e ∈ entries, ∀ value ∈ e.value, Text.trim value = value) :
    ∀ e ∈ ini, ∀ value ∈ e.value, Text.trim value = value := by
  induction lines generalizing name entries number with
  | nil =>
      cases h
      exact hBefore
  | cons line lines ih =>
      rw [parseLines] at h
      split at h
      · cases h
      · exact ih h hBefore
      · exact ih h hBefore
      · next key value hLine =>
          refine ih h (List.forall_mem_cons.mpr ⟨fun written hWritten => ?_, hBefore⟩)
          cases hWritten
          exact trim_value_of_parseLine hLine

theorem Ini.trim_get? {text : List Char} {ini : Ini} (hText : Ini.parse text = .ok ini)
    {sectionName key value : String} (h : ini.get? sectionName key = some value) :
    Text.trimString value = value := by
  have hTrimmed := trim_value_of_parseLines hText fun e he => absurd he List.not_mem_nil
  unfold get? at h
  dsimp only at h
  split at h
  · next e hFind =>
      obtain ⟨written, hWritten, rfl⟩ := Option.map_eq_some_iff.mp h
      rw [Text.trimString, String.toList_ofList,
        hTrimmed e (List.mem_of_find?_eq_some hFind) written hWritten]
  · cases h

/-- Every key that is present has a value that can be used: a path that is not blank, a
number of rows from one to the greatest signed 64-bit number, and a socket address. -/
structure Usable (ini : Ini) : Prop where
  dataPath : ∀ path, ini.get? "data" "path" = some path → ¬Text.AllBlank path.toList
  pageSize : ∀ raw, ini.get? "table" "page_size" = some raw →
    ∃ n : Int, IntegerText (Text.trim raw.toList) n ∧ 1 ≤ n ∧ n ≤ 2 ^ 63 - 1
  listen : ∀ raw, ini.get? "web" "listen" = some raw →
    ∃ address, SocketAddress.parse? (Text.trim raw.toList) = some address

theorem isEmpty_trimString_iff {s : String} :
    (Text.trimString s).isEmpty = true ↔ Text.AllBlank s.toList := by
  rw [String.isEmpty_iff, Text.trimString, ← String.toList_inj, String.toList_ofList,
    String.toList_empty, ← List.isEmpty_iff, Text.isEmpty_trim_iff]

theorem validateDataPath_ok_iff {ini : Ini} :
    validateDataPath ini = .ok () ↔
      ∀ path, ini.get? "data" "path" = some path → ¬Text.AllBlank path.toList := by
  unfold validateDataPath
  split
  · next path hPath =>
      simp only [hPath, Option.some.injEq, forall_eq', ← isEmpty_trimString_iff]
      split <;> simp_all
  · next hNone => simp [hNone]

theorem validatePageSize_ok_iff {ini : Ini} :
    validatePageSize ini = .ok () ↔
      ∀ raw, ini.get? "table" "page_size" = some raw →
        ∃ n : Int, IntegerText (Text.trim raw.toList) n ∧ 1 ≤ n ∧ n ≤ 2 ^ 63 - 1 := by
  unfold validatePageSize
  split
  · next hNone => simp [hNone]
  · next raw hRaw =>
      simp only [hRaw, Option.some.injEq, forall_eq', Text.trimString, String.toList_ofList]
      split
      · next hNumber =>
          refine iff_of_false (fun h => by cases h) ?_
          rintro ⟨n, hText, hLow, hHigh⟩
          have hRead : boundedInt? minInt64 maxInt64 (Text.trim raw.toList) = some n :=
            boundedInt?_eq_some_iff.mpr ⟨hText, by simp only [minInt64]; omega, hHigh⟩
          rw [hNumber] at hRead
          cases hRead
      · next n hNumber =>
          obtain ⟨hText, -, hHigh⟩ := boundedInt?_eq_some_iff.mp hNumber
          split
          · next hSmall =>
              refine iff_of_false (fun h => by cases h) ?_
              rintro ⟨k, hOther, hLow, hBound⟩
              have hRead : boundedInt? minInt64 maxInt64 (Text.trim raw.toList) = some k :=
                boundedInt?_eq_some_iff.mpr ⟨hOther, by simp only [minInt64]; omega, hBound⟩
              rw [hNumber] at hRead
              cases hRead
              omega
          · next hPositive => exact iff_of_true rfl ⟨n, hText, by omega, hHigh⟩

theorem validateListen_ok_iff {ini : Ini} :
    validateListen ini = .ok () ↔
      ∀ raw, ini.get? "web" "listen" = some raw →
        ∃ address, SocketAddress.parse? (Text.trim raw.toList) = some address := by
  unfold validateListen
  split
  · next hNone => simp [hNone]
  · next raw hRaw =>
      simp only [hRaw, Option.some.injEq, forall_eq', Text.trimString, String.toList_ofList]
      split
      · next address hAddress => simp [hAddress]
      · next hNone => simp [hNone]

theorem validate_ok_iff {ini : Ini} : validate ini = .ok () ↔ Usable ini := by
  have hSteps : validate ini = .ok () ↔
      validateDataPath ini = .ok () ∧ validatePageSize ini = .ok () ∧
        validateListen ini = .ok () := by
    unfold validate
    cases validateDataPath ini with
    | error e => simp [bind, Except.bind]
    | ok _ => cases validatePageSize ini <;> simp [bind, Except.bind]
  rw [hSteps, validateDataPath_ok_iff, validatePageSize_ok_iff, validateListen_ok_iff]
  exact ⟨fun ⟨hPath, hSize, hListen⟩ => ⟨hPath, hSize, hListen⟩,
    fun h => ⟨h.dataPath, h.pageSize, h.listen⟩⟩

/-! What is read under a key, once the checks have passed. -/

theorem Ini.getNonBlank?_of_get? {ini : Ini} {sectionName key value : String}
    (h : ini.get? sectionName key = some value) (hBlank : ¬Text.AllBlank value.toList) :
    ini.getNonBlank? sectionName key = some (Text.trimString value) := by
  rw [← isEmpty_trimString_iff, Bool.not_eq_true] at hBlank
  rw [getNonBlank?, h, Option.map_some, Option.filter_some, hBlank]
  rfl

theorem Ini.getNonBlank?_of_none {ini : Ini} {sectionName key : String}
    (h : ini.get? sectionName key = none) : ini.getNonBlank? sectionName key = none := by
  rw [getNonBlank?, h]
  rfl

/-- No address is blank. -/
theorem SocketAddress.not_allBlank_of_parse? {cs : List Char} {address : SocketAddress}
    (h : SocketAddress.parse? (Text.trim cs) = some address) : ¬Text.AllBlank cs := by
  intro hBlank
  have hTrim := Text.trim_append_blank hBlank []
  rw [List.nil_append] at hTrim
  have hNone : SocketAddress.parse? (Text.trim []) = none := by decide
  rw [hTrim, hNone] at h
  cases h

/-- The address that is written is read, whichever pass reads it. -/
theorem listenOfIni_of_get? {ini : Ini} {raw : String} (hRaw : ini.get? "web" "listen" = some raw)
    {address : SocketAddress} (h : SocketAddress.parse? (Text.trim raw.toList) = some address) :
    Settings.listenOfIni ini = .ok address := by
  have hText := Ini.getNonBlank?_of_get? hRaw (SocketAddress.not_allBlank_of_parse? h)
  rw [Settings.listenOfIni, hText]
  simp only [Text.trimString, String.toList_ofList, h]

theorem listenOfIni_of_none {ini : Ini} (hNone : ini.get? "web" "listen" = none) :
    Settings.listenOfIni ini = .ok defaultListen := by
  rw [Settings.listenOfIni, Ini.getNonBlank?_of_none hNone]

/-- Where the checks pass, the second reading of the address does not fail. -/
theorem Usable.exists_listenOfIni {ini : Ini} (h : Usable ini) :
    ∃ address, Settings.listenOfIni ini = .ok address := by
  cases hRaw : ini.get? "web" "listen" with
  | none => exact ⟨_, listenOfIni_of_none hRaw⟩
  | some raw =>
      obtain ⟨address, hAddress⟩ := h.listen raw hRaw
      exact ⟨address, listenOfIni_of_get? hRaw hAddress⟩

theorem ofIni_eq {ini : Ini} (h : Usable ini) :
    Settings.ofIni ini = (Settings.listenOfIni ini).map fun listen =>
      { dataPath := ini.getNonBlank? "data" "path"
        pageSize := ini.getNat "table" "page_size" defaultPageSize
        listen } := by
  rw [Settings.ofIni, validate_ok_iff.mpr h]
  cases Settings.listenOfIni ini <;> rfl

/-- A configuration gives settings exactly if it is usable. -/
theorem exists_ofIni_iff {ini : Ini} : (∃ s, Settings.ofIni ini = .ok s) ↔ Usable ini := by
  constructor
  · rintro ⟨s, h⟩
    refine validate_ok_iff.mp ?_
    rw [Settings.ofIni] at h
    cases hValid : validate ini with
    | error e =>
        rw [hValid] at h
        cases h
    | ok _ => rfl
  · intro h
    obtain ⟨address, hAddress⟩ := h.exists_listenOfIni
    exact ⟨_, by rw [ofIni_eq h, hAddress]; rfl⟩

/-- Whatever is wrong with a configuration is found by the checks. -/
theorem validate_eq_error {ini : Ini} {e : Failure} (h : Settings.ofIni ini = .error e) :
    validate ini = .error e := by
  cases hValid : validate ini with
  | error other =>
      rw [Settings.ofIni, hValid] at h
      cases h
      rfl
  | ok _ =>
      obtain ⟨s, hs⟩ := exists_ofIni_iff.mpr (validate_ok_iff.mp hValid)
      rw [hs] at h
      cases h

/-- A number of rows is read as it is written. Here the text is read without trimming, so
that it matters that configurations are trimmed. -/
theorem Ini.getNat_of_get? {text : List Char} {ini : Ini} (hText : Ini.parse text = .ok ini)
    {sectionName key raw : String} (hRaw : ini.get? sectionName key = some raw) {n : Int}
    (hNumber : IntegerText (Text.trim raw.toList) n) (hLow : 1 ≤ n) (hHigh : n ≤ 2 ^ 63 - 1)
    (default : Nat) : ini.getNat sectionName key default = n.toNat := by
  have hTrimmed : Text.trim raw.toList = raw.toList := by
    have hStored := congrArg String.toList (Ini.trim_get? hText hRaw)
    rwa [Text.trimString, String.toList_ofList] at hStored
  have hRead : boundedInt? minInt64 maxInt64 raw.toList = some n :=
    boundedInt?_eq_some_iff.mpr ⟨hTrimmed ▸ hNumber, by simp only [minInt64]; omega, hHigh⟩
  have hInt : ini.getInt sectionName key default = n := by
    rw [getInt, int?, hRaw, Option.bind_some, hRead, Option.getD_some]
  rw [getNat, hInt]
  exact if_neg (by omega)

/-- The settings are those that a configuration writes, with the default for a key that is
absent and for no other. -/
structure Settings.Honours (s : Settings) (ini : Ini) : Prop where
  dataPath : s.dataPath = (ini.get? "data" "path").map Text.trimString
  pageSize : match ini.get? "table" "page_size" with
    | none => s.pageSize = 10
    | some raw => IntegerText (Text.trim raw.toList) s.pageSize
  listen : match ini.get? "web" "listen" with
    | none => s.listen = .v4 [127, 0, 0, 1] 3000
    | some raw => SocketAddress.parse? (Text.trim raw.toList) = some s.listen
  positive : 1 ≤ s.pageSize

theorem honours_of_ofIni {text : List Char} {ini : Ini} (hText : Ini.parse text = .ok ini)
    {s : Settings} (h : Settings.ofIni ini = .ok s) : s.Honours ini := by
  have hUsable := exists_ofIni_iff.mp ⟨s, h⟩
  obtain ⟨address, hListen⟩ := hUsable.exists_listenOfIni
  rw [ofIni_eq hUsable, hListen] at h
  cases h
  refine ⟨?dataPath, ?pageSize, ?listen, ?positive⟩
  case dataPath =>
    dsimp only
    cases hPath : ini.get? "data" "path" with
    | none => exact Ini.getNonBlank?_of_none hPath
    | some path => exact Ini.getNonBlank?_of_get? hPath (hUsable.dataPath path hPath)
  case pageSize =>
    dsimp only
    split
    · next hNone => simp [Ini.getNat, Ini.getInt, Ini.int?, hNone, defaultPageSize]
    · next raw hRaw =>
        obtain ⟨n, hNumber, hLow, hHigh⟩ := hUsable.pageSize raw hRaw
        rw [Ini.getNat_of_get? hText hRaw hNumber hLow hHigh, Int.toNat_of_nonneg (by omega)]
        exact hNumber
  case listen =>
    dsimp only
    split
    · next hNone =>
        rw [listenOfIni_of_none hNone] at hListen
        cases hListen
        rfl
    · next raw hRaw =>
        obtain ⟨other, hAddress⟩ := hUsable.listen raw hRaw
        rw [listenOfIni_of_get? hRaw hAddress] at hListen
        cases hListen
        exact hAddress
  case positive =>
    dsimp only
    cases hRaw : ini.get? "table" "page_size" with
    | none => simp [Ini.getNat, Ini.getInt, Ini.int?, hRaw, defaultPageSize]
    | some raw =>
        obtain ⟨n, hNumber, hLow, hHigh⟩ := hUsable.pageSize raw hRaw
        rw [Ini.getNat_of_get? hText hRaw hNumber hLow hHigh]
        omega

/-- Settings with those replaced that are given: each one of its own kind, and no other. -/
structure Settings.Overridden (s : Settings) (dataPath : Option String) (pageSize : Option Nat)
    (listen : Option SocketAddress) (t : Settings) : Prop where
  dataPath_given : ∀ path ∈ dataPath, t.dataPath = some path
  dataPath_kept : dataPath = none → t.dataPath = s.dataPath
  pageSize_given : ∀ n ∈ pageSize, t.pageSize = n
  pageSize_kept : pageSize = none → t.pageSize = s.pageSize
  listen_given : ∀ address ∈ listen, t.listen = address
  listen_kept : listen = none → t.listen = s.listen

theorem Settings.overridden_withOverrides (s : Settings) (dataPath : Option String)
    (pageSize : Option Nat) (listen : Option SocketAddress) :
    s.Overridden dataPath pageSize listen (s.withOverrides dataPath pageSize listen) := by
  constructor
  case dataPath_given | pageSize_given | listen_given =>
    rintro _ ⟨⟩
    rfl
  case dataPath_kept | pageSize_kept | listen_kept =>
    rintro rfl
    rfl

theorem Settings.positive_withOverrides {s : Settings} (h : 1 ≤ s.pageSize)
    {pageSize : Option Nat} (hGiven : ∀ n ∈ pageSize, n ≠ 0) (dataPath : Option String)
    (listen : Option SocketAddress) :
    1 ≤ (s.withOverrides dataPath pageSize listen).pageSize := by
  have hOverridden := s.overridden_withOverrides dataPath pageSize listen
  cases pageSize with
  | none => rwa [hOverridden.pageSize_kept rfl]
  | some n =>
      rw [hOverridden.pageSize_given n rfl]
      exact Nat.one_le_iff_ne_zero.mpr (hGiven n rfl)

/-- With pages of this size, each stock that a query selects is on one of the pages, however
the table is sorted. -/
def PagesHoldMatches (pageSize : Nat) : Prop :=
  ∀ (stocks : List Stock) (query : List Char) (sort : Option SortConfig),
    stocks.length < 2 ^ 64 → ∀ s ∈ (screen stocks query).stocks,
      ∃ page, 1 ≤ page ∧ page ≤ totalPages (screen stocks query).stocks.length pageSize ∧
        s ∈ (TableView.ofRows (screen stocks query).stocks ⟨sort, page, ""⟩ pageSize).rows

theorem pagesHoldMatches {pageSize : Nat} (hSize : 1 ≤ pageSize) : PagesHoldMatches pageSize := by
  intro stocks query sort hWord s hs
  have hSelected : (screen stocks query).stocks.length ≤ stocks.length := by
    obtain ⟨-, hScreen⟩ | ⟨-, -, hScreen⟩ | ⟨-, -, hScreen⟩ := screen_cases stocks query <;>
      rw [hScreen]
    · exact Nat.zero_le _
    · exact Nat.zero_le _
    · exact List.length_filter_le _ _
  -- The order of the rows does not change how many there are, so the pages are the same.
  have hRows : (TableState.visibleRows ⟨sort, 1, ""⟩ (screen stocks query).stocks).Perm
      (screen stocks query).stocks := by
    rw [TableState.visibleRows_unsearched]
    exact sortRows_perm _ sort
  obtain ⟨page, hFirst, hLast, hRow⟩ :=
    exists_mem_paginate (by rw [hRows.length_eq]; omega) hSize (hRows.mem_iff.mpr hs)
  exact ⟨page, hFirst, hRows.length_eq ▸ hLast, hRow⟩

/-- For every configuration text that can be read: settings come of it exactly if each key that
is present can be used, nothing fails behind the checks, what is written is what counts, and
what is given on the command line replaces nothing but its own. -/
theorem settings_of_text {text : List Char} {ini : Ini} (hText : Ini.parse text = .ok ini) :
    ((∃ s, Settings.ofIni ini = .ok s) ↔ Usable ini) ∧
    (∀ e, Settings.ofIni ini = .error e → validate ini = .error e) ∧
    ∀ s, Settings.ofIni ini = .ok s → s.Honours ini ∧
      ∀ (dataPath : Option String) (pageSize : Option Nat) (listen : Option SocketAddress),
        (∀ n ∈ pageSize, n ≠ 0) →
          s.Overridden dataPath pageSize listen (s.withOverrides dataPath pageSize listen) ∧
          1 ≤ (s.withOverrides dataPath pageSize listen).pageSize ∧
          PagesHoldMatches (s.withOverrides dataPath pageSize listen).pageSize := by
  refine ⟨exists_ofIni_iff, fun e => validate_eq_error, fun s h => ?_⟩
  have hHonours := honours_of_ofIni hText h
  refine ⟨hHonours, fun dataPath pageSize listen hGiven => ?_⟩
  have hPositive := Settings.positive_withOverrides hHonours.positive hGiven dataPath listen
  exact ⟨s.overridden_withOverrides dataPath pageSize listen, hPositive,
    pagesHoldMatches hPositive⟩

/-- A configuration with a sign, white space, a comment and an address of the sixth version, run
with other data and with smaller pages. -/
theorem settings_of_text_given :
    let text :=
      "[Data]\npath = \t a b.csv ; mine\n[table]\npage_size=+25\n[web]\nlisten: [::1]:8080".toList
    let ini : Ini := [⟨"web".toList, "listen".toList, some "[::1]:8080".toList⟩,
      ⟨"table".toList, "page_size".toList, some "+25".toList⟩,
      ⟨"data".toList, "path".toList, some "a b.csv".toList⟩]
    let s : Settings := ⟨some "a b.csv", 25, .v6 [0, 0, 0, 0, 0, 0, 0, 1] 0 8080⟩
    Ini.parse text = .ok ini ∧ Settings.ofIni ini = .ok s ∧ (∀ n ∈ some 7, n ≠ 0) ∧
    Usable ini ∧ s.Honours ini ∧
    s.Overridden (some "b.json") (some 7) none (s.withOverrides (some "b.json") (some 7) none) ∧
    1 ≤ (s.withOverrides (some "b.json") (some 7) none).pageSize ∧
    PagesHoldMatches (s.withOverrides (some "b.json") (some 7) none).pageSize := by
  intro text ini s
  have hText : Ini.parse text = .ok ini := by decide +kernel
  have hSettings : Settings.ofIni ini = .ok s := by decide +kernel
  have hGiven : ∀ n ∈ some 7, n ≠ 0 := by simp
  obtain ⟨hUsable, -, hRead⟩ := settings_of_text hText
  obtain ⟨hHonours, hOverrides⟩ := hRead s hSettings
  exact ⟨hText, hSettings, hGiven, hUsable.mp ⟨s, hSettings⟩, hHonours,
    hOverrides (some "b.json") (some 7) none hGiven⟩

end Config

end EquityScreen
