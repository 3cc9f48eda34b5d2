import C4Model.Proofs.Outcome
import C4Model.Settings.Layer
import Mathlib.Data.List.TakeWhile

/-! What a table of settings gives, described without the steps of reading it. A table gives a draft unless
a number in it can neither be read nor written: a text that looks like digits but is no numeral, or a
number with too many digits. Anything else of no use leaves its setting open, with a warning. -/

namespace C4Model

open Outcome

namespace Text

theorem exists_decimalNumber?_iff {cs : List Char} :
    (∃ n, decimalNumber? cs = some n) ↔ ∀ c ∈ cs, (decimalValue? c).isSome = true := by
  suffices h : ∀ number, (∃ n, cs.foldlM
      (fun number c => (decimalValue? c).map (10 * number + ·)) number = some n) ↔
      ∀ c ∈ cs, (decimalValue? c).isSome = true from h 0
  induction cs with
  | nil => simp
  | cons c rest ih =>
      intro number
      cases hvalue : decimalValue? c <;> simp [hvalue, ih]

theorem isDigitLike_of_decimalValue? {c : Char} (h : (decimalValue? c).isSome = true) :
    isDigitLike c = true := by
  have hcovered : ∀ first ∈ decimalZeros, first = 0x30 ∨
      ∃ interval ∈ digitsBeyondAscii.intervals, interval.1 ≤ first ∧ first + 9 ≤ interval.2 := by
    decide +kernel
  rw [decimalValue?, Option.isSome_map, List.find?_isSome] at h
  obtain ⟨first, hfirst, hwithin⟩ := h
  simp only [Bool.and_eq_true, decide_eq_true_eq] at hwithin
  rw [isDigitLike, Bool.or_eq_true, CodePoints.contains_iff]
  rcases hcovered first hfirst with rfl | ⟨interval, hinterval, hlow, hhigh⟩
  · left
    simp only [Char.isDigit, Bool.and_eq_true, decide_eq_true_eq, ge_iff_le, UInt32.le_iff_toNat_le]
    exact hwithin
  · exact .inr ⟨interval, hinterval, by omega, by omega⟩

end Text

/-- A text that can be read as a number: decimal digits only, and not too many. -/
def IsNumeral (text : String) : Prop :=
  (∀ c ∈ text.toList, (Text.decimalValue? c).isSome = true) ∧ text.length ≤ numeralLimit

theorem readNumeral_eq_ok_iff {text : String} {number : Int} :
    readNumeral text = .ok number ↔
      IsNumeral text ∧ (Text.decimalNumber? text.toList).map Int.ofNat = some number := by
  rw [readNumeral, IsNumeral, ← Text.exists_decimalNumber?_iff]
  cases hnumber : Text.decimalNumber? text.toList with
  | none => split <;> simp
  | some n =>
      have hdecimal := Text.exists_decimalNumber?_iff.mp ⟨n, hnumber⟩
      have hleading : (text.toList.takeWhile fun c => (Text.decimalValue? c).isSome).length =
          text.length := by
        rw [List.takeWhile_eq_self_iff.mpr hdecimal, String.length_toList]
      rw [hleading]
      split
      · simp [Nat.not_le.mpr ‹_›]
      · simp [Nat.not_lt.mp ‹_›]

/-- A text that can be read as a number, and is not empty, is one that looks like digits. -/
theorem isDigitText_of_decimal {text : String} (hempty : text.isEmpty = false)
    (hdecimal : ∀ c ∈ text.toList, (Text.decimalValue? c).isSome = true) : isDigitText text = true := by
  rw [isDigitText, hempty, Bool.not_false, Bool.true_and, List.all_eq_true]
  exact fun c hc => Text.isDigitLike_of_decimalValue? (hdecimal c hc)

namespace Value

/-- The number that a value is or writes in decimal digits, with blanks around them. -/
def number? : Value → Option Int
  | .int n => some n
  | .string text =>
      let digits := Text.strip text
      if digits.isEmpty then none else (Text.decimalNumber? digits.toList).map Int.ofNat
  | _ => none

theorem number?_of_isDigitText {text : String} (h : isDigitText (Text.strip text) = true) :
    (string text).number? = (Text.decimalNumber? (Text.strip text).toList).map Int.ofNat := by
  rw [isDigitText, Bool.and_eq_true, Bool.not_eq_true'] at h
  rw [number?, if_neg (by simp [h.1])]

/-- A text that does not look like digits writes no number in them. -/
theorem number?_of_not_isDigitText {text : String} (h : isDigitText (Text.strip text) = false) :
    (string text).number? = none := by
  rw [number?]
  cases hempty : (Text.strip text).isEmpty with
  | true => rfl
  | false =>
      cases hnumber : Text.decimalNumber? (Text.strip text).toList with
      | none => rfl
      | some n =>
          have hdecimal := Text.exists_decimalNumber?_iff.mp ⟨n, hnumber⟩
          exact nomatch h.symm.trans (isDigitText_of_decimal hempty hdecimal)

/-- If the value is a text that looks like digits, it can be read as a number. -/
def Legible : Value → Prop
  | .string text => isDigitText (Text.strip text) = true → IsNumeral (Text.strip text)
  | _ => True

end Value

namespace Table

variable {table : Table} {key : String}

theorem hasKey_eq_isSome : table.hasKey key = (table.get? key).isSome := by
  induction table with
  | nil => rfl
  | cons entry rest ih =>
      have hrest : rest.any (·.1 == key) = (rest.lookup key).isSome := ih
      rw [hasKey, List.any_cons, get?, List.lookup_cons, hrest, BEq.comm]
      cases key == entry.1 <;> rfl

theorem int?_eq_ok_iff {result : Option Int} :
    table.int? key = .ok result ↔
      (∀ raw, table.get? key = some raw → raw.Legible) ∧ (table.get? key).bind Value.number? = result := by
  rw [int?]
  rcases table.get? key with - | raw
  · simp
  cases raw with
  | string text =>
      simp only [Option.some.injEq, forall_eq', Option.bind_some, Value.Legible]
      cases hdigits : isDigitText (Text.strip text) with
      | true =>
          rw [if_pos rfl, map_eq_ok_iff, Value.number?_of_isDigitText hdigits]
          constructor
          · rintro ⟨number, hnumber, rfl⟩
            exact (readNumeral_eq_ok_iff.mp hnumber).imp_left fun hnumeral _ => hnumeral
          · rintro ⟨hnumeral, rfl⟩
            obtain ⟨n, hn⟩ := Text.exists_decimalNumber?_iff.mpr (hnumeral rfl).1
            rw [hn]
            exact ⟨n, readNumeral_eq_ok_iff.mpr ⟨hnumeral rfl, by rw [hn]; rfl⟩, rfl⟩
      | false =>
          rw [if_neg Bool.false_ne_true, Value.number?_of_not_isDigitText hdigits]
          simp
  | _ => simp [Value.Legible, Value.number?]

end Table

namespace SettingsDraft

/-- The width that a table gives, if what it gives is of use. -/
def givenWidth (table : Table) : Option Int :=
  ((table.get? SettingsKey.indentWidth).bind Value.number?).filter IsWidth

/-- The scope that a table gives, if what it gives is one. -/
def givenScope (table : Table) : Option ScopeMode :=
  (table.string? SettingsKey.identifierScope).bind Labelled.ofText?

/-- The warning about a width that is of no use. -/
def widthWarnings (source : String) (table : Table) : List Diagnostic :=
  match table.get? SettingsKey.indentWidth, givenWidth table with
  | some raw, none => [indentWarning source raw]
  | _, _ => []

/-- The warning about a scope that is none. -/
def scopeWarnings (source : String) (table : Table) : List Diagnostic :=
  if table.hasKey SettingsKey.identifierScope ∧ givenScope table = none then
    [scopeWarning source (table.string? SettingsKey.identifierScope)]
  else []

/-- Reading the settings of a table never comes upon a number that it can neither read nor write. -/
structure Readable (table : Table) : Prop where
  /-- A width that looks like a number is one, and one that is of no use can be shown. -/
  width : ∀ raw, table.get? SettingsKey.indentWidth = some raw → raw.Legible ∧ raw.writable = true
  /-- A number in the place of a text can be written out. -/
  text : ∀ key ∈ [SettingsKey.identifierScope, SettingsKey.defaultName, SettingsKey.defaultDescription],
    ∀ n, table.get? key = some (.int n) → (Value.int n).writable = true

/-- The draft that a table gives. -/
def drafted (data : Table) (file : Option String) : SettingsDraft :=
  let source := file.getD "<dict>"
  let table := data.subtable SettingsKey.section_
  { indentWidth := givenWidth table
    identifierScope := givenScope table
    defaultName := table.string? SettingsKey.defaultName
    defaultDescription := table.string? SettingsKey.defaultDescription
    sources := file.toList.map .file
    diagnostics := widthWarnings source table ++ scopeWarnings source table }

theorem refuseIndent_eq_ok_iff {source : String} {raw : Value} {result : Option Int × List Diagnostic} :
    refuseIndent source raw = .ok result ↔
      raw.writable = true ∧ (none, [indentWarning source raw]) = result := by
  rw [refuseIndent]
  split <;> simp [*]

theorem writable_of_isWidth {raw : Value} {width : Int} (hnumber : raw.number? = some width)
    (hwidth : IsWidth width) : raw.writable = true := by
  cases raw with
  | int n =>
      obtain rfl := Option.some.inj hnumber
      have hbound : n.natAbs < numeralLimit := by
        have hlow := hwidth.1
        have hhigh : n ≤ 16 := hwidth.2
        have hlimit : numeralLimit = 4300 := rfl
        omega
      exact Value.writable_int_iff.mpr (hbound.trans (lt_leastBeyond numeralLimit))
  | array items => cases hnumber
  | table entries => cases hnumber
  | _ => rfl

theorem readIndent_eq_ok_iff {source : String} {table : Table} {result : Option Int × List Diagnostic} :
    readIndent source table = .ok result ↔
      (∀ raw, table.get? SettingsKey.indentWidth = some raw → raw.Legible ∧ raw.writable = true) ∧
        (givenWidth table, widthWarnings source table) = result := by
  rw [readIndent, widthWarnings, givenWidth]
  cases hraw : table.get? SettingsKey.indentWidth with
  | none => simp
  | some raw =>
      simp only [bind_eq_ok_iff, Table.int?_eq_ok_iff, hraw, Option.some.injEq, forall_eq',
        Option.bind_some, and_assoc, exists_and_left, exists_eq_left', and_congr_right_iff]
      intro _
      cases hnumber : raw.number? with
      | none => simp [refuseIndent_eq_ok_iff]
      | some width =>
          by_cases hwidth : IsWidth width
          · have hgiven : (some width).filter (IsWidth ·) = some width := by simp [hwidth]
            simp only [hgiven, if_pos hwidth, writable_of_isWidth hnumber hwidth, true_and,
              pure_eq_ok_iff]
          · have hgiven : (some width).filter (IsWidth ·) = none := by simp [hwidth]
            simp only [hgiven, if_neg hwidth]
            exact refuseIndent_eq_ok_iff

theorem readScope_eq_ok_iff {source : String} {table : Table}
    {result : Option ScopeMode × List Diagnostic} :
    readScope source table = .ok result ↔
      (∀ n, table.get? SettingsKey.identifierScope = some (.int n) → (Value.int n).writable = true) ∧
        (givenScope table, scopeWarnings source table) = result := by
  rw [readScope, givenScope, scopeWarnings, givenScope]
  cases hkey : table.hasKey SettingsKey.identifierScope with
  | false =>
      have hnone : table.get? SettingsKey.identifierScope = none := by
        rw [Table.hasKey_eq_isSome] at hkey
        exact Option.isNone_iff_eq_none.mp (Option.isSome_eq_false_iff.mp hkey)
      have htext : table.string? SettingsKey.identifierScope = none := by rw [Table.string?, hnone]
      simp [hnone, htext]
  | true =>
      rw [if_pos rfl, bind_eq_ok_iff]
      simp only [Table.text?_eq_ok_iff, and_assoc, exists_and_left, exists_eq_left', true_and]
      refine and_congr_right fun _ => ?_
      cases (table.string? SettingsKey.identifierScope).bind (Labelled.ofText? (α := ScopeMode)) with
      | some mode => simp [pure_eq_ok_iff]
      | none => simp [pure_eq_ok_iff]

/-- Reading a table gives its draft exactly if the table is readable. -/
theorem ofTable_eq_ok_iff {data : Table} {file : Option String} {draft : SettingsDraft} :
    ofTable data file = .ok draft ↔
      Readable (data.subtable SettingsKey.section_) ∧ drafted data file = draft := by
  simp only [ofTable, bind_eq_ok_iff, readIndent_eq_ok_iff, readScope_eq_ok_iff, Table.text?_eq_ok_iff,
    pure_eq_ok_iff, and_assoc, exists_and_left, exists_eq_left']
  constructor
  · rintro ⟨hwidth, hscope, hname, hdescription, hdraft⟩
    refine ⟨⟨hwidth, ?_⟩, hdraft⟩
    simp only [List.forall_mem_cons]
    exact ⟨hscope, hname, hdescription, List.forall_mem_nil _⟩
  · rintro ⟨⟨hwidth, htext⟩, hdraft⟩
    exact ⟨hwidth, htext _ (by simp), htext _ (by simp), htext _ (by simp), hdraft⟩

theorem exists_ofTable_iff {data : Table} {file : Option String} :
    (∃ draft, ofTable data file = .ok draft) ↔ Readable (data.subtable SettingsKey.section_) := by
  simp [ofTable_eq_ok_iff]

/-- The table of the values that override a draft. -/
def overriding (values : Table) : Table :=
  [(SettingsKey.section_, .table (given values))]

theorem override_eq_ok_iff {lower result : SettingsDraft} {values : Table} :
    lower.override values = .ok result ↔
      Readable (given values) ∧ lower.mergeWith (drafted (overriding values) none) = result := by
  have hsources : { lower.mergeWith (drafted (overriding values) none) with sources := lower.sources } =
      lower.mergeWith (drafted (overriding values) none) := by
    rw [SettingsDraft.mk.injEq]
    simp [mergeWith, drafted]
  simp only [override, bind_eq_ok_iff, ofTable_eq_ok_iff, pure_eq_ok_iff, and_assoc, exists_and_left,
    exists_eq_left']
  rw [← hsources]
  rfl

theorem isWidth_of_givenWidth {table : Table} {width : Int} (h : givenWidth table = some width) :
    IsWidth width := by
  rw [givenWidth, Option.filter_eq_some_iff] at h
  exact of_decide_eq_true h.2

/-- A layer on top of a draft: it has effect where it sets something, and all else stays as it is. -/
structure Covers (layer lower result : SettingsDraft) : Prop where
  indentWidth : result.indentWidth = layer.indentWidth.or lower.indentWidth
  identifierScope : result.identifierScope = layer.identifierScope.or lower.identifierScope
  defaultName : result.defaultName = layer.defaultName.or lower.defaultName
  defaultDescription : result.defaultDescription = layer.defaultDescription.or lower.defaultDescription

theorem covers_mergeWith (lower layer : SettingsDraft) : Covers layer lower (lower.mergeWith layer) :=
  ⟨rfl, rfl, rfl, rfl⟩

/-- What comes of settings in a table, and of overriding values: a draft unless there is a number that can
neither be read nor written. What is of no use is left out of the draft with a warning, and a setting that
is left out stays as it is below. -/
theorem settings_readable (data : Table) (file : Option String) (lower : SettingsDraft) (values : Table) :
    ((∃ draft, ofTable data file = .ok draft) ↔ Readable (data.subtable SettingsKey.section_)) ∧
    (∀ draft, ofTable data file = .ok draft → draft = drafted data file ∧
      (∀ width, draft.indentWidth = some width → 1 ≤ width ∧ width ≤ 16) ∧
      Covers draft lower (lower.mergeWith draft)) ∧
    ((∃ result, lower.override values = .ok result) ↔ Readable (given values)) ∧
    ∀ result, lower.override values = .ok result → ∃ draft, ofTable (overriding values) none = .ok draft ∧
      (∀ width, draft.indentWidth = some width → 1 ≤ width ∧ width ≤ 16) ∧
      Covers draft lower result ∧ result.sources = lower.sources := by
  refine ⟨exists_ofTable_iff, fun draft hdraft => ?_, by simp [override_eq_ok_iff],
    fun result hresult => ?_⟩
  · obtain ⟨-, rfl⟩ := ofTable_eq_ok_iff.mp hdraft
    exact ⟨rfl, fun width hwidth => isWidth_of_givenWidth hwidth, covers_mergeWith ..⟩
  · obtain ⟨hreadable, rfl⟩ := override_eq_ok_iff.mp hresult
    exact ⟨_, ofTable_eq_ok_iff.mpr ⟨hreadable, rfl⟩, fun width hwidth => isWidth_of_givenWidth hwidth,
      covers_mergeWith .., List.append_nil _⟩

/-- A section of settings whose width is a text. -/
def widthTable (width : String) : Table :=
  [(SettingsKey.section_, .table [(SettingsKey.indentWidth, .string width)])]

/-- A superscript looks like a digit and is no numeral. It ends the reading, but a width that is too large
does not. -/
theorem superscript_unreadable :
    ofTable (widthTable "²") none = .error (.notDecimal "²") ∧
      ¬ Readable [(SettingsKey.indentWidth, .string "²")] ∧
      ∃ draft, ofTable (widthTable "40") none = .ok draft ∧ draft.indentWidth = none ∧
        draft.diagnostics = [indentWarning "<dict>" (.string "40")] := by
  have herror : ofTable (widthTable "²") none = .error (.notDecimal "²") := by
    rfl
  refine ⟨herror, fun hreadable => ?_, ?_⟩
  · obtain ⟨draft, hdraft⟩ := (settings_readable (widthTable "²") none defaults []).1.mpr hreadable
    exact nomatch herror.symm.trans hdraft
  · exact ⟨_, by rfl, rfl, rfl⟩

end SettingsDraft

end C4Model
