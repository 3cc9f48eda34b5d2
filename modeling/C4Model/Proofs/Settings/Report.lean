import C4Model.Proofs.Settings.Table
import C4Model.Proofs.Text.Lines

/-! What becomes of every value that a table has for a setting. It is taken over, or it is of no use and left
out. A width or a scope of no use is reported by one warning with the source and the key in it. A name or a
description of no use is left out without a word. -/

namespace C4Model

/-- What stands in a list once, and only there, is of the kind. -/
def Once {α : Type} (P : α → Prop) (list : List α) : Prop :=
  ∃ front item back, list = front ++ item :: back ∧ P item ∧ ∀ other ∈ front ++ back, ¬P other

theorem once_filterMap {α β : Type} {f : α → Option β} {P : β → Prop} {list : List α} {item : α}
    {result : β} (hnodup : list.Nodup) (hitem : item ∈ list) (hresult : f item = some result)
    (hkind : P result) (hothers : ∀ other, other ≠ item → ∀ found, f other = some found → ¬P found) :
    Once P (list.filterMap f) := by
  obtain ⟨front, back, rfl⟩ := List.append_of_mem hitem
  have hapart : ∀ other ∈ front ++ back, other ≠ item := by
    rintro other hother rfl
    exact (List.nodup_cons.mp (List.perm_middle.nodup_iff.mp hnodup)).1 hother
  refine ⟨front.filterMap f, result, back.filterMap f, ?_, hkind, fun found hfound => ?_⟩
  · rw [List.filterMap_append, List.filterMap_cons_some hresult]
  · rw [← List.filterMap_append] at hfound
    obtain ⟨other, hother, hother_found⟩ := List.mem_filterMap.mp hfound
    exact hothers other (hapart other hother) found hother_found

/-- The text that a value is, or that it is written out as. -/
def Value.text? : Value → Option String
  | .string text => some text
  | .int n => some (toString n)
  | .float x => some (Number.floatText x)
  | .bool b => some (Value.shownBool b)
  | _ => none

theorem Table.string?_eq_bind (table : Table) (key : String) :
    table.string? key = (table.get? key).bind Value.text? := by
  rw [string?]
  rcases table.get? key with - | raw
  · rfl
  · cases raw <;> rfl

/-- The warning is about the key, and tells where its value is from. -/
def Diagnostic.Names (source key : String) (diagnostic : Diagnostic) : Prop :=
  diagnostic.level = .warning ∧ ∃ fault rest : String, ' ' ∉ fault.toList ∧
    diagnostic.message = source ++ (": ignoring " ++ (fault ++ (" " ++ (key ++ (" " ++ rest)))))

/-- A warning is about one key. -/
theorem Diagnostic.Names.key_eq {source key other : String} {diagnostic : Diagnostic}
    (h : diagnostic.Names source key) (hother : diagnostic.Names source other)
    (hkey : ' ' ∉ key.toList) (hother' : ' ' ∉ other.toList) : key = other := by
  obtain ⟨-, fault, rest, hfault, hmessage⟩ := h
  obtain ⟨-, fault', rest', hfault', hmessage'⟩ := hother
  have hspace : " ".toList = [' '] := rfl
  have hchars := congrArg String.toList (hmessage.symm.trans hmessage')
  simp only [String.toList_append, List.append_cancel_left_eq, hspace, List.singleton_append] at hchars
  have hwords := congrArg (Text.splitAtChar ' ') hchars
  rw [Text.splitAtChar_append_cons, Text.splitAtChar_append_cons, Text.splitAtChar_append_cons,
    Text.splitAtChar_append_cons, Text.splitAtChar_of_not_mem hfault, Text.splitAtChar_of_not_mem hfault',
    Text.splitAtChar_of_not_mem hkey, Text.splitAtChar_of_not_mem hother'] at hwords
  exact String.toList_inj.mp (List.cons.inj (List.cons.inj hwords).2).1

/-- The settings one by one. -/
inductive Setting where
  | indentWidth
  | identifierScope
  | defaultName
  | defaultDescription
  deriving DecidableEq

/-- What a setting is set to. -/
inductive SettingValue where
  | width (spaces : Int)
  | scope (mode : ScopeMode)
  | text (text : String)
  deriving DecidableEq

namespace Setting

def key : Setting → String
  | .indentWidth => SettingsKey.indentWidth
  | .identifierScope => SettingsKey.identifierScope
  | .defaultName => SettingsKey.defaultName
  | .defaultDescription => SettingsKey.defaultDescription

/-- What a value sets the setting to, if it is of use. -/
def value? : Setting → Value → Option SettingValue
  | .indentWidth, raw => (raw.number?.filter SettingsDraft.IsWidth).map .width
  | .identifierScope, raw => (raw.text?.bind Labelled.ofText?).map .scope
  | .defaultName, raw => raw.text?.map .text
  | .defaultDescription, raw => raw.text?.map .text

/-- What the setting is in a draft. -/
def of (draft : SettingsDraft) : Setting → Option SettingValue
  | .indentWidth => draft.indentWidth.map .width
  | .identifierScope => draft.identifierScope.map .scope
  | .defaultName => draft.defaultName.map .text
  | .defaultDescription => draft.defaultDescription.map .text

/-- Whether a value of no use is reported. -/
def IsReported (setting : Setting) : Prop :=
  setting = .indentWidth ∨ setting = .identifierScope

instance (setting : Setting) : Decidable setting.IsReported :=
  inferInstanceAs (Decidable (_ ∨ _))

def all : List Setting :=
  [.indentWidth, .identifierScope, .defaultName, .defaultDescription]

theorem mem_all (setting : Setting) : setting ∈ all := by
  cases setting <;> decide

theorem space_not_mem_key (setting : Setting) : ' ' ∉ setting.key.toList := by
  cases setting <;> decide

theorem key_injective : Function.Injective key := by
  intro first second h
  cases first <;> cases second <;> first | rfl | exact absurd h (by decide)

/-- The warning that the setting has for a value of no use, if it has one. -/
def refusal? (source : String) (raw : Value) : Setting → Option Diagnostic
  | .indentWidth => some (SettingsDraft.indentWarning source raw)
  | .identifierScope => some (SettingsDraft.scopeWarning source raw.text?)
  | .defaultName => none
  | .defaultDescription => none

/-- What is told about a value for the setting. -/
def warning? (source : String) (raw : Value) (setting : Setting) : Option Diagnostic :=
  if setting.value? raw = none then setting.refusal? source raw else none

/-- Nothing in the draft is about the setting. -/
def Untold (source : String) (draft : SettingsDraft) (setting : Setting) : Prop :=
  ∀ diagnostic ∈ draft.diagnostics, ¬diagnostic.Names source setting.key

/-- One warning in the draft is about the setting. -/
def ToldOnce (source : String) (draft : SettingsDraft) (setting : Setting) : Prop :=
  Once (Diagnostic.Names source setting.key) draft.diagnostics

variable {source : String} {setting : Setting} {raw : Value} {diagnostic : Diagnostic}

theorem names_of_refusal? (h : setting.refusal? source raw = some diagnostic) :
    setting.IsReported ∧ diagnostic.Names source setting.key := by
  cases setting with
  | indentWidth =>
      obtain rfl := Option.some.inj h
      refine ⟨.inl rfl, rfl, "invalid", raw.shown ++ (" (expected an integer between 1 and " ++
        (toString maxIndentWidth ++ ")")), by decide, ?_⟩
      simp [SettingsDraft.indentWarning, key, ← String.toList_inj]
  | identifierScope =>
      obtain rfl := Option.some.inj h
      refine ⟨.inr rfl, rfl, "unknown", (raw.text?.map Text.quoted).getD Value.null.shown ++
        (" (expected one of: " ++ (Labelled.choices ScopeMode ++ ")")), by decide, ?_⟩
      simp [SettingsDraft.scopeWarning, key, ← String.toList_inj]
  | defaultName => cases h
  | defaultDescription => cases h

end Setting

namespace SettingsDraft

/-- What is told about a setting in a table. -/
def told (source : String) (table : Table) (setting : Setting) : Option Diagnostic :=
  (table.get? setting.key).bind fun raw => setting.warning? source raw

variable {source : String} {table data : Table} {file : Option String} {setting : Setting}
  {diagnostic : Diagnostic}

theorem told_eq_some_iff :
    told source table setting = some diagnostic ↔ ∃ raw, table.get? setting.key = some raw ∧
      setting.value? raw = none ∧ setting.refusal? source raw = some diagnostic := by
  simp [told, Option.bind_eq_some_iff, Setting.warning?]

theorem names_of_told (h : told source table setting = some diagnostic) :
    diagnostic.Names source setting.key := by
  obtain ⟨raw, -, -, hrefusal⟩ := told_eq_some_iff.mp h
  exact (Setting.names_of_refusal? hrefusal).2

/-- What is told about one setting is not about another. -/
theorem not_names_of_told {other : Setting} (hother : other ≠ setting)
    (h : told source table other = some diagnostic) : ¬diagnostic.Names source setting.key :=
  fun hnames => hother (Setting.key_injective ((names_of_told h).key_eq hnames
    other.space_not_mem_key setting.space_not_mem_key))

theorem of_drafted (data : Table) (file : Option String) (setting : Setting) :
    setting.of (drafted data file) =
      ((data.subtable SettingsKey.section_).get? setting.key).bind setting.value? := by
  generalize htable : data.subtable SettingsKey.section_ = table
  cases setting with
  | indentWidth =>
      simp only [Setting.of, drafted, givenWidth, Setting.key, htable]
      cases table.get? SettingsKey.indentWidth <;> rfl
  | identifierScope =>
      simp only [Setting.of, drafted, givenScope, Setting.key, htable, Table.string?_eq_bind]
      cases table.get? SettingsKey.identifierScope <;> rfl
  | defaultName =>
      simp only [Setting.of, drafted, Setting.key, htable, Table.string?_eq_bind]
      cases table.get? SettingsKey.defaultName <;> rfl
  | defaultDescription =>
      simp only [Setting.of, drafted, Setting.key, htable, Table.string?_eq_bind]
      cases table.get? SettingsKey.defaultDescription <;> rfl

theorem widthWarnings_eq (source : String) (table : Table) :
    widthWarnings source table = (told source table .indentWidth).toList := by
  rw [widthWarnings, told, givenWidth, Setting.key]
  cases table.get? SettingsKey.indentWidth with
  | none => rfl
  | some raw =>
      simp only [Option.bind_some, Setting.warning?, Setting.value?, Option.map_eq_none_iff]
      cases raw.number?.filter (IsWidth ·) <;> rfl

theorem scopeWarnings_eq (source : String) (table : Table) :
    scopeWarnings source table = (told source table .identifierScope).toList := by
  rw [scopeWarnings, told, givenScope, Setting.key, Table.hasKey_eq_isSome, Table.string?_eq_bind]
  cases table.get? SettingsKey.identifierScope with
  | none => rfl
  | some raw =>
      simp only [Option.bind_some, Setting.warning?, Setting.value?, Option.map_eq_none_iff]
      cases raw.text?.bind (Labelled.ofText? (α := ScopeMode)) <;> rfl

theorem told_of_not_isReported (h : ¬setting.IsReported) : told source table setting = none := by
  rw [Option.eq_none_iff_forall_ne_some]
  intro diagnostic htold
  obtain ⟨raw, -, -, hrefusal⟩ := told_eq_some_iff.mp htold
  exact h (Setting.names_of_refusal? hrefusal).1

theorem exists_told_of_isReported {raw : Value} (h : setting.IsReported)
    (hraw : table.get? setting.key = some raw) (hvalue : setting.value? raw = none) :
    ∃ diagnostic, told source table setting = some diagnostic := by
  simp only [told_eq_some_iff, hraw, Option.some.injEq]
  rcases h with rfl | rfl <;> exact ⟨_, raw, rfl, hvalue, rfl⟩

/-- A draft holds what is told about its settings, and nothing else. -/
theorem diagnostics_drafted (data : Table) (file : Option String) :
    (drafted data file).diagnostics = Setting.all.filterMap
      (told (file.getD "<dict>") (data.subtable SettingsKey.section_)) := by
  have hname : ¬Setting.defaultName.IsReported := by decide
  have hdescription : ¬Setting.defaultDescription.IsReported := by decide
  rw [List.filterMap_eq_flatMap_toList]
  simp [drafted, widthWarnings_eq, scopeWarnings_eq, Setting.all, told_of_not_isReported hname,
    told_of_not_isReported hdescription]

theorem untold_drafted
    (h : told (file.getD "<dict>") (data.subtable SettingsKey.section_) setting = none) :
    setting.Untold (file.getD "<dict>") (drafted data file) := by
  intro diagnostic hdiagnostic
  rw [diagnostics_drafted] at hdiagnostic
  obtain ⟨other, -, hother⟩ := List.mem_filterMap.mp hdiagnostic
  refine not_names_of_told ?_ hother
  rintro rfl
  cases h.symm.trans hother

theorem toldOnce_drafted
    (h : told (file.getD "<dict>") (data.subtable SettingsKey.section_) setting = some diagnostic) :
    setting.ToldOnce (file.getD "<dict>") (drafted data file) := by
  rw [Setting.ToldOnce, diagnostics_drafted]
  exact once_filterMap (by decide) setting.mem_all h (names_of_told h)
    fun other hother found hfound => not_names_of_told hother hfound

/-- What becomes of the settings in a table that gives a draft. A value of use is in the draft, and nothing is
told about it. A value of no use leaves its setting open: for a width and a scope that is told once, with
the source and the key; for a name and a description it is not told. Nothing else is told, and what the table
does not have is open. -/
theorem settings_reported {draft : SettingsDraft} (h : ofTable data file = .ok draft) :
    (∀ (setting : Setting) (raw : Value),
      (data.subtable SettingsKey.section_).get? setting.key = some raw →
        (∃ value, setting.value? raw = some value ∧ setting.of draft = some value ∧
          setting.Untold (file.getD "<dict>") draft) ∨
        setting.value? raw = none ∧ setting.of draft = none ∧
          if setting.IsReported then setting.ToldOnce (file.getD "<dict>") draft
          else setting.Untold (file.getD "<dict>") draft) ∧
    (∀ setting : Setting, (data.subtable SettingsKey.section_).get? setting.key = none →
      setting.of draft = none ∧ setting.Untold (file.getD "<dict>") draft) ∧
    ∀ diagnostic ∈ draft.diagnostics, ∃ setting : Setting, setting.IsReported ∧
      setting.of draft = none ∧ diagnostic.Names (file.getD "<dict>") setting.key := by
  obtain ⟨-, rfl⟩ := ofTable_eq_ok_iff.mp h
  refine ⟨fun setting raw hraw => ?_, fun setting hmissing => ⟨?_, untold_drafted ?_⟩,
    fun diagnostic hdiagnostic => ?_⟩
  · have hof : setting.of (drafted data file) = setting.value? raw := by
      rw [of_drafted, hraw, Option.bind_some]
    rw [hof]
    cases hvalue : setting.value? raw with
    | some value =>
        refine .inl ⟨value, rfl, rfl, untold_drafted ?_⟩
        rw [told, hraw, Option.bind_some, Setting.warning?, hvalue, if_neg (by simp)]
    | none =>
        refine .inr ⟨rfl, rfl, ?_⟩
        split
        · rename_i hreported
          obtain ⟨diagnostic, htold⟩ := exists_told_of_isReported hreported hraw hvalue
          exact toldOnce_drafted htold
        · rename_i hsilent
          exact untold_drafted (told_of_not_isReported hsilent)
  · rw [of_drafted, hmissing, Option.bind_none]
  · rw [told, hmissing, Option.bind_none]
  · rw [diagnostics_drafted] at hdiagnostic
    obtain ⟨setting, -, htold⟩ := List.mem_filterMap.mp hdiagnostic
    obtain ⟨raw, hraw, hvalue, hrefusal⟩ := told_eq_some_iff.mp htold
    refine ⟨setting, (Setting.names_of_refusal? hrefusal).1, ?_, names_of_told htold⟩
    rw [of_drafted, hraw, Option.bind_some, hvalue]

/-- Settings of no use but one: a number in the place of a text is written out. -/
def uselessTable : Table :=
  [(SettingsKey.section_, .table [(SettingsKey.indentWidth, .int 40),
    (SettingsKey.defaultName, .array [.string "Shop"]), (SettingsKey.defaultDescription, .int 3)])]

/-- An array in the place of the name is ignored in silence, a width that is too large is not. -/
theorem listed_name_unreported :
    ∃ draft, ofTable uselessTable (some "c4dsl.toml") = .ok draft ∧
      Setting.defaultName.of draft = none ∧ Setting.defaultName.Untold "c4dsl.toml" draft ∧
      Setting.indentWidth.of draft = none ∧ Setting.indentWidth.ToldOnce "c4dsl.toml" draft ∧
      Setting.defaultDescription.of draft = some (.text "3") ∧
      Setting.defaultDescription.Untold "c4dsl.toml" draft := by
  have hok : (ofTable uselessTable (some "c4dsl.toml")).isOk = true := by
    decide +kernel
  obtain ⟨draft, hdraft⟩ := Outcome.exists_eq_ok_of_isOk hok
  obtain ⟨hpresent, -, -⟩ := settings_reported hdraft
  obtain ⟨-, hname, hsilent⟩ := (hpresent .defaultName (.array [.string "Shop"]) rfl).resolve_left nofun
  have hwide : Setting.indentWidth.value? (.int 40) = none := by
    decide
  obtain ⟨-, hwidth, htold⟩ := (hpresent .indentWidth (.int 40) rfl).resolve_left fun h => by
    obtain ⟨value, hvalue, -⟩ := h
    cases hwide.symm.trans hvalue
  obtain ⟨value, hvalue, hdescription, huntold⟩ :=
    (hpresent .defaultDescription (.int 3) rfl).resolve_right nofun
  obtain rfl := Option.some.inj (hvalue.symm.trans rfl)
  exact ⟨draft, hdraft, hname, hsilent, hwidth, htold, hdescription, huntold⟩

end SettingsDraft

end C4Model
