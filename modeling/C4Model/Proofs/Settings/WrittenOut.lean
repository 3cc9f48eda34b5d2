import C4Model.Proofs.Settings.Table

/-! Settings written out as a table and read again. A table that is put under a section is found there, whatever
the section is called, and a table that describes settings is read as these settings. Only a width of no use
does not come back: it is left out with a warning, or, if it is too large to be shown, it ends the reading. -/

namespace C4Model

open Outcome

namespace Table

theorem atPath?_nestAt (table : Table) (path : List String) :
    (table.nestAt path).atPath? path = some table := by
  induction path with
  | nil => rfl
  | cons key rest ih =>
      have hentry : Table.get? [(key, .table (table.nestAt rest))] key =
          some (.table (table.nestAt rest)) := by simp [get?]
      rw [nestAt, atPath?, hentry]
      exact ih

/-- What is put under a section is found there. -/
theorem section?_nestUnder (table : Table) (name : String) :
    (table.nestUnder name).section? name = some table :=
  table.atPath?_nestAt _

end Table

namespace SettingsDraft

variable (settings : Settings) (file : Option String) (source : String)

/-- Where the table of settings has what they are. -/
def writtenSection : Table :=
  settings.toTable.subtable SettingsKey.section_

theorem readIndent_writtenSection : readIndent source (writtenSection settings) =
    if IsWidth settings.indentWidth then .ok (some settings.indentWidth, [])
    else refuseIndent source (.int settings.indentWidth) := rfl

theorem readScope_writtenSection :
    readScope source (writtenSection settings) = .ok (some settings.identifierScope, []) := by
  have hscope : ∀ mode : ScopeMode, Labelled.ofText? mode.label = some mode := by
    intro mode
    cases mode <;> decide +kernel
  have htext : (writtenSection settings).text? SettingsKey.identifierScope =
      .ok (some settings.identifierScope.label) := rfl
  have hkey : (writtenSection settings).hasKey SettingsKey.identifierScope = true := rfl
  rw [readScope, if_pos hkey, htext]
  simp only [bind, Except.bind, Option.bind_some, hscope]
  rfl

/-- All settings come back but for the width, of which reading makes what it can. -/
theorem ofTable_toTable : ofTable settings.toTable file =
    (readIndent (file.getD "<dict>") (writtenSection settings)).map fun (width, warnings) =>
      { settings.thaw with
        indentWidth := width, sources := file.toList.map .file, diagnostics := warnings } := by
  have hscope := readScope_writtenSection settings (file.getD "<dict>")
  have hname : (writtenSection settings).text? SettingsKey.defaultName =
      .ok (some settings.defaultName) := rfl
  have hdescription : (writtenSection settings).text? SettingsKey.defaultDescription =
      .ok (some settings.defaultDescription) := rfl
  rw [writtenSection] at hscope hname hdescription ⊢
  rw [ofTable]
  dsimp only
  rw [hscope, hname, hdescription]
  rcases readIndent (file.getD "<dict>") (settings.toTable.subtable SettingsKey.section_) with
    error | ⟨width, warnings⟩
  · rfl
  · simp [bind, Except.bind, Except.map, pure, Except.pure, Settings.thaw]

/-- What becomes of settings that are written out as a table and read again, from under any section. All of them
come back, and nothing is told. Of a width of no use one warning is left, with the default in its place, and
all else comes back; if the width has too many digits for a warning, the reading ends. Settings that are thawed
and frozen again are the same in all they have. -/
theorem written_settings_read_back (name : String) :
    (settings.toTable.nestUnder name).section? name = some settings.toTable ∧
    (ofTable settings.toTable file).map freeze =
      (if IsWidth settings.indentWidth then
        .ok { settings with sources := file.toList.map .file, diagnostics := [] }
      else if (Value.int settings.indentWidth).writable then
        .ok { settings with
          indentWidth := ({} : Settings).indentWidth
          sources := file.toList.map .file
          diagnostics := [indentWarning (file.getD "<dict>") (.int settings.indentWidth)] }
      else .error .tooLarge) ∧
    settings.thaw.freeze = settings := by
  refine ⟨Table.section?_nestUnder _ name, ?_, settings.freeze_thaw⟩
  rw [ofTable_toTable, readIndent_writtenSection, refuseIndent]
  split
  · rfl
  · split <;> rfl

/-- Settings with a width that no warning can show. -/
def overwide : Settings where
  indentWidth := leastBeyond numeralLimit
  identifierScope := .global
  defaultName := ""

/-- The width of these settings is not left out with a warning. -/
theorem overwide_unreadable :
    ¬IsWidth overwide.indentWidth ∧ (ofTable overwide.toTable none).map freeze = .error .tooLarge := by
  have hlarge : (numeralLimit : Int) < overwide.indentWidth :=
    Int.ofNat_lt.mpr (lt_leastBeyond numeralLimit)
  have hwide : ¬IsWidth overwide.indentWidth := by
    intro hwidth
    have hnarrow : overwide.indentWidth ≤ 16 := hwidth.2
    have hlimit : (numeralLimit : Int) = 4300 := rfl
    omega
  have hunwritable : ¬(Value.int overwide.indentWidth).writable = true := by
    rw [Value.writable_int_iff, overwide, Int.natAbs_natCast]
    exact Nat.lt_irrefl _
  obtain ⟨-, hread, -⟩ := written_settings_read_back overwide none "tool.c4dsl"
  rw [if_neg hwide, if_neg hunwritable] at hread
  exact ⟨hwide, hread⟩

end SettingsDraft

end C4Model
