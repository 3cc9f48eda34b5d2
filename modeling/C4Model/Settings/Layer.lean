import C4Model.Document.Lookup
import C4Model.Settings.Basic

/-! Settings read from tables. A value that cannot be used is left out with a warning, so that the value of
the layer below stays in force. -/

namespace C4Model

namespace SettingsKey

/-- The table that holds the settings. -/
def section_ : String := "serializer"

def indentWidth : String := "indent_width"
def identifierScope : String := "identifier_scope"
def defaultName : String := "default_name"
def defaultDescription : String := "default_description"

end SettingsKey

/-- Blocks are indented by at most so many spaces. -/
def maxIndentWidth : Int := 16

namespace SettingsDraft

def indentWarning (source : String) (raw : Value) : Diagnostic :=
  ⟨.warning, source ++ ": ignoring invalid " ++ SettingsKey.indentWidth ++ " " ++ raw.shown
    ++ " (expected an integer between 1 and " ++ toString maxIndentWidth ++ ")"⟩

def scopeWarning (source : String) (raw : Option String) : Diagnostic :=
  ⟨.warning, source ++ ": ignoring unknown " ++ SettingsKey.identifierScope ++ " "
    ++ (raw.map Text.quoted).getD Value.null.shown ++ " (expected one of: "
    ++ Labelled.choices ScopeMode ++ ")"⟩

/-- Whether blocks can be indented by so many spaces. -/
def IsWidth (width : Int) : Prop :=
  0 < width ∧ width ≤ maxIndentWidth

instance (width : Int) : Decidable (IsWidth width) :=
  inferInstanceAs (Decidable (0 < width ∧ width ≤ maxIndentWidth))

/-- No width and a warning that shows what is of no use, if that can be shown. -/
def refuseIndent (source : String) (raw : Value) :
    Except NumeralError (Option Int × List Diagnostic) :=
  if raw.writable then .ok (none, [indentWarning source raw]) else .error .tooLarge

/-- The width that a table sets, and a warning if it is of no use. -/
def readIndent (source : String) (table : Table) :
    Except NumeralError (Option Int × List Diagnostic) :=
  match table.get? SettingsKey.indentWidth with
  | none => .ok (none, [])
  | some raw => do
      match ← table.int? SettingsKey.indentWidth with
      | some width =>
          if IsWidth width then return (some width, []) else refuseIndent source raw
      | none => refuseIndent source raw

/-- The scope that a table sets, and a warning if there is no such scope. -/
def readScope (source : String) (table : Table) :
    Except NumeralError (Option ScopeMode × List Diagnostic) :=
  if table.hasKey SettingsKey.identifierScope then do
    let raw ← table.text? SettingsKey.identifierScope
    match raw.bind Labelled.ofText? with
    | some mode => return (some mode, [])
    | none => return (none, [scopeWarning source raw])
  else .ok (none, [])

/-- The draft that a table describes, and where it comes from if it is a file. -/
def ofTable (data : Table) (file : Option String) : Except NumeralError SettingsDraft := do
  let source := file.getD "<dict>"
  let table := data.subtable SettingsKey.section_
  let (indentWidth, indentWarnings) ← readIndent source table
  let (identifierScope, scopeWarnings) ← readScope source table
  let defaultName ← table.text? SettingsKey.defaultName
  let defaultDescription ← table.text? SettingsKey.defaultDescription
  return {
    indentWidth
    identifierScope
    defaultName
    defaultDescription
    sources := file.toList.map .file
    diagnostics := indentWarnings ++ scopeWarnings }

/-- What reading a table warns of, also if there is a number further on that ends the reading. -/
def warningsOf (data : Table) (file : Option String) : List Diagnostic :=
  let source := file.getD "<dict>"
  let table := data.subtable SettingsKey.section_
  match readIndent source table with
  | .error _ => []
  | .ok (_, indentWarnings) =>
      match readScope source table with
      | .error _ => indentWarnings
      | .ok (_, scopeWarnings) => indentWarnings ++ scopeWarnings

end SettingsDraft

/-- The table that describes settings. -/
def Settings.toTable (settings : Settings) : Table :=
  [(SettingsKey.section_, .table [
    (SettingsKey.indentWidth, .int settings.indentWidth),
    (SettingsKey.identifierScope, .string settings.identifierScope.label),
    (SettingsKey.defaultName, .string settings.defaultName),
    (SettingsKey.defaultDescription, .string settings.defaultDescription)])]

namespace SettingsDraft

/-- The draft in which all settings are the defaults. -/
def defaults : SettingsDraft :=
  { ({} : Settings).thaw with sources := [.defaults] }

/-- The values that are given. Null is no value. -/
def given (values : Table) : Table :=
  values.filter fun entry => match entry.2 with
    | .null => false
    | _ => true

/-- Puts a layer of overriding values on top, which come from no file. -/
def override (draft : SettingsDraft) (values : Table) : Except NumeralError SettingsDraft := do
  let layer ← ofTable [(SettingsKey.section_, .table (given values))] none
  return { draft.mergeWith layer with sources := draft.sources }

end SettingsDraft

end C4Model
