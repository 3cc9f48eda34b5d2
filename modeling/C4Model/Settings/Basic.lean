import C4Model.Settings.Diagnostic
import C4Model.Text.Labelled

/-! The settings of the output, and drafts of settings. In a draft a setting may be missing; it then comes
from the layer below, and in the end from the defaults. -/

namespace C4Model

/-- Within what identifiers are unique: among the elements with one parent, or in the whole
workspace. -/
inductive ScopeMode where
  | hierarchical
  | global
  deriving DecidableEq

instance : Labelled ScopeMode where
  all := [.hierarchical, .global]
  label
    | .hierarchical => "hierarchical"
    | .global => "global"

def ScopeMode.label (mode : ScopeMode) : String :=
  Labelled.label mode

/-- Where settings come from. -/
inductive SettingsSource where
  | defaults
  | file (path : String)
  deriving DecidableEq

def SettingsSource.label : SettingsSource → String
  | .defaults => "<defaults>"
  | .file path => path

structure Settings where
  indentWidth : Int := 4
  identifierScope : ScopeMode := .hierarchical
  defaultName : String := "Name"
  defaultDescription : String := "Description"
  sources : List SettingsSource := []
  diagnostics : List Diagnostic := []
  deriving DecidableEq

structure SettingsDraft where
  indentWidth : Option Int := none
  identifierScope : Option ScopeMode := none
  defaultName : Option String := none
  defaultDescription : Option String := none
  sources : List SettingsSource := []
  diagnostics : List Diagnostic := []
  deriving DecidableEq

namespace SettingsDraft

/-- The settings of a draft, with the defaults for what is missing. -/
def freeze (draft : SettingsDraft) : Settings :=
  let base : Settings := {}
  { indentWidth := draft.indentWidth.getD base.indentWidth
    identifierScope := draft.identifierScope.getD base.identifierScope
    defaultName := draft.defaultName.getD base.defaultName
    defaultDescription := draft.defaultDescription.getD base.defaultDescription
    sources := draft.sources
    diagnostics := draft.diagnostics }

/-- The draft with the settings of a higher layer in place of its own. -/
def mergeWith (lower upper : SettingsDraft) : SettingsDraft where
  indentWidth := upper.indentWidth.or lower.indentWidth
  identifierScope := upper.identifierScope.or lower.identifierScope
  defaultName := upper.defaultName.or lower.defaultName
  defaultDescription := upper.defaultDescription.or lower.defaultDescription
  sources := lower.sources ++ upper.sources
  diagnostics := lower.diagnostics ++ upper.diagnostics

end SettingsDraft

/-- The draft in which every setting is present as it is. -/
def Settings.thaw (settings : Settings) : SettingsDraft where
  indentWidth := some settings.indentWidth
  identifierScope := some settings.identifierScope
  defaultName := some settings.defaultName
  defaultDescription := some settings.defaultDescription
  sources := settings.sources
  diagnostics := settings.diagnostics

theorem Settings.freeze_thaw (settings : Settings) : settings.thaw.freeze = settings := rfl

end C4Model
