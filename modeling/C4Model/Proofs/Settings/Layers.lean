import C4Model.Proofs.Settings.Table
import C4Model.Settings.Discovery

/-! Layers of settings: the files in order, and the overriding values on top. Every setting has the value of
the last layer that gives one, and each setting on its own. -/

namespace C4Model

open Files Logging Outcome

variable {α β : Type}

namespace SettingsDraft

/-- Drafts on top of each other may be put together in any grouping, and an empty one changes nothing. -/
instance : Std.Associative mergeWith where
  assoc lower middle upper := by
    simp [mergeWith, Option.or_assoc]

instance : Std.LawfulIdentity mergeWith {} where
  left_id draft := by simp [mergeWith]
  right_id draft := by simp [mergeWith]

/-- Of the values that some items have, one on top of the other, the last one stays. -/
theorem getLast?_filterMap_cons_or (value : β → Option α) (item : β) (rest : List β)
    (below : Option α) :
    ((item :: rest).filterMap value).getLast?.or below =
      (rest.filterMap value).getLast?.or ((value item).or below) := by
  cases hvalue : value item with
  | none => rw [List.filterMap_cons_none hvalue, Option.none_or]
  | some first =>
      rw [List.filterMap_cons_some hvalue, List.getLast?_cons, Option.some_or]
      cases (rest.filterMap value).getLast? <;> rfl

theorem foldl_mergeWith (lower : SettingsDraft) (drafts : List SettingsDraft) :
    drafts.foldl mergeWith lower =
      { indentWidth := (drafts.filterMap indentWidth).getLast?.or lower.indentWidth
        identifierScope := (drafts.filterMap identifierScope).getLast?.or lower.identifierScope
        defaultName := (drafts.filterMap defaultName).getLast?.or lower.defaultName
        defaultDescription := (drafts.filterMap defaultDescription).getLast?.or lower.defaultDescription
        sources := lower.sources ++ drafts.flatMap sources
        diagnostics := lower.diagnostics ++ drafts.flatMap diagnostics } := by
  induction drafts generalizing lower with
  | nil => simp
  | cons draft rest ih =>
      simp only [List.foldl_cons, ih, getLast?_filterMap_cons_or, List.flatMap_cons, mergeWith,
        List.append_assoc]

end SettingsDraft

namespace Logging

variable {ε : Type}

/-- The computation gives the value, whatever is logged before and by it. -/
def Gives (computation : Logged ε α) (value : α) : Prop :=
  ∀ before, ∃ after, computation.run.run before = (.ok value, after)

theorem Gives.pure (value : α) : Gives (Pure.pure value : Logged ε α) value :=
  fun before => ⟨before, rfl⟩

theorem Gives.bind {first : Logged ε α} {next : α → Logged ε β} {value : α} {result : β}
    (hfirst : Gives first value) (hnext : Gives (next value) result) : Gives (first >>= next) result := by
  intro before
  obtain ⟨between, hfirst⟩ := hfirst before
  obtain ⟨after, hnext⟩ := hnext between
  refine ⟨after, ?_⟩
  rw [ExceptT.run_bind, StateT.run_bind, hfirst]
  exact hnext

theorem Gives.logAll (records : List Record) : Gives (Logging.logAll records : Logged ε Unit) () :=
  fun before => ⟨before ++ records, rfl⟩

end Logging

/-- A table of settings, and the file it is from if it is from one. -/
structure SettingsLayer where
  data : Table
  file : Option String

namespace SettingsLayer

/-- The draft that the table describes, if it can be read. -/
def read (layer : SettingsLayer) : Except NumeralError SettingsDraft :=
  SettingsDraft.ofTable layer.data layer.file

/-- The table with the settings themselves. -/
def settings (layer : SettingsLayer) : Table :=
  layer.data.subtable SettingsKey.section_

/-- The layer of the values that override a draft. -/
def overriding (values : Table) : SettingsLayer :=
  ⟨SettingsDraft.overriding values, none⟩

end SettingsLayer

/-- The layers that files hold, in order. A shared file may hold none. -/
inductive HoldLayers (tree : FileTree) : List Path → List SettingsLayer → Prop
  | nil : HoldLayers tree [] []
  | skip {path : Path} {data : Table} {paths : List Path} {layers : List SettingsLayer}
      (hdata : Gives (SettingsFile.table tree path) data)
      (hnone : SettingsFile.settingsTable? path data = none) (hrest : HoldLayers tree paths layers) :
      HoldLayers tree (path :: paths) layers
  | cons {path : Path} {data settings : Table} {paths : List Path} {layers : List SettingsLayer}
      (hdata : Gives (SettingsFile.table tree path) data)
      (hsettings : SettingsFile.settingsTable? path data = some settings)
      (hrest : HoldLayers tree paths layers) :
      HoldLayers tree (path :: paths) (⟨settings, some path.text⟩ :: layers)

namespace SettingsDraft

variable {tree : FileTree} {path : Path} {data settings : Table}

theorem gives_logOfTable {file : Option String} {draft : SettingsDraft}
    (h : ofTable data file = .ok draft) : Gives (logOfTable data file) draft := by
  refine (Gives.logAll _).bind ?_
  rw [h]
  exact .pure draft

theorem gives_ofFile_none (hdata : Gives (SettingsFile.table tree path) data)
    (hnone : SettingsFile.settingsTable? path data = none) : Gives (ofFile tree path) none := by
  refine hdata.bind ?_
  rw [hnone]
  exact .pure none

theorem gives_ofFile_some {draft : SettingsDraft} (hdata : Gives (SettingsFile.table tree path) data)
    (hsettings : SettingsFile.settingsTable? path data = some settings)
    (hdraft : ofTable settings (some path.text) = .ok draft) : Gives (ofFile tree path) (some draft) := by
  refine hdata.bind ?_
  rw [hsettings]
  exact (gives_logOfTable hdraft).bind (.pure _)

theorem gives_mergeFile_none (hdata : Gives (SettingsFile.table tree path) data)
    (hnone : SettingsFile.settingsTable? path data = none) (lower : SettingsDraft) :
    Gives (mergeFile tree lower path) lower :=
  (gives_ofFile_none hdata hnone).bind (.pure lower)

theorem gives_mergeFile_some {draft : SettingsDraft} (hdata : Gives (SettingsFile.table tree path) data)
    (hsettings : SettingsFile.settingsTable? path data = some settings)
    (hdraft : ofTable settings (some path.text) = .ok draft) (lower : SettingsDraft) :
    Gives (mergeFile tree lower path) (lower.mergeWith draft) :=
  (gives_ofFile_some hdata hsettings hdraft).bind (.pure (lower.mergeWith draft))

/-- Files are merged layer by layer. -/
theorem gives_mergeFiles {paths : List Path} {layers : List SettingsLayer} {drafts : List SettingsDraft}
    (hlayers : HoldLayers tree paths layers)
    (hdrafts : List.Forall₂ (fun layer draft => layer.read = .ok draft) layers drafts)
    (lower : SettingsDraft) : Gives (mergeFiles tree lower paths) (drafts.foldl mergeWith lower) := by
  induction hlayers generalizing drafts lower with
  | nil =>
      cases hdrafts
      exact .pure lower
  | skip hdata hnone _ ih =>
      rw [mergeFiles, List.foldlM_cons]
      exact (gives_mergeFile_none hdata hnone lower).bind (ih hdrafts lower)
  | cons hdata hsettings _ ih =>
      cases hdrafts with
      | cons hdraft hrest =>
          rw [mergeFiles, List.foldlM_cons]
          exact (gives_mergeFile_some hdata hsettings hdraft lower).bind (ih hrest _)

/-- The value of the last layer that gives one. -/
def lastGiven (layers : List SettingsLayer) (given : Table → Option α) : Option α :=
  (layers.filterMap fun layer => given layer.settings).getLast?

theorem drafts_eq_map {layers : List SettingsLayer} {drafts : List SettingsDraft}
    (hdrafts : List.Forall₂ (fun layer draft => layer.read = .ok draft) layers drafts) :
    drafts = layers.map fun layer => drafted layer.data layer.file := by
  induction hdrafts with
  | nil => rfl
  | cons hdraft _ ih =>
      obtain ⟨-, rfl⟩ := ofTable_eq_ok_iff.mp hdraft
      rw [List.map_cons, ih]

/-- The drafts of layers have what the layers give. -/
theorem getLast?_drafts {layers : List SettingsLayer} {drafts : List SettingsDraft}
    (hdrafts : List.Forall₂ (fun layer draft => layer.read = .ok draft) layers drafts)
    (value : SettingsDraft → Option α) (given : Table → Option α)
    (hvalue : ∀ layer : SettingsLayer, value (drafted layer.data layer.file) = given layer.settings) :
    (drafts.filterMap value).getLast? = lastGiven layers given := by
  rw [drafts_eq_map hdrafts, List.filterMap_map, lastGiven]
  exact congrArg List.getLast? (List.filterMap_congr fun layer _ => hvalue layer)

theorem given_append_null (before after : Table) (key : String) :
    given (before ++ (key, .null) :: after) = given (before ++ after) := by
  simp [given]

/-- The settings that layers come to, with what their drafts warn of. -/
def settled (layers : List SettingsLayer) (drafts : List SettingsDraft) : Settings where
  indentWidth := (lastGiven layers givenWidth).getD 4
  identifierScope := (lastGiven layers givenScope).getD .hierarchical
  defaultName := (lastGiven layers (·.string? SettingsKey.defaultName)).getD "Name"
  defaultDescription := (lastGiven layers (·.string? SettingsKey.defaultDescription)).getD "Description"
  sources := .defaults :: layers.flatMap fun layer => layer.file.toList.map .file
  diagnostics := drafts.flatMap diagnostics

theorem freeze_foldl_mergeWith {layers : List SettingsLayer} {drafts : List SettingsDraft}
    (hdrafts : List.Forall₂ (fun layer draft => layer.read = .ok draft) layers drafts) :
    (drafts.foldl mergeWith defaults).freeze = settled layers drafts := by
  have hsources : drafts.flatMap sources = layers.flatMap fun layer => layer.file.toList.map .file := by
    rw [drafts_eq_map hdrafts, List.flatMap_map]
    rfl
  rw [foldl_mergeWith, hsources, getLast?_drafts hdrafts indentWidth givenWidth fun _ => rfl,
    getLast?_drafts hdrafts identifierScope givenScope fun _ => rfl,
    getLast?_drafts hdrafts defaultName (·.string? SettingsKey.defaultName) fun _ => rfl,
    getLast?_drafts hdrafts defaultDescription (·.string? SettingsKey.defaultDescription) fun _ => rfl]
  simp [freeze, settled, defaults, Settings.thaw]

/-- What layers of settings come to: the files that are found and those that are named, in order, and the
overriding values on top, which come from no file. Null among them is no value. -/
theorem freeze_layers {anchor : Option Path} {further : List Path} {values : Table}
    {layers : List SettingsLayer} {drafts : List SettingsDraft} {overlay : SettingsDraft}
    (hlayers : HoldLayers tree ((anchor.map (SettingsFile.discover tree)).getD [] ++ further) layers)
    (hdrafts : List.Forall₂ (fun layer draft => layer.read = .ok draft) layers drafts)
    (hoverlay : (SettingsLayer.overriding values).read = .ok overlay) :
    (∃ merged result, Gives (ofFiles tree anchor further) merged ∧ merged.override values = .ok result ∧
      result.freeze = settled (layers ++ [.overriding values]) (drafts ++ [overlay]) ∧
      result.sources = merged.sources) ∧
    (∀ lower before after key,
      override lower (before ++ (key, .null) :: after) = override lower (before ++ after)) ∧
    Std.Associative mergeWith ∧ Std.LawfulIdentity mergeWith {} := by
  refine ⟨⟨drafts.foldl mergeWith defaults, (drafts ++ [overlay]).foldl mergeWith defaults,
    gives_mergeFiles hlayers hdrafts defaults, ?_, ?_, ?_⟩, fun lower before after key => ?_,
    inferInstance, inferInstance⟩
  · obtain ⟨hreadable, rfl⟩ := ofTable_eq_ok_iff.mp hoverlay
    rw [List.foldl_concat]
    exact override_eq_ok_iff.mpr ⟨hreadable, rfl⟩
  · exact freeze_foldl_mergeWith (List.rel_append hdrafts (.cons hoverlay .nil))
  · obtain ⟨-, rfl⟩ := ofTable_eq_ok_iff.mp hoverlay
    rw [List.foldl_concat]
    exact List.append_nil _
  · rw [override, given_append_null, override]

end SettingsDraft

/-! ### The settings of a bookshop -/

namespace Bookshop

/-- What the shop shares among its tools. -/
def sharedText : String :=
  "[tool.c4dsl.serializer]\nindent_width = 2\ndefault_name = \"Shop\"\n"

/-- What the shop sets besides. Its width is of no use. -/
def ownText : String :=
  "[serializer]\nindent_width = 40\nidentifier_scope = \"global\"\n"

/-- A shared file without settings. -/
def otherText : String :=
  "[tool.other]\nwidth = 3\n"

def namelessText : String :=
  "[serializer]\ndefault_name = \"\"\n"

def sharedPath : Path := ⟨1, ["shop", "pyproject.toml"]⟩
def ownPath : Path := ⟨1, ["shop", "c4dsl.toml"]⟩
def otherPath : Path := ⟨1, ["other", "pyproject.toml"]⟩
def namelessPath : Path := ⟨1, ["nameless.toml"]⟩

def files : FileTree where
  home := ⟨1, ["shop"]⟩
  nodes := [(sharedPath.steps, .file sharedText.toUTF8), (ownPath.steps, .file ownText.toUTF8),
    (otherPath.steps, .file otherText.toUTF8), (namelessPath.steps, .file namelessText.toUTF8)]

/-- What a text holds. -/
def held (text : String) : Table :=
  (Toml.read text).toOption.getD []

theorem gives_held {path : Path} {text : String} (htext : files.readText path = .ok text)
    (hread : (Toml.read text).isOk = true) : Gives (SettingsFile.table files path) (held text) := by
  obtain ⟨table, htable⟩ := exists_eq_ok_of_isOk hread
  simp only [SettingsFile.table, htext, htable, held]
  exact .pure table

/-- The settings in the shared file. -/
def sharedTable : Table :=
  (SettingsFile.settingsTable? sharedPath (held sharedText)).getD []

/-- The layers of the shop. The other shared file holds none. -/
def layers : List SettingsLayer :=
  [⟨sharedTable, some sharedPath.text⟩, ⟨held ownText, some ownPath.text⟩,
    ⟨held namelessText, some namelessPath.text⟩]

theorem holdLayers_files : HoldLayers files [sharedPath, ownPath, otherPath, namelessPath] layers := by
  have hshared : Gives (SettingsFile.table files sharedPath) (held sharedText) :=
    gives_held (by decide +kernel) (by decide +kernel)
  have hown : Gives (SettingsFile.table files ownPath) (held ownText) :=
    gives_held (by decide +kernel) (by decide +kernel)
  have hother : Gives (SettingsFile.table files otherPath) (held otherText) :=
    gives_held (by decide +kernel) (by decide +kernel)
  have hnameless : Gives (SettingsFile.table files namelessPath) (held namelessText) :=
    gives_held (by decide +kernel) (by decide +kernel)
  have hsome : (SettingsFile.settingsTable? sharedPath (held sharedText)).isSome = true := by
    decide +kernel
  have hnone : (SettingsFile.settingsTable? otherPath (held otherText)).isNone = true := by
    decide +kernel
  obtain ⟨table, htable⟩ := Option.isSome_iff_exists.mp hsome
  have hsharedTable : SettingsFile.settingsTable? sharedPath (held sharedText) = some sharedTable := by
    rw [sharedTable, htable, Option.getD_some]
  refine .cons hshared hsharedTable (.cons hown (if_neg ?_) (.skip hother ?_
    (.cons hnameless (if_neg ?_) .nil)))
  · decide
  · exact Option.isNone_iff_eq_none.mp hnone
  · decide

/-- No width is asked for, but a description. -/
def asked : Table :=
  [(SettingsKey.indentWidth, .null), (SettingsKey.defaultDescription, .string "Books")]

theorem read_layers :
    ∀ layer ∈ layers ++ [.overriding asked], layer.read = .ok (.drafted layer.data layer.file) := by
  intro layer hlayer
  have hok : ((layers ++ [SettingsLayer.overriding asked]).all fun layer => layer.read.isOk) = true := by
    decide +kernel
  obtain ⟨draft, hdraft⟩ := exists_eq_ok_of_isOk (List.all_eq_true.mp hok layer hlayer)
  obtain ⟨-, rfl⟩ := SettingsDraft.ofTable_eq_ok_iff.mp hdraft
  exact hdraft

end Bookshop

namespace SettingsDraft

open Bookshop

/-- The shop's width is the one it shares, for its own is of no use and none is asked for; its name is empty,
as the last file has it. -/
theorem freeze_bookshop :
    ∃ merged result, Gives (ofFiles files (some ⟨1, ["shop"]⟩) [otherPath, namelessPath]) merged ∧
      merged.override asked = .ok result ∧
      result.freeze =
        { indentWidth := 2
          identifierScope := .global
          defaultName := ""
          defaultDescription := "Books"
          sources := [.defaults, .file "/shop/pyproject.toml", .file "/shop/c4dsl.toml",
            .file "/nameless.toml"]
          diagnostics := [indentWarning "/shop/c4dsl.toml" (.int 40)] } := by
  have hfound : SettingsFile.discover files ⟨1, ["shop"]⟩ = [sharedPath, ownPath] := by
    decide +kernel
  have hlayers : HoldLayers files
      (((some ⟨1, ["shop"]⟩ : Option Path).map (SettingsFile.discover files)).getD [] ++
        [otherPath, namelessPath]) layers := by
    rw [Option.map_some, hfound]
    exact holdLayers_files
  have hdrafts : List.Forall₂ (fun layer draft => layer.read = .ok draft) layers
      (layers.map fun layer => drafted layer.data layer.file) :=
    List.forall₂_map_right_iff.mpr (List.forall₂_same.mpr fun layer hlayer =>
      read_layers layer (List.mem_append_left _ hlayer))
  have hoverlay := read_layers (.overriding asked) (List.mem_append_right _ List.mem_cons_self)
  obtain ⟨⟨merged, result, hmerged, hresult, hfreeze, -⟩, -⟩ := freeze_layers hlayers hdrafts hoverlay
  refine ⟨merged, result, hmerged, hresult, hfreeze.trans ?_⟩
  decide +kernel

end SettingsDraft

end C4Model
