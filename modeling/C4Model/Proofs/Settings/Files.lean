import C4Model.Proofs.Settings.Table
import C4Model.Settings.Discovery

/-! Files of settings, whatever bytes they hold. A file counts as the table that its text describes; one that
is malformed or cannot be opened counts as an empty one, and nothing more than a line of the log tells them
apart. Only a file that is not in UTF-8, one with a clash, and a table with a number that can neither be read
nor written end the loading. -/

namespace C4Model

open Files Logging Outcome

variable {ε α β : Type}

namespace Logging

/-- The outcome of the computation and what it logs, whatever was logged before. -/
def Comes (computation : Logged ε α) (outcome : Except ε α) : Prop :=
  ∃ records, ∀ before, computation.run.run before = (outcome, before ++ records)

theorem Comes.pure (value : α) : Comes (Pure.pure value : Logged ε α) (.ok value) :=
  ⟨[], fun before => by rw [List.append_nil]; rfl⟩

theorem Comes.throw (error : ε) : Comes (MonadExcept.throw error : Logged ε α) (.error error) :=
  ⟨[], fun before => by rw [List.append_nil]; rfl⟩

theorem Comes.logAll (records : List Record) : Comes (Logging.logAll records : Logged ε Unit) (.ok ()) :=
  ⟨records, fun _ => rfl⟩

/-- Leaving the log aside, one step after another is what it is without a log. -/
theorem Comes.bind {first : Logged ε α} {next : α → Logged ε β} {outcome : Except ε α}
    {result : α → Except ε β} (hfirst : Comes first outcome)
    (hnext : ∀ value, Comes (next value) (result value)) :
    Comes (first >>= next) (outcome >>= result) := by
  obtain ⟨records, hfirst⟩ := hfirst
  cases outcome with
  | error error =>
      refine ⟨records, fun before => ?_⟩
      rw [ExceptT.run_bind, StateT.run_bind, hfirst]
      rfl
  | ok value =>
      obtain ⟨further, hnext⟩ := hnext value
      refine ⟨records ++ further, fun before => ?_⟩
      rw [ExceptT.run_bind, StateT.run_bind, hfirst, ← List.append_assoc]
      exact hnext _

end Logging

namespace SettingsFile

variable {tree : FileTree} {path : Path}

/-- The table that a file counts as. -/
def counted (tree : FileTree) (path : Path) : Except SettingsError Table :=
  match tree.readText path with
  | .ok text =>
      match Toml.read text with
      | .ok table => .ok table
      | .error .malformed => .ok []
      | .error (.clash clash) => .error (.clash clash)
  | .error (.file _) => .ok []
  | .error .notUtf8 => .error .notUtf8

theorem comes_table (tree : FileTree) (path : Path) : Comes (table tree path) (counted tree path) := by
  rw [table, counted]
  rcases tree.readText path with (fault | -) | text
  · exact .bind (.logAll _) fun _ => .pure []
  · exact .throw _
  · dsimp only
    rcases Toml.read text with (- | clash) | table
    · exact .bind (.logAll _) fun _ => .pure []
    · exact .throw _
    · exact .pure table

/-- The bytes of the file are no text. -/
def NotUtf8 (tree : FileTree) (path : Path) : Prop :=
  tree.readText path = .error .notUtf8

theorem notUtf8_iff :
    NotUtf8 tree path ↔ ∃ content, tree.read path = .ok content ∧ String.fromUTF8? content = none := by
  rw [NotUtf8, FileTree.readText]
  cases hcontent : tree.read path with
  | error error => simp [Except.mapError, bind, Except.bind]
  | ok content =>
      cases htext : String.fromUTF8? content <;>
        simp [Except.mapError, bind, Except.bind, decode?, htext, throw, throwThe, MonadExceptOf.throw, pure,
          Except.pure]

/-- The file holds a text that is malformed. -/
def Malformed (tree : FileTree) (path : Path) : Prop :=
  ∃ text, tree.readText path = .ok text ∧ Toml.read text = .error .malformed

/-- The file holds a text in which something is defined twice. -/
def Clashes (tree : FileTree) (path : Path) : Prop :=
  ∃ text clash, tree.readText path = .ok text ∧ Toml.read text = .error (.clash clash)

/-- The file holds a text that describes a table. -/
def Describes (tree : FileTree) (path : Path) (data : Table) : Prop :=
  ∃ text, tree.readText path = .ok text ∧ Toml.read text = .ok data

theorem counted_of_describes {data : Table} (h : Describes tree path data) :
    counted tree path = .ok data := by
  obtain ⟨text, htext, hread⟩ := h
  simp only [counted, htext, hread]

/-- The text of the file describes a table, or the file counts as an empty one. -/
theorem describes_or_eq_nil {data : Table} (h : counted tree path = .ok data) :
    Describes tree path data ∨ data = [] := by
  rw [counted] at h
  split at h
  case h_1 text htext =>
    split at h
    case h_1 table hread =>
      obtain rfl := Except.ok.inj h
      exact Or.inl ⟨text, htext, hread⟩
    case h_2 => exact Or.inr (Except.ok.inj h).symm
    case h_3 => cases h
  case h_2 => exact Or.inr (Except.ok.inj h).symm
  case h_3 => cases h

theorem counted_of_malformed (h : Malformed tree path) : counted tree path = .ok [] := by
  obtain ⟨text, htext, hread⟩ := h
  simp only [counted, htext, hread]

theorem exists_counted_eq_error_iff :
    (∃ error, counted tree path = .error error) ↔ NotUtf8 tree path ∨ Clashes tree path := by
  rw [counted, NotUtf8, Clashes]
  rcases tree.readText path with (fault | -) | text
  · simp
  · simp
  · rcases hread : Toml.read text with (- | clash) | table <;> simp [hread]

end SettingsFile

namespace SettingsDraft

open SettingsFile

variable {tree : FileTree} {path : Path}

/-- The draft that a file comes to, if it holds settings. -/
def layer (tree : FileTree) (path : Path) : Except SettingsError (Option SettingsDraft) := do
  match settingsTable? path (← counted tree path) with
  | some table => return some (← (ofTable table (some path.text)).mapError .numeral)
  | none => return none

theorem comes_logOfTable (data : Table) (file : Option String) :
    Comes (logOfTable data file) ((ofTable data file).mapError .numeral) := by
  rw [logOfTable]
  rcases ofTable data file with fault | draft
  · exact .bind (.logAll _) fun _ => .throw _
  · exact .bind (.logAll _) fun _ => .pure draft

theorem comes_ofFile (tree : FileTree) (path : Path) : Comes (ofFile tree path) (layer tree path) := by
  refine .bind (comes_table tree path) fun data => ?_
  cases settingsTable? path data with
  | none => exact .pure none
  | some table => exact .bind (comes_logOfTable table _) fun draft => .pure (some draft)

/-- Files are merged draft by draft, and the first one whose draft cannot be had ends it. -/
theorem comes_mergeFiles (tree : FileTree) (lower : SettingsDraft) (paths : List Path) :
    Comes (mergeFiles tree lower paths)
      ((paths.mapM (layer tree)).map fun drafts => drafts.reduceOption.foldl mergeWith lower) := by
  induction paths generalizing lower with
  | nil => exact .pure lower
  | cons path rest ih =>
      have hfile : Comes (mergeFile tree lower path)
          (layer tree path >>= fun draft => pure ((draft.map lower.mergeWith).getD lower)) := by
        refine .bind (comes_ofFile tree path) fun draft => ?_
        cases draft <;> exact .pure _
      have hrest : (((path :: rest).mapM (layer tree)).map fun drafts =>
            drafts.reduceOption.foldl mergeWith lower) =
          (layer tree path >>= fun draft => pure ((draft.map lower.mergeWith).getD lower)) >>=
            fun merged => (rest.mapM (layer tree)).map fun drafts =>
              drafts.reduceOption.foldl mergeWith merged := by
        rw [List.mapM_cons]
        rcases layer tree path with error | draft
        · rfl
        · rcases rest.mapM (layer tree) with error | drafts
          · rfl
          · cases draft <;> rfl
      rw [mergeFiles, List.foldlM_cons, hrest]
      exact .bind hfile fun merged => ih merged

/-- Nothing in the file ends the loading of settings: its text is in UTF-8 and defines nothing twice, and the
settings in it are readable. -/
structure Fit (tree : FileTree) (path : Path) : Prop where
  utf8 : ¬NotUtf8 tree path
  plain : ¬Clashes tree path
  readable : ∀ data table, Describes tree path data → settingsTable? path data = some table →
    Readable (table.subtable SettingsKey.section_)

/-- No settings are readable ones. -/
theorem readable_of_empty {table : Table} (h : settingsTable? path [] = some table) :
    Readable (table.subtable SettingsKey.section_) := by
  rw [settingsTable?] at h
  split at h
  case isTrue => cases h
  case isFalse =>
    obtain rfl := Option.some.inj h
    exact ⟨nofun, nofun⟩

/-- A file comes to a draft, or to none, exactly if nothing in it ends the loading. -/
theorem exists_layer_iff : (∃ draft, layer tree path = .ok draft) ↔ Fit tree path := by
  constructor
  · rintro ⟨draft, hdraft⟩
    obtain ⟨data, hdata, hlayer⟩ := bind_eq_ok_iff.mp hdraft
    have hcounted : ¬∃ error, counted tree path = .error error := by
      rintro ⟨error, herror⟩
      cases hdata.symm.trans herror
    rw [exists_counted_eq_error_iff, not_or] at hcounted
    refine ⟨hcounted.1, hcounted.2, fun other table hother htable => ?_⟩
    obtain rfl := Except.ok.inj (hdata.symm.trans (counted_of_describes hother))
    rw [htable] at hlayer
    obtain ⟨found, hfound, -⟩ := bind_eq_ok_iff.mp hlayer
    exact exists_ofTable_iff.mp ⟨found, mapError_eq_ok_iff.mp hfound⟩
  · intro hfit
    cases hcounted : counted tree path with
    | error error =>
        exact ((exists_counted_eq_error_iff.mp ⟨error, hcounted⟩).elim hfit.utf8 hfit.plain).elim
    | ok data =>
        cases htable : settingsTable? path data with
        | none =>
            refine ⟨none, bind_eq_ok_iff.mpr ⟨data, hcounted, ?_⟩⟩
            rw [htable]
            rfl
        | some table =>
            have hreadable : Readable (table.subtable SettingsKey.section_) := by
              rcases describes_or_eq_nil hcounted with hdescribes | rfl
              · exact hfit.readable data table hdescribes htable
              · exact readable_of_empty htable
            obtain ⟨draft, hdraft⟩ := exists_ofTable_iff.mpr hreadable
            refine ⟨some draft, bind_eq_ok_iff.mpr ⟨data, hcounted, ?_⟩⟩
            rw [htable]
            exact bind_eq_ok_iff.mpr ⟨draft, mapError_eq_ok_iff.mpr hdraft, rfl⟩

/-- A malformed file never ends the loading. -/
theorem fit_of_malformed (h : Malformed tree path) : Fit tree path := by
  obtain ⟨text, htext, hread⟩ := h
  refine ⟨fun hutf8 => ?_, ?_, ?_⟩
  · cases htext.symm.trans hutf8
  · rintro ⟨other, clash, hother, hclash⟩
    obtain rfl := Except.ok.inj (htext.symm.trans hother)
    cases hread.symm.trans hclash
  · rintro data table ⟨other, hother, hdata⟩
    obtain rfl := Except.ok.inj (htext.symm.trans hother)
    cases hread.symm.trans hdata

/-- A malformed file comes to the draft that it would come to if it were empty. -/
theorem layer_of_malformed {other : FileTree} (h : Malformed tree path)
    (hempty : other.readText path = .ok "") : layer tree path = layer other path := by
  have hother : Describes other path [] := ⟨"", hempty, rfl⟩
  rw [layer, layer, counted_of_malformed h, counted_of_describes hother]

/-- Reading the settings of a file fails exactly if something in it ends the loading. -/
theorem exists_layer_eq_error_iff : (∃ error, layer tree path = .error error) ↔ ¬Fit tree path := by
  rw [← exists_layer_iff]
  cases layer tree path <;> simp

/-- The drafts of files can be had exactly if nothing in any of them ends the loading. -/
theorem exists_layers_iff {paths : List Path} :
    (∃ drafts, paths.mapM (layer tree) = .ok drafts) ↔ ∀ path ∈ paths, Fit tree path := by
  simp only [exists_mapM_eq_ok_iff, exists_layer_iff]

/-- What comes of a file, whatever bytes it holds. A malformed one is logged and taken for an empty one. -/
structure Treated (tree : FileTree) (path : Path) : Prop where
  bytes : NotUtf8 tree path ↔ ∃ content, tree.read path = .ok content ∧ String.fromUTF8? content = none
  table : Comes (SettingsFile.table tree path) (counted tree path)
  draft : Comes (ofFile tree path) (layer tree path)
  notRead : (∃ error, counted tree path = .error error) ↔ NotUtf8 tree path ∨ Clashes tree path
  notFit : (∃ error, layer tree path = .error error) ↔ ¬Fit tree path
  logged : Malformed tree path → ∀ before, (SettingsFile.table tree path).run.run before =
    (.ok [], before ++ [⟨error, "Error decoding TOML from " ++ path.text ++ ": " ++ malformedText⟩])
  emptied : Malformed tree path → Fit tree path ∧
    ∀ other : FileTree, other.readText path = .ok "" → layer tree path = layer other path

theorem treated (tree : FileTree) (path : Path) : Treated tree path where
  bytes := notUtf8_iff
  table := comes_table tree path
  draft := comes_ofFile tree path
  notRead := exists_counted_eq_error_iff
  notFit := exists_layer_eq_error_iff
  logged := by
    rintro ⟨text, htext, hread⟩ before
    rw [SettingsFile.table, htext]
    dsimp only
    rw [hread]
    rfl
  emptied h := ⟨fit_of_malformed h, fun _ hother => layer_of_malformed h hother⟩

end SettingsDraft

end C4Model
