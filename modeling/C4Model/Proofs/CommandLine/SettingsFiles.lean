import C4Model.Proofs.Association
import C4Model.Proofs.CommandLine.Run
import C4Model.Proofs.Settings.Files

/-! Exports and the files with settings, whatever bytes these hold. A file that the user names is checked
before anything is read: if its text is malformed, the export fails. A malformed file that is found counts as
an empty one, and the export goes on. A file that is not in UTF-8 ends the export without a message in either
place, as does one that defines something twice or sets a number that can neither be read nor written. -/

namespace C4Model

open Files Logging Outcome SettingsFile SettingsDraft

namespace CommandLine

open Command

/-- The stop tells of settings that cannot be had. -/
def Stop.AboutSettings : Stop → Prop
  | .failure (.settingsMalformed _) => True
  | .failure (.settingsUnreadable _ _) => True
  | .unhandled (.settings _) => True
  | _ => False

namespace Export

variable {tree : FileTree} {path : Path}

theorem document_not_aboutSettings {surrogates : Surrogates} {settings : Settings} {input : Path}
    {stop : Stop} : document surrogates settings tree input = .error stop → ¬stop.AboutSettings := by
  rw [document]
  cases Blueprint.loadFile surrogates settings tree input with
  | ok workspace =>
      intro h
      change workspace.serialize.mapError _ = .error stop at h
      obtain ⟨error, -, rfl⟩ := mapError_eq_error_iff.mp h
      rcases error with error | error | error | error <;> exact id
  | error error =>
      rcases error with error | ⟨⟨⟩⟩
      all_goals
        intro h
        obtain rfl := Except.error.inj h
        exact id

theorem stopOfWrite_not_aboutSettings (path : Path) (error : WriteError) :
    ¬(stopOfWrite path error).AboutSettings := by
  cases error <;> exact id

theorem deliver_not_aboutSettings {session : Session} {output : Option Path} {text : String}
    {before after : Transcript} {stop : Stop}
    (h : (deliver session output text).result before = (.error stop, after)) : ¬stop.AboutSettings := by
  cases output with
  | none =>
      rw [result_deliver_none] at h
      split at h
      · cases h
      · obtain rfl := Except.error.inj (Prod.mk.inj h).1
        exact id
  | some path =>
      rw [result_deliver_some] at h
      split at h
      · cases h
      · obtain rfl := Except.error.inj (Prod.mk.inj h).1
        exact stopOfWrite_not_aboutSettings path _

theorem finish_not_aboutSettings {session : Session} {request : Request} {settings : Settings}
    {before after : Transcript} {stop : Stop}
    (h : (finish session request tree settings).result before = (.error stop, after)) :
    ¬stop.AboutSettings := by
  obtain h | ⟨_, _, -, h⟩ := result_bind_eq_error_iff.mp h
  · cases h
  obtain h | ⟨_, _, -, h⟩ := result_bind_eq_error_iff.mp h
  · exact document_not_aboutSettings (Prod.mk.inj h).1
  · exact deliver_not_aboutSettings h

theorem checkSettingsFile_eq_ok_iff :
    checkSettingsFile tree path = .ok () ↔ ∃ data, Describes tree path data := by
  rw [checkSettingsFile]
  simp only [Describes]
  rcases tree.readText path with (fault | -) | text
  · simp
  · simp
  · rcases hread : Toml.read text with (- | clash) | table <;> simp [hread]

theorem checkSettingsFile_malformed_iff {named : Path} :
    checkSettingsFile tree path = .error (.failure (.settingsMalformed named)) ↔
      path = named ∧ Malformed tree path := by
  rw [checkSettingsFile, Malformed]
  rcases tree.readText path with (fault | -) | text
  · simp
  · simp
  · rcases hread : Toml.read text with (- | clash) | table <;> simp [hread]

theorem checkSettingsFile_unhandled_iff :
    (∃ error, checkSettingsFile tree path = .error (.unhandled (.settings error))) ↔
      NotUtf8 tree path ∨ Clashes tree path := by
  rw [checkSettingsFile, NotUtf8, Clashes]
  rcases tree.readText path with (fault | -) | text
  · simp
  · simp
  · rcases hread : Toml.read text with (- | clash) | table <;> simp [hread]

/-- The file is looked at: those that are named before it all describe tables. -/
def Reached (tree : FileTree) (paths : List Path) (path : Path) : Prop :=
  ∃ front back, paths = front ++ path :: back ∧ ∀ other ∈ front, ∃ data, Describes tree other data

theorem checkSettingsFiles_eq_error_iff {paths : List Path} {stop : Stop} :
    paths.forM (checkSettingsFile tree) = .error stop ↔
      ∃ path, Reached tree paths path ∧ checkSettingsFile tree path = .error stop := by
  simp only [forM_eq_error_iff, checkSettingsFile_eq_ok_iff, Reached]
  constructor
  · rintro ⟨front, path, back, hpaths, hfront, hpath⟩
    exact ⟨path, ⟨front, back, hpaths, hfront⟩, hpath⟩
  · rintro ⟨path, ⟨front, back, hpaths, hfront⟩, hpath⟩
    exact ⟨front, path, back, hpaths, hfront, hpath⟩

theorem checkSettingsFiles_eq_ok_iff {paths : List Path} :
    paths.forM (checkSettingsFile tree) = .ok () ↔ ∀ path ∈ paths, ∃ data, Describes tree path data := by
  simp only [forM_eq_ok_iff, checkSettingsFile_eq_ok_iff]

/-- The files with settings, in the order in which they are merged: those that are found, and those that the
user names. -/
def Request.files (request : Request) (tree : FileTree) : List Path :=
  ((if request.discovers then some {} else none : Option Path).map (discover tree)).getD [] ++
    request.settingsFiles

/-- What the drafts of files come to with what the request puts on top of them. -/
def Request.settled (request : Request) (drafts : List (Option SettingsDraft)) : Settings :=
  ((drafts.reduceOption.foldl mergeWith defaults).mergeWith
    (drafted (overriding request.overrides) none)).freeze

theorem readOption_isWidth {scanned : Scanned} {request next : Request} {key : OptionKey}
    (h : readOption tree scanned request key = .ok next)
    (hwidth : ∀ width, request.indentWidth = some width → IsWidth width) :
    ∀ width, next.indentWidth = some width → IsWidth width := by
  unfold readOption at h
  split at h
  case h_5 text _ =>
    obtain ⟨width, hread, h⟩ := bind_eq_ok_iff.mp h
    obtain rfl := Except.ok.inj h
    rintro _ ⟨⟩
    rw [widthOf] at hread
    split at hread
    case h_1 => cases hread
    case h_2 number _ =>
      split at hread
      case isTrue hrange =>
        obtain rfl := Except.ok.inj hread
        exact hrange
      case isFalse => cases hread
  case h_3 | h_6 =>
    obtain rfl := Except.ok.inj h
    exact hwidth
  all_goals
    obtain ⟨_, -, h⟩ := bind_eq_ok_iff.mp h
    obtain rfl := Except.ok.inj h
    exact hwidth

/-- A width that is asked for on the command line is one by which blocks can be indented. -/
theorem Request.isWidth_of_ofScanned {scanned : Scanned} {request : Request}
    (h : Request.ofScanned tree scanned = .ok request) :
    ∀ width, request.indentWidth = some width → IsWidth width := by
  obtain ⟨folded, input, hfold, -, rfl⟩ := ofScanned_eq_ok h
  refine foldlM_keeps (P := fun request => ∀ width, request.indentWidth = some width → IsWidth width)
    (fun request key next hnext => ?_) hfold nofun
  exact readOption_isWidth (mapError_eq_ok_iff.mp hnext)

/-- What is put on top: a scope, which is a text, and a width. -/
theorem Request.mem_overrides {request : Request} {key : String} {value : Value}
    (h : request.overrides.get? key = some value) :
    key = SettingsKey.identifierScope ∧ (∃ text, value = .string text) ∨
      key = SettingsKey.indentWidth ∧ ∃ width, request.indentWidth = some width ∧ value = .int width := by
  rcases List.mem_append.mp (Association.mem_of_lookup h) with hmem | hmem
  · obtain ⟨mode, -, hentry⟩ := Option.map_eq_some_iff.mp (Option.mem_toList.mp hmem)
    obtain ⟨rfl, rfl⟩ := Prod.mk.inj hentry
    exact Or.inl ⟨rfl, _, rfl⟩
  · obtain ⟨width, hwidth, hentry⟩ := Option.map_eq_some_iff.mp (Option.mem_toList.mp hmem)
    obtain ⟨rfl, rfl⟩ := Prod.mk.inj hentry
    exact Or.inr ⟨rfl, width, hwidth, rfl⟩

/-- What is asked for on the command line can always be put on top of other settings. -/
theorem Request.readable_overrides {request : Request}
    (hwidth : ∀ width, request.indentWidth = some width → IsWidth width) :
    Readable (given request.overrides) := by
  have hgiven : given request.overrides = request.overrides := by
    rw [given, overrides]
    cases request.identifierScope <;> cases request.indentWidth <;> rfl
  rw [hgiven]
  constructor
  case width =>
    intro raw hraw
    rcases mem_overrides hraw with ⟨hkey, -⟩ | ⟨-, width, hasked, rfl⟩
    · exact absurd hkey (by decide)
    · exact ⟨trivial, writable_of_isWidth rfl (hwidth width hasked)⟩
  case text =>
    intro key hkey n hn
    rcases mem_overrides hn with ⟨-, text, htext⟩ | ⟨rfl, -⟩
    · cases htext
    · exact absurd hkey (by decide)

theorem comes_settings {request : Request} (hreadable : Readable (given request.overrides)) :
    Comes (request.settings tree) (((request.files tree).mapM (layer tree)).map request.settled) := by
  have hsettings : ((request.files tree).mapM (layer tree)).map request.settled =
      ((request.files tree).mapM (layer tree)).map
          (fun drafts => drafts.reduceOption.foldl mergeWith defaults) >>= fun merged =>
        .ok (merged.mergeWith (drafted (overriding request.overrides) none)).freeze := by
    cases (request.files tree).mapM (layer tree) <;> rfl
  rw [hsettings]
  refine .bind (comes_mergeFiles tree defaults _) fun merged => ?_
  have hoverride : merged.override request.overrides =
      .ok (merged.mergeWith (drafted (overriding request.overrides) none)) :=
    override_eq_ok_iff.mpr ⟨hreadable, rfl⟩
  rw [hoverride]
  exact .pure _

/-- The transcript when the settings have been read, with what was logged on the way to them. -/
def told (session : Session) (request : Request) (before : Transcript) : Transcript :=
  { before with
    errors := before.errors ++ renderLog session.logThreshold ((request.settings before.files).run.run []).2 }

variable {session : Session} {request : Request} {before after : Transcript}

/-- How an export begins: the files that the user names are checked, and then all settings are read. -/
theorem result_run_begin (hinput : before.files.holds request.input = true)
    (hreadable : Readable (given request.overrides)) :
    (run session request).result before =
      match request.settingsFiles.forM (checkSettingsFile before.files) with
      | .error stop => (.error stop, before)
      | .ok () =>
          match (request.files before.files).mapM (layer before.files) with
          | .error error => (.error (.unhandled (.settings error)), told session request before)
          | .ok drafts =>
              (finish session request before.files (request.settled drafts)).result
                (told session request before) := by
  obtain ⟨records, hsettings⟩ : Comes (request.settings before.files) _ := comes_settings hreadable
  rw [result_run, if_pos hinput, result_bind, result_checkSettingsFiles]
  cases request.settingsFiles.forM (checkSettingsFile before.files) with
  | error stop => rfl
  | ok =>
      dsimp only
      rw [result_bind, result_logged, told, hsettings]
      cases (request.files before.files).mapM (layer before.files) <;> rfl

/-- An export stops for settings where the files that are named do not pass the check, or else where the
files are read. -/
theorem result_run_aboutSettings_iff (hinput : before.files.holds request.input = true)
    (hreadable : Readable (given request.overrides)) {stop : Stop} (hstop : stop.AboutSettings) :
    (run session request).result before = (.error stop, after) ↔
      request.settingsFiles.forM (checkSettingsFile before.files) = .error stop ∧ before = after ∨
      request.settingsFiles.forM (checkSettingsFile before.files) = .ok () ∧
        ∃ error, (request.files before.files).mapM (layer before.files) = .error error ∧
          .unhandled (.settings error) = stop ∧ told session request before = after := by
  rw [result_run_begin hinput hreadable]
  cases request.settingsFiles.forM (checkSettingsFile before.files) with
  | error other => simp
  | ok =>
      cases (request.files before.files).mapM (layer before.files) with
      | error error => simp
      | ok drafts =>
          simp only [reduceCtorEq, false_and, and_false, exists_false, or_self, iff_false]
          exact fun h => finish_not_aboutSettings h hstop

theorem result_run_malformed_iff (hinput : before.files.holds request.input = true)
    (hreadable : Readable (given request.overrides)) :
    (run session request).result before = (.error (.failure (.settingsMalformed path)), after) ↔
      (Reached before.files request.settingsFiles path ∧ Malformed before.files path) ∧ before = after := by
  have hstop : (Stop.failure (.settingsMalformed path)).AboutSettings := trivial
  rw [result_run_aboutSettings_iff hinput hreadable hstop, checkSettingsFiles_eq_error_iff]
  constructor
  · rintro (⟨⟨named, hreached, hcheck⟩, hbefore⟩ | ⟨-, error, -, hother, -⟩)
    · obtain ⟨rfl, hmalformed⟩ := checkSettingsFile_malformed_iff.mp hcheck
      exact ⟨⟨hreached, hmalformed⟩, hbefore⟩
    · cases hother
  · rintro ⟨⟨hreached, hmalformed⟩, hbefore⟩
    exact Or.inl ⟨⟨path, hreached, checkSettingsFile_malformed_iff.mpr ⟨rfl, hmalformed⟩⟩, hbefore⟩

theorem result_run_unhandled_iff (hinput : before.files.holds request.input = true)
    (hreadable : Readable (given request.overrides)) :
    (∃ error after, (run session request).result before = (.error (.unhandled (.settings error)), after)) ↔
      (∃ path, Reached before.files request.settingsFiles path ∧
        (NotUtf8 before.files path ∨ Clashes before.files path)) ∨
      (∀ path ∈ request.settingsFiles, ∃ data, Describes before.files path data) ∧
        ∃ path ∈ request.files before.files, ¬Fit before.files path := by
  have hstop : ∀ error, (Stop.unhandled (.settings error)).AboutSettings := fun _ => trivial
  constructor
  · rintro ⟨error, after, hrun⟩
    rcases (result_run_aboutSettings_iff hinput hreadable (hstop error)).mp hrun with
      ⟨hcheck, -⟩ | ⟨hcheck, _, hlayers, -⟩
    · obtain ⟨path, hreached, hpath⟩ := checkSettingsFiles_eq_error_iff.mp hcheck
      exact Or.inl ⟨path, hreached, checkSettingsFile_unhandled_iff.mp ⟨error, hpath⟩⟩
    · obtain ⟨path, hmem, hpath⟩ := exists_error_of_mapM hlayers
      exact Or.inr ⟨checkSettingsFiles_eq_ok_iff.mp hcheck, path, hmem,
        exists_layer_eq_error_iff.mp ⟨_, hpath⟩⟩
  · rintro (⟨path, hreached, hpath⟩ | ⟨hnamed, path, hmem, hunfit⟩)
    · obtain ⟨error, herror⟩ := checkSettingsFile_unhandled_iff.mpr hpath
      have hcheck := checkSettingsFiles_eq_error_iff.mpr ⟨path, hreached, herror⟩
      exact ⟨error, before, (result_run_aboutSettings_iff hinput hreadable (hstop error)).mpr
        (Or.inl ⟨hcheck, rfl⟩)⟩
    · have hcheck := checkSettingsFiles_eq_ok_iff.mpr hnamed
      cases hlayers : (request.files before.files).mapM (layer before.files) with
      | ok drafts => exact absurd (exists_layers_iff.mp ⟨drafts, hlayers⟩ path hmem) hunfit
      | error error =>
          exact ⟨error, _, (result_run_aboutSettings_iff hinput hreadable (hstop error)).mpr
            (Or.inr ⟨hcheck, error, hlayers, rfl, rfl⟩)⟩

/-- With files that are tables where they are named, and fit in any case, nothing about the settings is in
the way of the document. -/
theorem result_run_of_fit (hinput : before.files.holds request.input = true)
    (hreadable : Readable (given request.overrides))
    (hnamed : ∀ path ∈ request.settingsFiles, ∃ data, Describes before.files path data)
    (hfit : ∀ path ∈ request.files before.files, Fit before.files path) :
    ∃ drafts, (request.files before.files).mapM (layer before.files) = .ok drafts ∧
      (run session request).result before =
        (finish session request before.files (request.settled drafts)).result (told session request before) := by
  obtain ⟨drafts, hdrafts⟩ := exists_layers_iff.mpr hfit
  refine ⟨drafts, hdrafts, ?_⟩
  rw [result_run_begin hinput hreadable, checkSettingsFiles_eq_ok_iff.mpr hnamed, hdrafts]

/-- What files with settings can do to an export, whatever bytes they hold. The export fails for a file, and
does nothing else, exactly if this is the first of the named files that is no table, and it is malformed. It
ends without a message exactly if that file is not in UTF-8 or clashes, or if all named files are tables and
one of the files that are merged is not fit. Otherwise it goes on with what all files come to. -/
theorem run_settingsFiles {scanned : Scanned} (hinput : before.files.holds request.input = true)
    (hrequest : Request.ofScanned before.files scanned = .ok request) :
    (∀ path, (Failure.settingsMalformed path).status = 78 ∧
      ∀ after, (run session request).result before = (.error (.failure (.settingsMalformed path)), after) ↔
        (Reached before.files request.settingsFiles path ∧ Malformed before.files path) ∧ before = after) ∧
    ((∃ error after, (run session request).result before = (.error (.unhandled (.settings error)), after)) ↔
      (∃ path, Reached before.files request.settingsFiles path ∧
        (NotUtf8 before.files path ∨ Clashes before.files path)) ∨
      (∀ path ∈ request.settingsFiles, ∃ data, Describes before.files path data) ∧
        ∃ path ∈ request.files before.files, ¬Fit before.files path) ∧
    ((∀ path ∈ request.settingsFiles, ∃ data, Describes before.files path data) →
      (∀ path ∈ request.files before.files, Fit before.files path) →
      ∃ drafts, (request.files before.files).mapM (layer before.files) = .ok drafts ∧
        (run session request).result before =
          (finish session request before.files (request.settled drafts)).result
            (told session request before)) ∧
    ∀ path, Treated before.files path := by
  have hreadable : Readable (given request.overrides) :=
    Request.readable_overrides (Request.isWidth_of_ofScanned hrequest)
  exact ⟨fun path => ⟨rfl, fun after => result_run_malformed_iff hinput hreadable⟩,
    result_run_unhandled_iff hinput hreadable, result_run_of_fit hinput hreadable, treated before.files⟩

end Export

/-! ### Files of the kiosk -/

namespace Kiosk

def brokenText : String :=
  "indent_width ="

/-- A byte that no character begins with. -/
def strayByte : ByteArray :=
  ⟨#[0xff]⟩

/-- The kiosk with a file of settings of its own, and with one to be named. -/
def start (own named : ByteArray) : Transcript where
  files :=
    { home := ⟨1, ["kiosk"]⟩
      nodes := [(["kiosk", "kiosk.toml"], .file blueprintText.toUTF8), (["kiosk", "c4dsl.toml"], .file own),
        (["kiosk", "named.toml"], .file named)] }

/-- Its own file is malformed. -/
def brokenOwn : Transcript :=
  start brokenText.toUTF8 settingsText.toUTF8

/-- Its own file is not in UTF-8. -/
def strayOwn : Transcript :=
  start strayByte settingsText.toUTF8

/-- The file to be named is malformed. -/
def brokenNamed : Transcript :=
  start settingsText.toUTF8 brokenText.toUTF8

def ownPath : Path := ⟨1, ["kiosk", "c4dsl.toml"]⟩

def namedPath : Path := .ofText "named.toml"

/-- The words that name the second file. -/
def naming : Scanned where
  options := [⟨.config, some "named.toml"⟩]
  words := ["kiosk.toml"]

/-- What of a request says which files are read. -/
def filesAsked (request : Export.Request) : Path × List Path × Bool :=
  (request.input, request.settingsFiles, request.discovers)

/-- The request asks for the document of the kiosk, with both files. -/
structure Asks (tree : FileTree) (request : Export.Request) : Prop where
  scanned : Export.Request.ofScanned tree naming = .ok request
  input : tree.holds request.input = true
  named : request.settingsFiles = [namedPath]
  files : request.files tree = [ownPath, namedPath]

theorem exists_asks {tree : FileTree} (hinput : tree.holds (.ofText "kiosk.toml") = true)
    (hfound : discover tree {} = [ownPath])
    (hasked : (Export.Request.ofScanned tree naming).toOption.map filesAsked =
      some (.ofText "kiosk.toml", [namedPath], true)) : ∃ request, Asks tree request := by
  obtain ⟨request, hrequest, hparts⟩ := Option.map_eq_some_iff.mp hasked
  obtain ⟨hpath, hparts⟩ := Prod.mk.inj hparts
  obtain ⟨hnamed, hdiscovers⟩ := Prod.mk.inj hparts
  refine ⟨request, toOption_eq_some_iff.mp hrequest, hpath ▸ hinput, hnamed, ?_⟩
  rw [Export.Request.files, hdiscovers, if_pos rfl, Option.map_some, hfound, hnamed]
  rfl

def isMalformed (outcome : Except Toml.ReadFault Table) : Bool :=
  match outcome with
  | .error .malformed => true
  | _ => false

theorem eq_of_isMalformed {outcome : Except Toml.ReadFault Table} (h : isMalformed outcome = true) :
    outcome = .error .malformed := by
  unfold isMalformed at h
  split at h
  · rfl
  · cases h

theorem malformed_of_broken {tree : FileTree} {path : Path} (htext : tree.readText path = .ok brokenText) :
    Malformed tree path :=
  ⟨brokenText, htext, eq_of_isMalformed (by decide +kernel)⟩

/-- If the named file holds the settings, all files that are named are tables. -/
theorem Asks.describes {tree : FileTree} {request : Export.Request} (h : Asks tree request)
    (htext : tree.readText namedPath = .ok settingsText) :
    ∀ path ∈ request.settingsFiles, ∃ data, Describes tree path data := by
  have hread : (Toml.read settingsText).isOk = true := by decide +kernel
  obtain ⟨data, hdata⟩ := exists_eq_ok_of_isOk hread
  rw [h.named]
  exact List.forall_mem_singleton.mpr ⟨data, settingsText, htext, hdata⟩

end Kiosk

namespace Export

open Kiosk

/-- An own file that is malformed is no obstacle, and one that is not in UTF-8 ends the export without a
message; a named one that is malformed makes it fail. -/
theorem run_settingsFiles_kiosk :
    (∃ request, Request.ofScanned brokenOwn.files naming = .ok request ∧
      ∃ drafts, (run { console := {} } request).result brokenOwn =
        (finish { console := {} } request brokenOwn.files (request.settled drafts)).result
          (told { console := {} } request brokenOwn)) ∧
    (∃ request, Request.ofScanned strayOwn.files naming = .ok request ∧
      ∃ error after, (run { console := {} } request).result strayOwn =
        (.error (.unhandled (.settings error)), after)) ∧
    ∃ request, Request.ofScanned brokenNamed.files naming = .ok request ∧
      (run { console := {} } request).result brokenNamed =
        (.error (.failure (.settingsMalformed namedPath)), brokenNamed) := by
  refine ⟨?goesOn, ?ends, ?fails⟩
  case goesOn =>
    obtain ⟨request, hasks⟩ : ∃ request, Asks brokenOwn.files request :=
      exists_asks (by decide +kernel) (by decide +kernel) (by decide +kernel)
    have hfit : ∀ path ∈ request.files brokenOwn.files, Fit brokenOwn.files path := by
      rw [hasks.files]
      intro path hpath
      have hok : ([ownPath, namedPath].all fun path => (layer brokenOwn.files path).isOk) = true := by
        decide +kernel
      exact exists_layer_iff.mp (exists_eq_ok_of_isOk (List.all_eq_true.mp hok path hpath))
    obtain ⟨-, -, hgoesOn, -⟩ := run_settingsFiles hasks.input hasks.scanned
    obtain ⟨drafts, -, hrun⟩ := hgoesOn (hasks.describes (by decide +kernel)) hfit
    exact ⟨request, hasks.scanned, drafts, hrun⟩
  case ends =>
    obtain ⟨request, hasks⟩ : ∃ request, Asks strayOwn.files request :=
      exists_asks (by decide +kernel) (by decide +kernel) (by decide +kernel)
    have hstray : NotUtf8 strayOwn.files ownPath := by
      rw [NotUtf8]
      decide +kernel
    have hown : ownPath ∈ request.files strayOwn.files := by
      rw [hasks.files]
      exact List.mem_cons_self
    obtain ⟨-, hends, -⟩ := run_settingsFiles hasks.input hasks.scanned
    exact ⟨request, hasks.scanned, hends.mpr (Or.inr
      ⟨hasks.describes (by decide +kernel), ownPath, hown, fun hfit => hfit.utf8 hstray⟩)⟩
  case fails =>
    obtain ⟨request, hasks⟩ : ∃ request, Asks brokenNamed.files request :=
      exists_asks (by decide +kernel) (by decide +kernel) (by decide +kernel)
    have hnamed : Reached brokenNamed.files request.settingsFiles namedPath :=
      ⟨[], [], hasks.named, nofun⟩
    have hbroken : Malformed brokenNamed.files namedPath := malformed_of_broken (by decide +kernel)
    obtain ⟨hfails, -⟩ := run_settingsFiles hasks.input hasks.scanned
    exact ⟨request, hasks.scanned, ((hfails namedPath).2 _).mpr ⟨⟨hnamed, hbroken⟩, rfl⟩⟩

end Export

end CommandLine

end C4Model
