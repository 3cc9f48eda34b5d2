import C4Model.CommandLine.Run
import C4Model.Proofs.CommandLine.Command
import C4Model.Proofs.Files.Tree
import C4Model.Proofs.Outcome

/-! What an export leaves behind. A call that fails says nothing on the output, and leaves the files as they were
unless it is their writing that fails. An export that ends well leaves the whole document in the file that was
asked for, or on the output; what there is to say about the settings goes to the error output, and the document
does not depend on it. -/

namespace C4Model

open Files Logging Outcome

namespace CommandLine

open Command

/-- An option with a value is among those that are present. -/
theorem Scanned.mem_keys_of_value? {scanned : Scanned} {key : OptionKey} {text : String}
    (h : scanned.value? key = some text) : key ∈ scanned.keys := by
  obtain ⟨option, hoption, hvalue⟩ := List.mem_filterMap.mp (List.mem_of_getLast? h)
  split at hvalue
  case isTrue hkey => exact List.mem_eraseDups.mpr (List.mem_map.mpr ⟨option, hoption, hkey⟩)
  case isFalse => cases hvalue

namespace Export

variable {surrogates : Surrogates} {settings : Settings} {tree : FileTree} {input : Path} {text : String}

theorem document_eq_ok_iff : document surrogates settings tree input = .ok text ↔
    ∃ workspace, Blueprint.loadFile surrogates settings tree input = .ok workspace ∧
      workspace.serialize = .ok text := by
  rw [document]
  cases Blueprint.loadFile surrogates settings tree input with
  | ok workspace =>
      change workspace.serialize.mapError _ = _ ↔ _
      simp [mapError_eq_ok_iff]
  | error error =>
      rcases error with error | ⟨⟨⟩⟩ <;>
        simp [bind, Except.bind, throw, throwThe, MonadExceptOf.throw]

theorem document_ne_help (surrogates : Surrogates) (settings : Settings) (tree : FileTree) (input : Path) :
    document surrogates settings tree input ≠ .error .help := by
  rw [document]
  cases Blueprint.loadFile surrogates settings tree input with
  | ok workspace =>
      change workspace.serialize.mapError _ ≠ _
      rcases workspace.serialize with (error | error | error | error) | text <;> nofun
  | error error => rcases error with error | ⟨⟨⟩⟩ <;> nofun

/-- Of what is asked for, an option changes at most the part that it is for. Only the option for the output
says where the document goes. -/
theorem readOption_eq_ok {tree : FileTree} {scanned : Scanned} {request next : Request} {key : OptionKey}
    (h : readOption tree scanned request key = .ok next) :
    next.output = if key = .output then ((scanned.value? .output).map Path.ofText).or request.output
      else request.output := by
  unfold readOption at h
  split at h
  case h_1 text hvalue =>
    obtain ⟨-, -, h⟩ := bind_eq_ok_iff.mp h
    obtain rfl := Except.ok.inj h
    rw [if_pos rfl, hvalue]
    rfl
  case h_2 =>
    obtain ⟨-, -, h⟩ := bind_eq_ok_iff.mp h
    obtain rfl := Except.ok.inj h
    rfl
  case h_3 =>
    obtain rfl := Except.ok.inj h
    rfl
  case h_4 =>
    obtain ⟨mode, -, h⟩ := bind_eq_ok_iff.mp h
    obtain rfl := Except.ok.inj h
    rfl
  case h_5 =>
    obtain ⟨width, -, h⟩ := bind_eq_ok_iff.mp h
    obtain rfl := Except.ok.inj h
    rfl
  case h_6 key _ _ _ _ hother _ _ =>
    obtain rfl := Except.ok.inj h
    by_cases hkey : key = .output
    · cases hvalue : scanned.value? .output with
      | none => simp
      | some text => exact (hother text hkey (hkey ▸ hvalue)).elim
    · rw [if_neg hkey]

/-- What is asked for besides what is asked already, by all options one after another. -/
def Request.withOptions (tree : FileTree) (scanned : Scanned) (start : Request) (keys : List OptionKey) :
    Except UsageError Request :=
  keys.foldlM (fun request key =>
    (readOption tree scanned request key).mapError (.badValue (namesOf options key))) start

theorem Request.withOptions_output {tree : FileTree} {scanned : Scanned} {keys : List OptionKey}
    {start request : Request} (h : start.withOptions tree scanned keys = .ok request) :
    request.output = if .output ∈ keys then ((scanned.value? .output).map Path.ofText).or start.output
      else start.output := by
  induction keys generalizing start with
  | nil =>
      obtain rfl := Except.ok.inj h
      simp
  | cons key rest ih =>
      rw [withOptions, List.foldlM_cons] at h
      obtain ⟨between, hkey, hrest⟩ := bind_eq_ok_iff.mp h
      rw [ih hrest, readOption_eq_ok (mapError_eq_ok_iff.mp hkey)]
      cases scanned.value? .output <;> by_cases hhere : key = .output <;>
        by_cases hthere : OptionKey.output ∈ rest <;> simp [hhere, hthere, eq_comm]

/-- A request is what the options ask for, with the only argument as the input. -/
theorem Request.ofScanned_eq_ok {tree : FileTree} {scanned : Scanned} {request : Request}
    (h : Request.ofScanned tree scanned = .ok request) :
    ∃ folded input, ({ input := {} } : Request).withOptions tree scanned scanned.keys = .ok folded ∧
      scanned.words = [input] ∧ request = { folded with input := Path.ofText input } := by
  obtain ⟨folded, hfold, hargument⟩ := bind_eq_ok_iff.mp h
  split at hargument
  case h_1 => cases hargument
  case h_2 input extra hwords =>
    obtain ⟨-, -, hargument⟩ := bind_eq_ok_iff.mp hargument
    split at hargument
    case isTrue hextra =>
      obtain rfl := Except.ok.inj hargument
      rw [List.isEmpty_iff.mp hextra] at hwords
      exact ⟨folded, input, hfold, hwords, rfl⟩
    case isFalse => cases hargument

/-- What is written to is the last file that the option for it names. -/
theorem Request.ofScanned_output {tree : FileTree} {scanned : Scanned} {request : Request}
    (h : Request.ofScanned tree scanned = .ok request) :
    request.output = (scanned.value? .output).map Path.ofText := by
  obtain ⟨folded, input, hfold, -, rfl⟩ := ofScanned_eq_ok h
  change folded.output = _
  rw [withOptions_output hfold]
  cases hvalue : scanned.value? .output with
  | none => simp
  | some text => rw [if_pos (Scanned.mem_keys_of_value? hvalue), Option.or_none]

/-- What is said of a document that was written to a file. -/
def writtenLine (session : Session) (path : Path) (text : String) : String :=
  if 0 < session.verbose then
    session.console.print ("Wrote " ++ toString (Text.splitLines text).length ++ " lines to " ++ path.text)
      true
  else ""

theorem result_deliver_none (session : Session) (text : String) (before : Transcript) :
    (deliver session none text).result before =
      match session.surrogates.encode (session.console.print text true) with
      | .ok _ => (.ok (), { before with output := before.output ++ session.console.print text true })
      | .error error => (.error (.unhandled (.notEncodable error)), before) := by
  change (printEncoded session text).result before = _
  rw [printEncoded]
  cases session.surrogates.encode (session.console.print text true) <;> rfl

theorem result_deliver_some (session : Session) (path : Path) (text : String) (before : Transcript) :
    (deliver session (some path) text).result before =
      match before.files.writeText session.surrogates path (text ++ "\n") with
      | (.ok (), files) =>
          (.ok (), { before with
            output := before.output ++ writtenLine session path text
            errors := before.errors ++ renderLog session.logThreshold [⟨info, "Wrote " ++ path.text⟩]
            files })
      | (.error error, files) => (.error (stopOfWrite path error), { before with files }) := by
  rw [deliver, result_bind, result_get]
  dsimp only
  rcases before.files.writeText session.surrogates path (text ++ "\n") with ⟨error | _, files⟩
  · rfl
  · rw [writtenLine]
    by_cases hverbose : 0 < session.verbose
    · simp only [hverbose, if_true]
      rfl
    · simp only [hverbose, if_false, String.append_empty]
      rfl

theorem stopOfWrite_ne_help (path : Path) (error : WriteError) : stopOfWrite path error ≠ .help := by
  cases error <;> nofun

/-- A text that is wanted in a file is not written to it as a whole. -/
def TextSpoils (surrogates : Surrogates) (output : Option Path) (text : String) (before after : FileTree) :
    Prop :=
  ∃ path error, output = some path ∧
    before.writeText surrogates path (text ++ "\n") = (.error error, after)

theorem careful_deliver {asked : String → Prop} (session : Session) (output : Option Path) (text : String) :
    Careful asked (TextSpoils session.surrogates output text) (deliver session output text) := by
  intro before stop after hrun
  right
  cases output with
  | none =>
      rw [result_deliver_none] at hrun
      split at hrun
      · cases hrun
      · obtain ⟨hstop, rfl⟩ := Prod.mk.inj hrun
        obtain rfl := Except.error.inj hstop
        exact ⟨nofun, rfl, Or.inl rfl⟩
  | some path =>
      rw [result_deliver_some] at hrun
      split at hrun
      · cases hrun
      · rename_i error files hwrite
        obtain ⟨hstop, rfl⟩ := Prod.mk.inj hrun
        obtain rfl := Except.error.inj hstop
        exact ⟨stopOfWrite_ne_help path error, rfl, Or.inr ⟨path, error, rfl, hwrite⟩⟩

/-- Whether a file that the user names can be used for settings. -/
def checkSettingsFile (tree : FileTree) (path : Path) : Except Stop Unit :=
  match tree.readText path with
  | .ok text =>
      match Toml.read text with
      | .ok _ => .ok ()
      | .error .malformed => .error (.failure (.settingsMalformed path))
      | .error (.clash clash) => .error (.unhandled (.settings (.clash clash)))
  | .error (.file error) => .error (.failure (.settingsUnreadable path error))
  | .error .notUtf8 => .error (.unhandled (.settings .notUtf8))

theorem result_checkSettingsFiles (tree : FileTree) (paths : List Path) (before : Transcript) :
    (checkSettingsFiles tree paths).result before = (paths.forM (checkSettingsFile tree), before) := by
  rw [← result_forM_liftM, checkSettingsFiles]
  refine congrArg (fun check => result (paths.forM check) before) (funext fun path => ?_)
  rw [checkSettingsFile]
  rcases tree.readText path with (error | error) | text
  · rfl
  · rfl
  · dsimp only
    rcases Toml.read text with (error | error) | table <;> rfl

theorem checkSettingsFile_ne_help (tree : FileTree) (path : Path) :
    checkSettingsFile tree path ≠ .error .help := by
  rw [checkSettingsFile]
  split
  · split <;> nofun
  · nofun
  · nofun

theorem silent_checkSettingsFiles {asked : String → Prop} (tree : FileTree) (paths : List Path) :
    Silent asked (checkSettingsFiles tree paths) := by
  have hchecks : paths.forM (checkSettingsFile tree) ≠ .error .help := by
    induction paths with
    | nil => nofun
    | cons path rest ih =>
        intro hhelp
        rcases bind_eq_error_iff.mp hhelp with hhelp | ⟨-, -, hhelp⟩
        · exact checkSettingsFile_ne_help tree path hhelp
        · exact ih hhelp
  constructor
  case careful =>
    intro before stop after hrun
    rw [result_checkSettingsFiles] at hrun
    obtain ⟨hstop, rfl⟩ := Prod.mk.inj hrun
    refine Or.inr ⟨?_, rfl, Or.inl rfl⟩
    rintro rfl
    exact hchecks hstop
  case keeps =>
    intro before value after hrun
    rw [result_checkSettingsFiles] at hrun
    obtain ⟨-, rfl⟩ := Prod.mk.inj hrun
    exact ⟨rfl, rfl⟩

/-- Renders and delivers the document with the settings that were read. -/
def finish (session : Session) (request : Request) (tree : FileTree) (settings : Settings) : Command Unit := do
  writeError (warnings session settings)
  let text ← liftM (document session.surrogates settings tree request.input)
  deliver session request.output text

/-- The input is looked for, then files with settings are checked and read, and then the document is made. -/
theorem result_run (session : Session) (request : Request) (before : Transcript) :
    (run session request).result before =
      if before.files.holds request.input then
        (do
          checkSettingsFiles before.files request.settingsFiles
          let settings ← logged session (request.settings before.files)
          finish session request before.files settings : Command Unit).result before
      else (.error (.failure (.inputNotFound request.input)), before) := by
  rw [run, result_bind, result_get]
  dsimp only
  cases before.files.holds request.input <;> rfl

/-- The document that is asked for is made, and is not written to its file as a whole. -/
def Request.Spoils (surrogates : Surrogates) (request : Request) (before after : FileTree) : Prop :=
  ∃ settings records workspace text, (request.settings before).run.run [] = (.ok settings, records) ∧
    Blueprint.loadFile surrogates settings before request.input = .ok workspace ∧
    workspace.serialize = .ok text ∧ TextSpoils surrogates request.output text before after

theorem careful_finish {asked : String → Prop} (session : Session) (request : Request) (tree : FileTree)
    (settings : Settings) :
    Careful asked (fun before after =>
        ∃ text, document session.surrogates settings tree request.input = .ok text ∧
          TextSpoils session.surrogates request.output text before after)
      (finish session request tree settings) := by
  refine .bind (silent_writeError _) fun _ =>
    .bind_of_yields (silent_liftM (document_ne_help _ _ _ _)) fun text hyields => ?_
  obtain ⟨_, _, hdocument⟩ := hyields
  rw [result_liftM] at hdocument
  exact (careful_deliver session _ _).mono (fun _ => id) fun _ _ hspoils =>
    ⟨text, (Prod.mk.inj hdocument).1, hspoils⟩

/-- Nothing is written before the whole document is there. -/
theorem careful_run {asked : String → Prop} (session : Session) (request : Request) :
    Careful asked (request.Spoils session.surrogates) (run session request) := by
  intro before stop after hrun
  rw [result_run] at hrun
  split at hrun
  case isTrue =>
    have hcareful : Careful asked (fun tree after =>
        ∃ settings records text, (request.settings before.files).run.run [] = (.ok settings, records) ∧
          document session.surrogates settings before.files request.input = .ok text ∧
            TextSpoils session.surrogates request.output text tree after)
        (do
          checkSettingsFiles before.files request.settingsFiles
          let settings ← logged session (request.settings before.files)
          finish session request before.files settings : Command Unit) := by
      refine .bind (silent_checkSettingsFiles _ _) fun _ => .bind_of_yields (silent_logged session _)
        fun settings hyields => ?_
      obtain ⟨_, _, hlogged⟩ := hyields
      rw [result_logged] at hlogged
      have hsettings := mapError_eq_ok_iff.mp (Prod.mk.inj hlogged).1
      exact (careful_finish session request _ settings).mono (fun _ => id)
        fun _ _ ⟨text, hdocument, hspoils⟩ =>
          ⟨settings, _, text, Prod.ext hsettings rfl, hdocument, hspoils⟩
    rcases hcareful before stop after hrun with hhelp | ⟨hstop, houtput, hfiles⟩
    · exact Or.inl hhelp
    · refine Or.inr ⟨hstop, houtput, hfiles.imp_right ?_⟩
      rintro ⟨settings, records, text, hsettings, hdocument, hspoils⟩
      obtain ⟨workspace, hload, hserialize⟩ := document_eq_ok_iff.mp hdocument
      exact ⟨settings, records, workspace, text, hsettings, hload, hserialize, hspoils⟩
  case isFalse =>
    exact (silent_fail _).among before stop after hrun

/-- What an export reads: what it is asked for, the settings with what is logged on the way to them, and the
workspace with its document. -/
structure Reading where
  request : Request
  settings : Settings
  records : List Record
  workspace : Workspace
  text : String

/-- The files and the options are read like this. -/
structure Reads (surrogates : Surrogates) (tree : FileTree) (scanned : Scanned) (reading : Reading) : Prop where
  request : Request.ofScanned tree scanned = .ok reading.request
  settings : (reading.request.settings tree).run.run [] = (.ok reading.settings, reading.records)
  workspace : Blueprint.loadFile surrogates reading.settings tree reading.request.input = .ok reading.workspace
  text : reading.workspace.serialize = .ok reading.text

theorem Reads.document {scanned : Scanned} {reading : Reading} (h : Reads surrogates tree scanned reading) :
    document surrogates reading.settings tree reading.request.input = .ok reading.text :=
  document_eq_ok_iff.mpr ⟨reading.workspace, h.workspace, h.text⟩

/-- An export that ends well has made the document from what it read. It would have done the same before the
delivery wherever the document goes. -/
theorem exists_delivery {session : Session} {request : Request} {before after : Transcript}
    (h : (run session request).result before = (.ok (), after)) :
    ∃ settings records workspace text,
      (request.settings before.files).run.run [] = (.ok settings, records) ∧
      Blueprint.loadFile session.surrogates settings before.files request.input = .ok workspace ∧
      workspace.serialize = .ok text ∧
      ∀ output, (run session { request with output }).result before =
        (deliver session output text).result { before with
          errors := before.errors ++ renderLog session.logThreshold records ++ warnings session settings } := by
  rw [result_run] at h
  split at h
  case isFalse => cases h
  case isTrue hinput =>
    obtain ⟨_, _, hcheck, hwork⟩ := result_bind_eq_ok_iff.mp h
    have hkept := hcheck
    rw [result_checkSettingsFiles] at hkept
    obtain ⟨-, rfl⟩ := Prod.mk.inj hkept
    obtain ⟨settings, _, hlogged, hwork⟩ := result_bind_eq_ok_iff.mp hwork
    have hsettings := hlogged
    rw [result_logged] at hsettings
    obtain ⟨hvalue, rfl⟩ := Prod.mk.inj hsettings
    obtain ⟨_, _, hwarnings, hwork⟩ := result_bind_eq_ok_iff.mp hwork
    obtain ⟨-, rfl⟩ := Prod.mk.inj hwarnings
    obtain ⟨text, _, hdocument, -⟩ := result_bind_eq_ok_iff.mp hwork
    rw [result_liftM] at hdocument
    obtain ⟨htext, rfl⟩ := Prod.mk.inj hdocument
    obtain ⟨workspace, hload, hserialize⟩ := document_eq_ok_iff.mp htext
    refine ⟨settings, _, workspace, text, Prod.ext (mapError_eq_ok_iff.mp hvalue) rfl, hload, hserialize,
      fun output => ?_⟩
    rw [result_run, if_pos hinput, result_bind, hcheck]
    dsimp only
    rw [result_bind]
    have hsame : ({ request with output } : Request).settings before.files = request.settings before.files := rfl
    rw [hsame, hlogged]
    dsimp only
    rw [finish, result_bind]
    change (liftM (document session.surrogates settings before.files request.input) >>= fun text =>
      deliver session output text : Command Unit).result _ = _
    rw [htext]
    rfl

end Export

end CommandLine

end C4Model
