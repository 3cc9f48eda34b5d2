import C4Model.Proofs.Blueprint.Reader
import C4Model.Proofs.CommandLine.Run
import C4Model.Proofs.Workspace.Codes

/-! The document of an export, on the output and in a file. Two calls ask for the same export, but the second also
names a file for the output. Both make the same document before either delivers it; what the second writes to
the file is what the first would have shown with colors. -/

namespace C4Model

open Files Outcome

/-- A blueprint brings nothing rendered elsewhere into the workspace. -/
theorem Blueprint.rendersAll_of_load {settings : Settings} {doc : Table} {w : Workspace}
    (h : load settings doc = .ok w) : w.RendersAll := by
  obtain ⟨⟨read, after⟩, hread, rfl⟩ := map_eq_ok_iff.mp h
  obtain ⟨name, _, -, h⟩ := run_bind_eq_ok_iff.mp hread
  obtain ⟨description, _, -, h⟩ := run_bind_eq_ok_iff.mp h
  obtain ⟨people, _, -, h⟩ := run_bind_eq_ok_iff.mp h
  obtain ⟨systems, _, -, h⟩ := run_bind_eq_ok_iff.mp h
  obtain ⟨containers, _, -, h⟩ := run_bind_eq_ok_iff.mp h
  obtain ⟨components, _, -, h⟩ := run_bind_eq_ok_iff.mp h
  obtain ⟨relationships, _, -, h⟩ := run_bind_eq_ok_iff.mp h
  obtain ⟨views, _, -, h⟩ := run_bind_eq_ok_iff.mp h
  obtain ⟨elementStyles, _, -, h⟩ := run_bind_eq_ok_iff.mp h
  obtain ⟨relationshipStyles, _, -, h⟩ := run_bind_eq_ok_iff.mp h
  obtain ⟨rfl, -⟩ := run_pure_eq_ok_iff.mp h
  exact ⟨rfl, rfl, rfl⟩

theorem Blueprint.rendersAll_of_loadFile {surrogates : Surrogates} {settings : Settings} {tree : FileTree}
    {path : Path} {w : Workspace} (h : loadFile surrogates settings tree path = .ok w) : w.RendersAll := by
  rw [loadFile] at h
  split at h
  case h_1 text _ =>
    obtain ⟨doc, -, hload⟩ := bind_eq_ok_iff.mp (mapError_eq_ok_iff.mp h)
    exact rendersAll_of_load hload
  case h_2 => cases h
  case h_3 => cases h

namespace CommandLine

open Command

/-- Both command lines ask for the same, but the second also names a file for the output. -/
structure Scanned.Redirects (scanned redirected : Scanned) (out : String) : Prop where
  words : redirected.words = scanned.words
  options : redirected.options.filter (·.key ≠ .output) = scanned.options
  output : redirected.value? .output = some out

namespace Scanned

variable {scanned redirected : Scanned} {out : String}

theorem filter_eraseDups {α : Type} [BEq α] [LawfulBEq α] (p : α → Bool) :
    ∀ list : List α, list.eraseDups.filter p = (list.filter p).eraseDups
  | [] => by simp
  | first :: rest => by
      have hshorter : (rest.filter fun other => !other == first).length < rest.length + 1 :=
        Nat.lt_succ_of_le (List.length_filter_le _ _)
      have hrest := filter_eraseDups p (rest.filter fun other => !other == first)
      rw [List.filter_comm] at hrest
      rw [List.eraseDups_cons, List.filter_cons, List.filter_cons, hrest]
      cases hfirst : p first with
      | true => simp [List.eraseDups_cons]
      | false =>
          have hothers : (rest.filter p).filter (fun other => !other == first) = rest.filter p := by
            refine List.filter_eq_self.mpr fun other hother => ?_
            have hkept := (List.mem_filter.mp hother).2
            simp only [Bool.not_eq_eq_eq_not, Bool.not_true, beq_eq_false_iff_ne]
            rintro rfl
            exact absurd hkept (by simp [hfirst])
          simp [hothers]
termination_by list => list.length

theorem Redirects.values (h : scanned.Redirects redirected out) {key : OptionKey} (hkey : key ≠ .output) :
    redirected.values key = scanned.values key := by
  rw [Scanned.values, Scanned.values, ← h.options, List.filterMap_filter]
  refine List.filterMap_congr fun option _ => ?_
  by_cases hhere : option.key = key <;> simp [hhere, hkey]

theorem Redirects.value? (h : scanned.Redirects redirected out) {key : OptionKey} (hkey : key ≠ .output) :
    redirected.value? key = scanned.value? key := by
  rw [Scanned.value?, Scanned.value?, h.values hkey]

theorem Redirects.keys (h : scanned.Redirects redirected out) :
    redirected.keys.filter (· ≠ .output) = scanned.keys := by
  rw [Scanned.keys, Scanned.keys, filter_eraseDups, List.filter_map, ← h.options]
  rfl

theorem Redirects.unredirected (h : scanned.Redirects redirected out) : scanned.value? .output = none := by
  rw [Scanned.value?, Scanned.values, ← h.options, List.filterMap_filter, List.getLast?_eq_none_iff,
    List.filterMap_eq_nil_iff]
  intro option _
  by_cases hkey : option.key = .output <;> simp [hkey]

end Scanned

namespace Export

variable {tree : FileTree} {scanned redirected : Scanned} {out : String}

/-- Options for other things do not see where the document goes. -/
theorem readOption_redirected (h : scanned.Redirects redirected out) {key : OptionKey} (hkey : key ≠ .output)
    (request : Request) (output : Option Path) :
    readOption tree redirected { request with output } key =
      (readOption tree scanned request key).map fun next => { next with output } := by
  have hvalue := h.value? hkey
  have hfiles : redirected.values .config = scanned.values .config := h.values nofun
  cases key with
  | output => exact absurd rfl hkey
  | config =>
      simp only [readOption, hfiles]
      cases (scanned.values .config).forM (checkFile tree) <;> rfl
  | noConfig => rfl
  | identifierScope =>
      simp only [readOption, hvalue]
      cases scanned.value? .identifierScope with
      | none => rfl
      | some text =>
          dsimp only
          cases (memberOf text : Except ValueFault ScopeMode) <;> rfl
  | indentWidth =>
      simp only [readOption, hvalue]
      cases scanned.value? .indentWidth with
      | none => rfl
      | some text =>
          dsimp only
          cases widthOf text <;> rfl
  | _ => rfl

theorem readOption_output (h : redirected.value? .output = some out) (request : Request) :
    readOption tree redirected request .output = (checkNotDirectory tree out).map fun _ =>
      { request with output := some (Path.ofText out) } := by
  simp only [readOption, h]
  cases checkNotDirectory tree out <;> rfl

/-- Wherever the option for the output stands, it is all that the requests differ in. -/
theorem Request.withOptions_redirected (h : scanned.Redirects redirected out) {keys : List OptionKey}
    {start request : Request}
    (hrequest : start.withOptions tree scanned (keys.filter (· ≠ .output)) = .ok request)
    (output : Option Path) :
    ({ start with output } : Request).withOptions tree redirected keys =
      if .output ∈ keys then
        ((checkNotDirectory tree out).mapError (.badValue (namesOf options .output))).map fun _ =>
          { request with output := some (Path.ofText out) }
      else .ok { request with output } := by
  induction keys generalizing start output with
  | nil =>
      obtain rfl := Except.ok.inj hrequest
      rfl
  | cons key rest ih =>
      rw [withOptions, List.foldlM_cons]
      by_cases hkey : key = .output
      · subst hkey
        rw [List.filter_cons_of_neg (by simp)] at hrequest
        rw [readOption_output h.output, if_pos List.mem_cons_self]
        cases hcheck : checkNotDirectory tree out with
        | error fault => rfl
        | ok =>
            have hrest := ih hrequest (some (Path.ofText out))
            rw [hcheck] at hrest
            refine Eq.trans hrest ?_
            split <;> rfl
      · rw [List.filter_cons_of_pos (by simpa using hkey), withOptions, List.foldlM_cons] at hrequest
        obtain ⟨next, hnext, hrest⟩ := bind_eq_ok_iff.mp hrequest
        rw [readOption_redirected h hkey, mapError_eq_ok_iff.mp hnext]
        refine Eq.trans (ih hrest output) ?_
        simp [hkey, eq_comm]

/-- What the words besides the options make of a request: the only one is the input. -/
def Request.withWords (tree : FileTree) (words : List String) (request : Request) :
    Except UsageError Request :=
  match words with
  | [] => throw (.argumentMissing inputName)
  | input :: extra => do
      (checkNotDirectory tree input).mapError (.badValue [inputName])
      if extra.isEmpty then return { request with input := Path.ofText input }
      else throw (.extraArguments extra)

theorem Request.ofScanned_eq (tree : FileTree) (scanned : Scanned) : Request.ofScanned tree scanned =
    ({ input := {} } : Request).withOptions tree scanned scanned.keys >>=
      Request.withWords tree scanned.words := rfl

theorem Request.withWords_output (words : List String) (request : Request) (output : Option Path) :
    ({ request with output } : Request).withWords tree words =
      (request.withWords tree words).map fun next => { next with output } := by
  cases words with
  | nil => rfl
  | cons input extra =>
      rw [withWords, withWords]
      cases checkNotDirectory tree input with
      | error fault => rfl
      | ok => cases extra <;> rfl

/-- With a file for the output, the request is the same but for that file, unless a directory is there. -/
theorem Request.ofScanned_redirected (h : scanned.Redirects redirected out) {request : Request}
    (hrequest : Request.ofScanned tree scanned = .ok request) :
    Request.ofScanned tree redirected =
      ((checkNotDirectory tree out).mapError (.badValue (namesOf options .output))).map fun _ =>
        { request with output := some (Path.ofText out) } := by
  obtain ⟨folded, hfold, hwords⟩ := bind_eq_ok_iff.mp (ofScanned_eq tree scanned ▸ hrequest)
  rw [← h.keys] at hfold
  have hredirected := withOptions_redirected h hfold none
  rw [if_pos (Scanned.mem_keys_of_value? h.output)] at hredirected
  rw [ofScanned_eq]
  refine (congrArg (· >>= _) hredirected).trans ?_
  cases checkNotDirectory tree out with
  | error fault => rfl
  | ok =>
      change Request.withWords tree redirected.words _ = _
      rw [withWords_output, h.words, hwords]
      rfl

theorem find_of_findText_directory {text : String} (h : tree.findText text = .ok .directory) :
    ∃ place, tree.find (Path.ofText text) = .ok (place, .directory) := by
  rw [FileTree.findText] at h
  split at h
  case isTrue => cases h
  case isFalse =>
  obtain ⟨⟨place, node⟩, hfind, h⟩ := bind_eq_ok_iff.mp h
  cases node with
  | directory => exact ⟨place, hfind⟩
  | file content =>
      dsimp only at h
      split at h <;> cases h

/-- Where a file can be written there is no directory. -/
theorem checkNotDirectory_of_write {surrogates : Surrogates} {text : String} {files : FileTree}
    (h : tree.writeText surrogates (Path.ofText out) text = (.ok (), files)) :
    checkNotDirectory tree out = .ok () := by
  rw [checkNotDirectory]
  split
  case h_1 hdirectory =>
    obtain ⟨place, hfind⟩ := find_of_findText_directory hdirectory
    rw [FileTree.writeText, FileTree.placeToWrite, hfind] at h
    cases h
  case h_2 => rfl

end Export

namespace Scanned

/-- The color mode that the options before the name of a command choose. -/
def colorMode (common : Scanned) : Except UsageError ColorMode :=
  match common.value? .color with
  | none => .ok .auto
  | some value => (ColorMode.ofValue value).mapError (.badValue (namesOf commonOptions .color))

/-- Whether a call with these options before the name of a command is in color. -/
def colored (common : Scanned) (surroundings : Surroundings) : Bool :=
  isColored (if common.has .noColor then .never else common.colorMode.toOption.getD .auto)
    surroundings.environment surroundings.terminal

end Scanned

/-- The words of a call ask for an export: the options stand before the name of the command, and the others with
the arguments after it. No help is asked for. -/
structure AsksExport (words : List String) (options : List Occurrence) (scanned : Scanned) : Prop where
  read : ∃ rest, scan commonOptions false words =
      .ok { options, words := CommandName.exportDocument.word :: rest } ∧
    scan Export.options true rest = .ok scanned
  noHelp : Scanned.has { options } .help = false ∧ scanned.has .help = false

section Calls

variable {surroundings : Surroundings} {words : List String} {before after : Transcript}

/-- The session that the options before the name of a command ask for. -/
def settle (surroundings : Surroundings) (common : Scanned) : Command Session := do
  let mode ← orUsage none common.colorMode
  openSession surroundings common mode

/-- An export by what was told to it. -/
def exportScanned (session : Session) (scanned : Scanned) : Command Unit := do
  let tree := (← get).files
  Export.run session (← orUsage (some .exportDocument) (Export.Request.ofScanned tree scanned))

theorem result_scanFor_of_scan (name : Option CommandName) {scanned : Scanned}
    (hscan : scan ((name.map CommandName.options).getD commonOptions) name.isSome words = .ok scanned)
    (hhelp : scanned.has .help = false) : (scanFor name words).result before = (.ok scanned, before) := by
  rw [result_scanFor, hscan]
  exact if_neg (by simp [hhelp])

theorem result_readCommon {common : Scanned}
    (hscan : scan commonOptions false words = .ok common) (hhelp : common.has .help = false) :
    (readCommon words).result before =
      (orUsage none (common.colorMode.map (common, ·))).result before := by
  rw [readCommon, result_bind, result_scanFor_of_scan none hscan hhelp, Scanned.colorMode]
  dsimp only
  cases common.value? .color with
  | none => rfl
  | some value =>
      dsimp only
      cases ColorMode.ofValue value <;> rfl

/-- The session depends on the options alone. -/
theorem openSession_words (surroundings : Surroundings) (common : Scanned) (mode : ColorMode) :
    openSession surroundings common mode = openSession surroundings { options := common.options } mode := by
  have hhas : ∀ key, Scanned.has { options := common.options } key = common.has key := fun _ => rfl
  have hcount : ∀ key, Scanned.count { options := common.options } key = common.count key := fun _ => rfl
  rw [openSession, openSession, hhas, hcount, hcount]

theorem AsksExport.result_runWords {options : List Occurrence} {scanned : Scanned}
    (h : AsksExport words options scanned) :
    (runWords surroundings words).result before =
      (settle surroundings { options } >>= fun session => exportScanned session scanned).result before := by
  obtain ⟨⟨rest, hcommon, hrest⟩, hhelp, hhelp'⟩ := h
  have hcommand : ∀ session before, (runCommand session .exportDocument rest).result before =
      (exportScanned session scanned).result before := by
    intro session before
    rw [runCommand, result_bind, result_scanFor_of_scan (some .exportDocument) hrest hhelp']
    rfl
  rw [runWords, settle, bind_assoc, result_bind, result_bind, result_readCommon hcommon hhelp]
  have hmode : Scanned.colorMode { options, words := CommandName.exportDocument.word :: rest } =
    Scanned.colorMode { options } := rfl
  rw [hmode]
  cases Scanned.colorMode { options } with
  | error error => rfl
  | ok mode =>
      simp only [Except.map, result_orUsage, Except.mapError, CommandName.ofWord?_word]
      rw [openSession_words, result_bind, result_bind]
      simp only [hcommand]

theorem settle_eq_ok {common : Scanned} {session : Session}
    (h : (settle surroundings common).result before = (.ok session, after)) :
    session.console.colored = common.colored surroundings ∧ session.surrogates = surroundings.surrogates ∧
      ∃ colored, after = { before with colored } := by
  obtain ⟨mode, _, hmode, hsession⟩ := result_bind_eq_ok_iff.mp h
  rw [result_orUsage] at hmode
  obtain ⟨hchosen, rfl⟩ := Prod.mk.inj hmode
  obtain ⟨-, hsurrogates, hcolored, hafter⟩ := openSession_eq_ok hsession
  refine ⟨?_, hsurrogates, hafter⟩
  rw [hcolored, Scanned.colored, mapError_eq_ok_iff.mp hchosen]
  rfl

theorem result_exportScanned (session : Session) (scanned : Scanned) (before : Transcript) :
    (exportScanned session scanned).result before =
      (orUsage (some .exportDocument) (Export.Request.ofScanned before.files scanned) >>=
        Export.run session).result before := rfl

/-- Two calls that differ in the file for the output only. If the first one ends well, both come to the delivery of
the same document, unless there is a directory where the file should be. -/
theorem AsksExport.exists_delivery {other : List String} {options : List Occurrence} {scanned redirected : Scanned}
    {out : String} (h : AsksExport words options scanned) (hother : AsksExport other options redirected)
    (hredirects : scanned.Redirects redirected out)
    (hrun : (runWords surroundings words).result before = (.ok (), after)) :
    ∃ session reading between, session.console.colored = Scanned.colored { options } surroundings ∧
      session.surrogates = surroundings.surrogates ∧
      Export.Reads surroundings.surrogates before.files scanned reading ∧
      between.output = before.output ∧ between.files = before.files ∧
      after = { between with output := before.output ++ session.console.print reading.text true } ∧
      match Export.checkNotDirectory before.files out with
      | .ok () => (runWords surroundings other).result before =
          (Export.deliver session (some (Path.ofText out)) reading.text).result between
      | .error _ => ∃ page error, ((runWords surroundings other).result before).1 = .error (.usage page error) := by
  rw [h.result_runWords] at hrun
  rw [hother.result_runWords]
  obtain ⟨session, _, hsettle, hexport⟩ := result_bind_eq_ok_iff.mp hrun
  obtain ⟨hcolored, hsurrogates, colored, rfl⟩ := settle_eq_ok hsettle
  rw [result_exportScanned] at hexport
  obtain ⟨request, _, hasked, hexport⟩ := result_bind_eq_ok_iff.mp hexport
  rw [result_orUsage] at hasked
  obtain ⟨hmapped, rfl⟩ := Prod.mk.inj hasked
  have hrequest := mapError_eq_ok_iff.mp hmapped
  have hnone : request.output = none := by
    rw [Export.Request.ofScanned_output hrequest, hredirects.unredirected]
    rfl
  obtain ⟨settings, records, workspace, text, hsettings, hload, hserialize, hdelivered⟩ :=
    Export.exists_delivery hexport
  rw [hsurrogates] at hload
  refine ⟨session, ⟨request, settings, records, workspace, text⟩,
    { before with
      errors := before.errors ++ Logging.renderLog session.logThreshold records
        ++ Export.warnings session settings
      colored },
    hcolored, hsurrogates, ⟨hrequest, hsettings, hload, hserialize⟩, rfl, rfl, ?shown, ?written⟩
  case shown =>
    have hshown := hdelivered request.output
    rw [hnone, Export.result_deliver_none] at hshown
    rw [← hnone] at hshown
    have hdone := hexport.symm.trans hshown
    split at hdone
    case h_1 => exact (Prod.mk.inj hdone).2
    case h_2 => cases (Prod.mk.inj hdone).1
  case written =>
    rw [result_bind, hsettle]
    dsimp only
    rw [result_exportScanned, result_bind, result_orUsage, Export.Request.ofScanned_redirected hredirects hrequest]
    cases hcheck : Export.checkNotDirectory before.files out with
    | ok => exact hdelivered _
    | error fault => exact ⟨_, _, rfl⟩

/-- A call that asks for an export and not for help ends well in one way only. -/
theorem AsksExport.exists_done {options : List Occurrence} {scanned : Scanned}
    (h : AsksExport words options scanned) (hstatus : (run surroundings words).status = 0) :
    ∃ after, (runWords surroundings words).result { files := surroundings.files } = (.ok (), after) := by
  obtain ⟨⟨rest, hcommon, hrest⟩, hhelp, hhelp'⟩ := h
  rw [run_eq] at hstatus
  rcases hresult : (runWords surroundings words).result { files := surroundings.files } with ⟨result, after⟩
  rw [hresult, outcome_status_eq_zero_iff] at hstatus
  rcases hstatus with rfl | rfl
  · exact ⟨after, rfl⟩
  · rcases careful_runWords surroundings words _ _ _ hresult with ⟨-, -, page, hasked, -⟩ | ⟨hother, -⟩
    · exact absurd hasked (not_asksForHelp_export hcommon hhelp rfl hrest hhelp')
    · exact absurd rfl hother

end Calls

/-- An export without a file for the output, and the same export with one. If the first ends well, the second does
so exactly if the file can be written. The first shows the document and the second writes it, both with the end
of a line behind it. Without colors control sequences are not shown, while the file holds them: the bytes on the
output and in the file are the same exactly if the call is in color or no text in the model has a control
sequence. -/
theorem delivered_alike {surroundings : Surroundings} {words other : List String} {options : List Occurrence}
    {scanned redirected : Scanned} {out : String} (h : AsksExport words options scanned)
    (hother : AsksExport other options redirected) (hredirects : scanned.Redirects redirected out)
    (hstatus : (run surroundings words).status = 0) :
    ∃ reading, Export.Reads surroundings.surrogates surroundings.files scanned reading ∧
      (run surroundings words).output =
        Console.shown (Scanned.colored { options } surroundings) reading.text ++ "\n" ∧
      ((run surroundings other).status = 0 ↔
        (surroundings.files.writeText surroundings.surrogates (Path.ofText out) (reading.text ++ "\n")).1 =
          .ok ()) ∧
      ((run surroundings other).status = 0 →
        ∃ bytes, (run surroundings other).files.read (Path.ofText out) = .ok bytes ∧
          ((run surroundings words).output.toUTF8 = bytes ↔
            Scanned.colored { options } surroundings = true ∨ ¬CodedAmong reading.workspace.shownTexts)) := by
  obtain ⟨after, hdone⟩ := h.exists_done hstatus
  obtain ⟨session, reading, between, hcolored, hsurrogates, hreads, houtput, hfiles, rfl, hwritten⟩ :=
    h.exists_delivery hother hredirects hdone
  have hcodes : Console.HasCode reading.text.toList ↔ CodedAmong reading.workspace.shownTexts :=
    Workspace.coded_serialize_iff (Blueprint.rendersAll_of_loadFile hreads.workspace) hreads.text
  have hshown : (run surroundings words).output =
      Console.shown (Scanned.colored { options } surroundings) reading.text ++ "\n" := by
    rw [run_eq, hdone, outcome_output]
    simp only [Console.print, Console.lineEnd, hcolored]
    exact String.empty_append
  refine ⟨reading, hreads, hshown, ?_⟩
  rw [hshown, run_eq surroundings other, outcome_status_eq_zero_iff, outcome_files]
  rcases hwrite : surroundings.files.writeText surroundings.surrogates (Path.ofText out)
    (reading.text ++ "\n") with ⟨error | _, files⟩
  case error =>
      have hfailed : ∃ stop, ((runWords surroundings other).result { files := surroundings.files }).1 =
          .error stop ∧ stop ≠ .help := by
        split at hwritten
        case h_1 =>
          rw [hwritten, Export.result_deliver_some, hfiles, hsurrogates, hwrite]
          exact ⟨_, rfl, Export.stopOfWrite_ne_help _ error⟩
        case h_2 =>
          obtain ⟨page, error, hstop⟩ := hwritten
          exact ⟨_, hstop, nofun⟩
      obtain ⟨stop, hstop, hnoHelp⟩ := hfailed
      rw [hstop]
      simp [hnoHelp]
  case ok =>
      rw [Export.checkNotDirectory_of_write hwrite] at hwritten
      rw [hwritten, Export.result_deliver_some, hfiles, hsurrogates, hwrite]
      refine ⟨by simp, fun _ => ⟨_, (FileTree.writeText_eq_ok hwrite).2, ?_⟩⟩
      rw [String.toUTF8_eq_toByteArray, String.toUTF8_eq_toByteArray, String.toByteArray_inj,
        String.append_left_inj, Console.shown_eq_self_iff, hcodes]

/-! ### A kiosk with a bold description -/

namespace Kiosk

/-- The description has the control sequence for bold letters in it. -/
def boldText : String :=
  "[workspace]\nname = \"Kiosk\"\n\n[[systems]]\nkey = \"till\"\nname = \"Till\"\n"
    ++ "description = \"Takes \\u001b[1mmoney\"\n"

def boldSurroundings : Surroundings where
  files := { home := ⟨1, ["kiosk"]⟩, nodes := [(["kiosk", "kiosk.toml"], .file boldText.toUTF8)] }

/-- A call without colors that exports the kiosk. -/
def plainCall (more : List String) : List String :=
  "--no-color" :: call ("kiosk.toml" :: more)

end Kiosk

open Kiosk

/-- What the output shows of the kiosk is not what the file holds: a text in the model has a control sequence. -/
theorem delivered_apart :
    (run boldSurroundings (plainCall [])).status = 0 ∧
      (run boldSurroundings (plainCall ["-o", "out.dsl"])).status = 0 ∧
      ∃ reading bytes,
        Export.Reads boldSurroundings.surrogates boldSurroundings.files { words := ["kiosk.toml"] } reading ∧
        (run boldSurroundings (plainCall ["-o", "out.dsl"])).files.read (Path.ofText "out.dsl") = .ok bytes ∧
        (run boldSurroundings (plainCall [])).output.toUTF8 ≠ bytes ∧
        CodedAmong reading.workspace.shownTexts := by
  have hshown : AsksExport (plainCall []) [⟨.noColor, none⟩] { words := ["kiosk.toml"] } :=
    ⟨⟨["kiosk.toml"], toOption_eq_some_iff.mp (by decide +kernel), toOption_eq_some_iff.mp (by decide +kernel)⟩,
      rfl, rfl⟩
  have hwritten : AsksExport (plainCall ["-o", "out.dsl"]) [⟨.noColor, none⟩]
      { options := [⟨.output, some "out.dsl"⟩], words := ["kiosk.toml"] } :=
    ⟨⟨["kiosk.toml", "-o", "out.dsl"], toOption_eq_some_iff.mp (by decide +kernel),
      toOption_eq_some_iff.mp (by decide +kernel)⟩, rfl, rfl⟩
  have hredirects : Scanned.Redirects { words := ["kiosk.toml"] }
      { options := [⟨.output, some "out.dsl"⟩], words := ["kiosk.toml"] } "out.dsl" := ⟨rfl, rfl, rfl⟩
  have hruns : (run boldSurroundings (plainCall [])).status = 0 ∧
      (run boldSurroundings (plainCall ["-o", "out.dsl"])).status = 0 ∧
      ((run boldSurroundings (plainCall ["-o", "out.dsl"])).files.read
        (Path.ofText "out.dsl")).toOption.map (·.data) ≠
          some (run boldSurroundings (plainCall [])).output.toUTF8.data := by decide +kernel
  obtain ⟨hstatus, hother, hapart⟩ := hruns
  obtain ⟨reading, hreads, -, -, hbytes⟩ := delivered_alike hshown hwritten hredirects hstatus
  obtain ⟨bytes, hread, hsame⟩ := hbytes hother
  have hne : (run boldSurroundings (plainCall [])).output.toUTF8 ≠ bytes := by
    rintro rfl
    rw [hread] at hapart
    exact hapart rfl
  refine ⟨hstatus, hother, reading, bytes, hreads, hread, hne, ?_⟩
  by_contra hcode
  exact hne (hsame.mpr (Or.inr hcode))

end CommandLine

end C4Model
