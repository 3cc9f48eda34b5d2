import C4Model.Proofs.CommandLine.Export

/-! Whole calls. Whatever the words of a call are, it is careful: if its status tells of a failure, nothing is
on the output, and no file has changed unless it is the writing of a document that failed. -/

namespace C4Model.CommandLine

open Command Files

variable {asked : String → Prop} {before after : Transcript} {words : List String}

/-- The words, all of them or those after the name of a command, ask for the page of help. -/
def HelpAsked (name : Option CommandName) (words : List String) (page : String) : Prop :=
  page = Help.page name ++ "\n" ∧
    ∃ scanned, scan ((name.map CommandName.options).getD commonOptions) name.isSome words = .ok scanned ∧
      scanned.has .help = true

/-- A call asks for the page of help, before the name of a command or after it. -/
def AsksForHelp (words : List String) (page : String) : Prop :=
  HelpAsked none words page ∨ ∃ common word rest, scan commonOptions false words = .ok common ∧
    common.words = word :: rest ∧
      (CommandName.ofWord? word = none ∧ HelpAsked none (word :: rest) page ∨
        ∃ name, CommandName.ofWord? word = some name ∧ HelpAsked (some name) rest page)

theorem result_orUsage {α : Type} (name : Option CommandName) (outcome : Except UsageError α)
    (before : Transcript) :
    (orUsage name outcome).result before =
      (outcome.mapError (.usage (Help.usage name ++ "\n" ++ Help.hint name)), before) := by
  cases outcome <;> rfl

theorem silent_orUsage {α : Type} (name : Option CommandName) (outcome : Except UsageError α) :
    Silent asked (orUsage name outcome) := by
  cases outcome with
  | ok value => exact silent_pure value
  | error error => exact silent_throw nofun

/-- The words are read, or the page of help is shown, or they are not understood. -/
theorem result_scanFor (name : Option CommandName) (words : List String) (before : Transcript) :
    (scanFor name words).result before =
      match scan ((name.map CommandName.options).getD commonOptions) name.isSome words with
      | .ok scanned =>
          if scanned.has .help then
            (.error .help, { before with output := before.output ++ (Help.page name ++ "\n") })
          else (.ok scanned, before)
      | .error error => (.error (.usage (Help.usage name ++ "\n" ++ Help.hint name) error), before) := by
  rw [scanFor, result_bind, result_orUsage]
  cases scan ((name.map CommandName.options).getD commonOptions) name.isSome words with
  | error error => rfl
  | ok scanned =>
      dsimp only [Except.mapError]
      split <;> rfl

theorem silent_scanFor (name : Option CommandName) (words : List String) :
    Silent (HelpAsked name words) (scanFor name words) := by
  constructor
  case careful =>
    intro before stop after hrun
    rw [result_scanFor] at hrun
    split at hrun
    · rename_i scanned hscan
      split at hrun
      · rename_i hhelp
        obtain ⟨hstop, rfl⟩ := Prod.mk.inj hrun
        exact Or.inl ⟨(Except.error.inj hstop).symm, rfl, _, ⟨rfl, scanned, hscan, hhelp⟩, rfl⟩
      · cases hrun
    · obtain ⟨hstop, rfl⟩ := Prod.mk.inj hrun
      obtain rfl := Except.error.inj hstop
      exact Or.inr ⟨nofun, rfl, Or.inl rfl⟩
  case keeps =>
    intro before scanned after hrun
    rw [result_scanFor] at hrun
    split at hrun
    · split at hrun
      · cases hrun
      · obtain ⟨-, rfl⟩ := Prod.mk.inj hrun
        exact ⟨rfl, rfl⟩
    · cases hrun

theorem scanFor_eq_ok {name : Option CommandName} {scanned : Scanned}
    (h : (scanFor name words).result before = (.ok scanned, after)) :
    scan ((name.map CommandName.options).getD commonOptions) name.isSome words = .ok scanned ∧
      scanned.has .help = false ∧ after = before := by
  rw [result_scanFor] at h
  split at h
  · rename_i found hfound
    split at h
    · cases h
    · rename_i hhelp
      obtain ⟨hsame, rfl⟩ := Prod.mk.inj h
      obtain rfl := Except.ok.inj hsame
      exact ⟨hfound, Bool.not_eq_true _ ▸ hhelp, rfl⟩
  · cases h

theorem readCommon_eq_ok {scanned : Scanned} {mode : ColorMode}
    (h : (readCommon words).result before = (.ok (scanned, mode), after)) :
    scan commonOptions false words = .ok scanned ∧ scanned.has .help = false ∧ after = before := by
  rw [readCommon] at h
  obtain ⟨found, between, hfound, hrest⟩ := result_bind_eq_ok_iff.mp h
  obtain ⟨hscan, hhelp, rfl⟩ := scanFor_eq_ok hfound
  split at hrest
  · obtain ⟨hpair, rfl⟩ := Prod.mk.inj hrest
    obtain ⟨rfl, -⟩ := Prod.mk.inj (Except.ok.inj hpair)
    exact ⟨hscan, hhelp, rfl⟩
  · obtain ⟨chosen, _, hchosen, hrest⟩ := result_bind_eq_ok_iff.mp hrest
    rw [result_orUsage] at hchosen
    obtain ⟨-, rfl⟩ := Prod.mk.inj hchosen
    obtain ⟨hpair, rfl⟩ := Prod.mk.inj hrest
    obtain ⟨rfl, -⟩ := Prod.mk.inj (Except.ok.inj hpair)
    exact ⟨hscan, hhelp, rfl⟩

theorem silent_readCommon (words : List String) : Silent (HelpAsked none words) (readCommon words) := by
  rw [readCommon]
  refine .bind (silent_scanFor none words) fun scanned => ?_
  split
  · exact silent_pure _
  · exact .bind (silent_orUsage _ _) fun mode => silent_pure _

theorem silent_openSession (surroundings : Surroundings) (scanned : Scanned) (mode : ColorMode) :
    Silent asked (openSession surroundings scanned mode) := by
  rw [openSession]
  dsimp only
  split
  · exact silent_fail _
  · split
    · exact silent_throw nofun
    · exact .bind (silent_modify (fun _ => rfl) fun _ => rfl) fun _ => silent_pure _

theorem openSession_eq_ok {surroundings : Surroundings} {scanned : Scanned} {mode : ColorMode}
    {session : Session}
    (h : (openSession surroundings scanned mode).result before = (.ok session, after)) :
    session.verbose = scanned.count .verbose ∧ session.surrogates = surroundings.surrogates ∧
      session.console.colored = isColored (if scanned.has .noColor then .never else mode)
        surroundings.environment surroundings.terminal ∧
      ∃ colored, after = { before with colored } := by
  rw [openSession] at h
  dsimp only at h
  split at h
  · cases h
  · split at h
    · cases h
    · obtain ⟨hsession, rfl⟩ := Prod.mk.inj h
      obtain rfl := Except.ok.inj hsession
      exact ⟨rfl, rfl, rfl, _, rfl⟩

theorem unfailing_initialSettings (session : Session) (shared : Bool) :
    Unfailing (InitialSettings.run session shared) := by
  have hline : ∀ text, Unfailing (printLine session text) := unfailing_printLine session
  rw [InitialSettings.run]
  dsimp only
  split
  · exact .bind (hline _) fun _ => .bind (hline _) fun _ => .bind (unfailing_writeOutput _) fun _ => hline _
  · exact .bind (unfailing_writeOutput _) fun _ => unfailing_pure _

theorem unfailing_version (session : Session) (format : Version.Format) :
    Unfailing (Version.run session format) := by
  have hline : ∀ text, Unfailing (printLine session text) := unfailing_printLine session
  unfold Version.run
  cases format with
  | json => exact hline _
  | markdown => exact .bind (hline _) fun _ => hline _
  | default =>
      dsimp only
      split
      · exact .bind (hline _) fun _ => hline _
      · exact hline _

/-- A document that is made of what an export reads is not written to its file as a whole. -/
def ReadingSpoils (surrogates : Surrogates) (scanned : Scanned) (before after : FileTree) : Prop :=
  ∃ reading, Export.Reads surrogates before scanned reading ∧
    ∃ out, scanned.value? .output = some out ∧
      ∃ error, before.writeText surrogates (Path.ofText out) (reading.text ++ "\n") = (.error error, after)

/-- The words after the name of a command ask for an export that spoils its file. -/
def CommandSpoils (surrogates : Surrogates) (name : CommandName) (words : List String)
    (before after : FileTree) : Prop :=
  name = .exportDocument ∧ ∃ scanned, scan Export.options true words = .ok scanned ∧
    ReadingSpoils surrogates scanned before after

/-- The words of a call ask for an export that spoils its file. -/
def CallSpoils (surrogates : Surrogates) (words : List String) (before after : FileTree) : Prop :=
  ∃ common rest, scan commonOptions false words = .ok common ∧
    common.words = CommandName.exportDocument.word :: rest ∧
      CommandSpoils surrogates .exportDocument rest before after

theorem careful_exportRead (session : Session) (scanned : Scanned) :
    Careful asked (ReadingSpoils session.surrogates scanned) (do
      let tree := (← get).files
      Export.run session (← orUsage (some .exportDocument) (Export.Request.ofScanned tree scanned))) := by
  intro before stop after hrun
  rw [result_bind, result_get] at hrun
  have hcareful : Careful asked (fun tree after => ∃ request,
      Export.Request.ofScanned before.files scanned = .ok request ∧
        request.Spoils session.surrogates tree after)
      (orUsage (some .exportDocument) (Export.Request.ofScanned before.files scanned) >>=
        Export.run session) := by
    refine .bind_of_yields (silent_orUsage _ _) fun request hyields => ?_
    obtain ⟨_, _, hasked⟩ := hyields
    rw [result_orUsage] at hasked
    have hrequest := Outcome.mapError_eq_ok_iff.mp (Prod.mk.inj hasked).1
    exact (Export.careful_run session request).mono (fun _ => id) fun _ _ hspoils =>
      ⟨request, hrequest, hspoils⟩
  rcases hcareful before stop after hrun with hhelp | ⟨hstop, houtput, hfiles⟩
  · exact Or.inl hhelp
  · refine Or.inr ⟨hstop, houtput, hfiles.imp_right ?_⟩
    rintro ⟨request, hrequest, settings, records, workspace, text, hsettings, hload, hserialize, path, error,
      hpath, hwrite⟩
    rw [Export.Request.ofScanned_output hrequest, Option.map_eq_some_iff] at hpath
    obtain ⟨out, hout, rfl⟩ := hpath
    exact ⟨⟨request, settings, records, workspace, text⟩, ⟨hrequest, hsettings, hload, hserialize⟩, out, hout,
      error, hwrite⟩

theorem careful_runCommand (session : Session) (name : CommandName) (words : List String) :
    Careful (HelpAsked (some name) words) (CommandSpoils session.surrogates name words)
      (runCommand session name words) := by
  rw [runCommand]
  refine .bind_of_yields (silent_scanFor (some name) words) fun scanned hyields => ?_
  cases name with
  | exportDocument =>
      obtain ⟨_, _, hscanned⟩ := hyields
      exact (careful_exportRead session scanned).mono (fun _ => id) fun _ _ hspoils =>
        ⟨rfl, scanned, (scanFor_eq_ok hscanned).1, hspoils⟩
  | initialSettings =>
      exact .bind (silent_orUsage _ _) fun _ => (unfailing_initialSettings session _).careful
  | version =>
      exact .bind (silent_orUsage _ _) fun format => (unfailing_version session format).careful

theorem silent_discard {α : Type} {action : Command α} (h : Silent asked action) :
    Silent asked (discard action) := by
  have hbind : (discard action : Command PUnit) = action >>= fun _ => pure ⟨⟩ := by
    rw [Functor.discard, map_const, Function.comp, ← bind_pure_comp]
  rw [hbind]
  exact .bind h fun _ => silent_pure _

theorem CommandName.word_of_ofWord? {word : String} {name : CommandName} (h : ofWord? word = some name) :
    name.word = word := by
  have hfound := List.find?_some h
  exact of_decide_eq_true hfound

theorem careful_runWords (surroundings : Surroundings) (words : List String) :
    Careful (AsksForHelp words) (CallSpoils surroundings.surrogates words)
      (runWords surroundings words) := by
  rw [runWords]
  refine .bind_of_yields ((silent_readCommon words).mono fun page => Or.inl) fun value hyields => ?_
  obtain ⟨scanned, mode⟩ := value
  obtain ⟨_, _, hread⟩ := hyields
  obtain ⟨hscan, -⟩ := readCommon_eq_ok hread
  dsimp only
  split
  case h_1 =>
    exact .bind (silent_openSession _ _ _) fun session =>
      (Unfailing.bind (unfailing_printLine session _) fun _ => .bind (unfailing_printLine session _) fun _ =>
        unfailing_printLine session _).careful
  case h_2 word rest hwords =>
    split
    · rename_i name hname
      refine .bind_of_yields (silent_openSession _ _ _) fun session hyields => ?_
      obtain ⟨_, _, hsession⟩ := hyields
      refine (careful_runCommand session name rest).mono (fun page hhelp => ?_) fun _ _ hspoils => ?_
      · exact Or.inr ⟨scanned, word, rest, hscan, hwords, Or.inr ⟨name, hname, hhelp⟩⟩
      · rw [(openSession_eq_ok hsession).2.1] at hspoils
        obtain rfl := hspoils.1
        rw [← CommandName.word_of_ofWord? hname] at hwords
        exact ⟨scanned, rest, hscan, hwords, hspoils⟩
    · rename_i hname
      refine .bind ((silent_discard (silent_readCommon _)).mono fun page hhelp => ?_) fun _ =>
        (silent_orUsage none _).among
      exact Or.inr ⟨scanned, word, rest, hscan, hwords, Or.inl ⟨hname, hhelp⟩⟩

theorem Failure.status_ne_zero (failure : Failure) : failure.status ≠ 0 := by
  cases failure <;> nofun

section Outcomes

variable {surrogates : Surrogates} {result : Except Stop Unit} {transcript : Transcript}

theorem outcome_status_eq_zero_iff :
    (outcome surrogates result transcript).status = 0 ↔ result = .ok () ∨ result = .error .help := by
  rcases result with (page | failure | error) | _
  all_goals simp [outcome, usageStatus, unhandledStatus, Failure.status_ne_zero]

theorem outcome_output : (outcome surrogates result transcript).output = transcript.output := by
  rcases result with (page | failure | error) | _ <;> rfl

theorem outcome_files : (outcome surrogates result transcript).files = transcript.files := by
  rcases result with (page | failure | error) | _ <;> rfl

end Outcomes

theorem run_eq (surroundings : Surroundings) (words : List String) :
    run surroundings words = outcome surroundings.surrogates
      ((runWords surroundings words).result { files := surroundings.files }).1
      ((runWords surroundings words).result { files := surroundings.files }).2 := rfl

theorem CommandName.ofWord?_word (name : CommandName) : ofWord? name.word = some name := by
  cases name <;> decide

/-- No help is asked for if neither the words before the name of the command do nor those after it. -/
theorem not_asksForHelp_export {common scanned : Scanned} {rest : List String} {page : String}
    (hscan : scan commonOptions false words = .ok common) (hcommon : common.has .help = false)
    (hwords : common.words = CommandName.exportDocument.word :: rest)
    (hoptions : scan Export.options true rest = .ok scanned) (hhelp : scanned.has .help = false) :
    ¬AsksForHelp words page := by
  rintro (⟨-, found, hfound, hasks⟩ | ⟨found, word, after, hfound, hafter, hrest⟩)
  all_goals obtain rfl := Except.ok.inj (hscan.symm.trans hfound)
  · rw [hcommon] at hasks
    cases hasks
  · obtain ⟨rfl, rfl⟩ := List.cons.inj (hwords.symm.trans hafter)
    rw [CommandName.ofWord?_word] at hrest
    rcases hrest with ⟨hnone, -⟩ | ⟨name, hname, -, last, hlast, hasks⟩
    · cases hnone
    · obtain rfl := Option.some.inj hname
      obtain rfl := Except.ok.inj (hoptions.symm.trans hlast)
      rw [hhelp] at hasks
      cases hasks

namespace Kiosk

def blueprintText : String :=
  "[workspace]\nname = \"Kiosk\"\n\n[[systems]]\nkey = \"till\"\nname = \"Till\"\n"
    ++ "description = \"Takes money\"\n"

/-- The width is of no use, which is told on the error output. -/
def settingsText : String :=
  "[serializer]\nindent_width = 40\n"

def surroundings : Surroundings where
  files :=
    { home := ⟨1, ["kiosk"]⟩
      nodes := [(["kiosk", "kiosk.toml"], .file blueprintText.toUTF8),
        (["kiosk", "c4dsl.toml"], .file settingsText.toUTF8)] }

/-- The words after the name of the command. -/
def wanted : List String :=
  ["kiosk.toml", "-o", "out.dsl"]

def call (words : List String) : List String :=
  CommandName.exportDocument.word :: words

end Kiosk

open Kiosk

/-- A name with a surrogate in it cannot be written. The file is there afterwards, and it is empty. -/
example :
    let text := "\x7b\"workspace\": \x7b\"name\": \"Kiosk \\ud800\"\x7d\x7d"
    let surroundings : Surroundings :=
      { files := { home := ⟨1, ["kiosk"]⟩, nodes := [(["kiosk", "kiosk.json"], .file text.toUTF8)] } }
    let done := run surroundings (call ["kiosk.json", "-o", "out.dsl"])
    done.status = unhandledStatus ∧ done.output = "" ∧
      (done.files.read (Path.ofText "out.dsl")).toOption.map (·.data) = some #[] := by
  decide +kernel

end C4Model.CommandLine
