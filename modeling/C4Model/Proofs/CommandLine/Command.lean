import C4Model.CommandLine.Command
import Mathlib.Logic.Basic

/-! What commands leave alone. A silent command touches neither the output nor the files, whatever comes of
it; a careful one may do so only if it ends well, or if what it stops for is that it could not write a file. A
careful command may follow silent ones, and whatever never stops is careful. Showing help is a stop of its own,
which is allowed where it is asked for. -/

namespace C4Model.CommandLine

open Files

namespace Command

variable {α β : Type}

/-- What comes of a command, and what is done then. -/
def result (action : Command α) (before : Transcript) : Except Stop α × Transcript :=
  ExceptT.run action before

theorem result_get (before : Transcript) : result get before = (.ok before, before) := rfl

theorem result_liftM (outcome : Except Stop α) (before : Transcript) :
    result (liftM outcome) before = (outcome, before) := rfl

/-- What is logged is shown, also if no value comes of it. -/
theorem result_logged (session : Session) (action : Logging.Logged SettingsError α) (before : Transcript) :
    (logged session action).result before =
      ((action.run.run []).1.mapError fun error => .unhandled (.settings error), { before with
        errors := before.errors ++ Logging.renderLog session.logThreshold (action.run.run []).2 }) := by
  rw [logged]
  rcases action.run.run [] with ⟨outcome, records⟩
  cases outcome <;> rfl

theorem result_bind (first : Command α) (next : α → Command β) (before : Transcript) :
    result (first >>= next) before =
      match result first before with
      | (.ok value, between) => result (next value) between
      | (.error stop, between) => (.error stop, between) := by
  have hbind : result (first >>= next) before =
      (ExceptT.bindCont next (result first before).1) (result first before).2 := rfl
  rw [hbind]
  rcases result first before with ⟨outcome, between⟩
  cases outcome <;> rfl

/-- Checks that touch nothing stop at the first one that is not passed. -/
theorem result_forM_liftM (list : List β) (check : β → Except Stop Unit) (before : Transcript) :
    result (list.forM fun item => liftM (check item)) before = (list.forM check, before) := by
  induction list with
  | nil => rfl
  | cons item rest ih =>
      change result (liftM (check item) >>= fun _ => rest.forM fun item => liftM (check item)) before =
        (check item >>= fun _ => rest.forM check, before)
      rw [result_bind, result_liftM]
      cases check item with
      | ok => exact ih
      | error stop => rfl

/-- One command after another ends well exactly if both do. -/
theorem result_bind_eq_ok_iff {first : Command α} {next : α → Command β} {before after : Transcript}
    {last : β} :
    result (first >>= next) before = (.ok last, after) ↔
      ∃ value between, result first before = (.ok value, between) ∧
        result (next value) between = (.ok last, after) := by
  rw [result_bind]
  rcases result first before with ⟨outcome, between⟩
  cases outcome <;> simp [and_assoc]

/-- One command after another stops where the first one does, or the second. -/
theorem result_bind_eq_error_iff {first : Command α} {next : α → Command β} {before after : Transcript}
    {stop : Stop} :
    result (first >>= next) before = (.error stop, after) ↔
      result first before = (.error stop, after) ∨
        ∃ value between, result first before = (.ok value, between) ∧
          result (next value) between = (.error stop, after) := by
  rw [result_bind]
  rcases result first before with ⟨outcome, between⟩
  cases outcome <;> simp [and_assoc]

/-- However the command stops, nothing is on the output but a page of help that was asked for, and no file has
changed but one that was spoiled by writing it. -/
def Careful (asked : String → Prop) (spoiled : FileTree → FileTree → Prop) (action : Command α) : Prop :=
  ∀ before stop after, action.result before = (.error stop, after) →
    stop = .help ∧ after.files = before.files ∧
        (∃ page, asked page ∧ after.output = before.output ++ page) ∨
      stop ≠ .help ∧ after.output = before.output ∧
        (after.files = before.files ∨ spoiled before.files after.files)

/-- No file is spoiled. -/
def Unspoiled (_before _after : FileTree) : Prop :=
  False

/-- A careful command that spoils no file, and leaves output and files alone also where it ends well. -/
structure Silent (asked : String → Prop) (action : Command α) : Prop where
  careful : Careful asked Unspoiled action
  keeps : ∀ before value after, action.result before = (.ok value, after) →
    after.output = before.output ∧ after.files = before.files

/-- The command ends well wherever it begins. -/
def Unfailing (action : Command α) : Prop :=
  ∀ before, ∃ value after, action.result before = (.ok value, after)

variable {asked : String → Prop} {spoiled : FileTree → FileTree → Prop} {first : Command α}
  {next : α → Command β} {action : Command α}

theorem Careful.mono {other : String → Prop} {others : FileTree → FileTree → Prop}
    (h : Careful asked spoiled action) (hasked : ∀ page, asked page → other page)
    (hspoiled : ∀ before after, spoiled before after → others before after) :
    Careful other others action := by
  intro before stop after hrun
  rcases h before stop after hrun with ⟨hhelp, hfiles, page, hpage, houtput⟩ | ⟨hstop, houtput, hfiles⟩
  · exact Or.inl ⟨hhelp, hfiles, page, hasked page hpage, houtput⟩
  · exact Or.inr ⟨hstop, houtput, hfiles.imp_right (hspoiled _ _)⟩

/-- What spoils no file may stand where others do. -/
theorem Silent.among (h : Silent asked action) : Careful asked spoiled action :=
  h.careful.mono (fun _ => id) fun _ _ => False.elim

theorem Silent.mono {other : String → Prop} (h : Silent asked action)
    (hasked : ∀ page, asked page → other page) : Silent other action :=
  ⟨h.careful.mono hasked fun _ _ => id, h.keeps⟩

/-- The value comes of the command at some time. -/
def Yields (action : Command α) (value : α) : Prop :=
  ∃ before after, action.result before = (.ok value, after)

/-- Nothing has happened before the command that stops. -/
theorem Careful.bind_of_yields (hfirst : Silent asked first)
    (hnext : ∀ value, first.Yields value → Careful asked spoiled (next value)) :
    Careful asked spoiled (first >>= next) := by
  intro before stop after hrun
  rcases result_bind_eq_error_iff.mp hrun with hrun | ⟨value, between, hvalue, hrun⟩
  · exact hfirst.among before stop after hrun
  · obtain ⟨houtput, hfiles⟩ := hfirst.keeps before value between hvalue
    rw [← houtput, ← hfiles]
    exact hnext value ⟨before, between, hvalue⟩ between stop after hrun

theorem Careful.bind (hfirst : Silent asked first) (hnext : ∀ value, Careful asked spoiled (next value)) :
    Careful asked spoiled (first >>= next) :=
  .bind_of_yields hfirst fun value _ => hnext value

theorem Silent.bind (hfirst : Silent asked first) (hnext : ∀ value, Silent asked (next value)) :
    Silent asked (first >>= next) where
  careful := .bind hfirst fun value => (hnext value).careful
  keeps before result after hrun := by
    obtain ⟨value, between, hvalue, hrun⟩ := result_bind_eq_ok_iff.mp hrun
    obtain ⟨houtput, hfiles⟩ := hfirst.keeps before value between hvalue
    rw [← houtput, ← hfiles]
    exact (hnext value).keeps between result after hrun

theorem Unfailing.bind (hfirst : Unfailing first) (hnext : ∀ value, Unfailing (next value)) :
    Unfailing (first >>= next) := by
  intro before
  obtain ⟨value, between, hvalue⟩ := hfirst before
  obtain ⟨result, after, hresult⟩ := hnext value between
  exact ⟨result, after, result_bind_eq_ok_iff.mpr ⟨value, between, hvalue, hresult⟩⟩

theorem Unfailing.careful (h : Unfailing action) : Careful asked spoiled action := by
  intro before stop after hrun
  obtain ⟨value, between, hvalue⟩ := h before
  rw [hvalue] at hrun
  cases hrun

theorem silent_pure (value : α) : Silent asked (pure value : Command α) where
  careful before stop after hrun := by cases hrun
  keeps before result after hrun := by
    obtain ⟨-, rfl⟩ := Prod.mk.inj hrun
    exact ⟨rfl, rfl⟩

theorem silent_throw {stop : Stop} (h : stop ≠ .help) : Silent asked (throw stop : Command α) where
  careful before other after hrun := by
    obtain ⟨hstop, rfl⟩ := Prod.mk.inj hrun
    obtain rfl := Except.error.inj hstop
    exact Or.inr ⟨h, rfl, Or.inl rfl⟩
  keeps before result after hrun := by cases hrun

theorem silent_fail (failure : Failure) : Silent asked (fail failure : Command α) :=
  silent_throw nofun

theorem silent_modify {change : Transcript → Transcript}
    (houtput : ∀ before, (change before).output = before.output)
    (hfiles : ∀ before, (change before).files = before.files) :
    Silent asked (modify change : Command Unit) where
  careful before stop after hrun := by cases hrun
  keeps before result after hrun := by
    obtain ⟨-, rfl⟩ := Prod.mk.inj hrun
    exact ⟨houtput before, hfiles before⟩

theorem silent_liftM {result : Except Stop α} (h : result ≠ .error .help) :
    Silent asked (liftM result : Command α) := by
  cases result with
  | ok value => exact silent_pure value
  | error stop => exact silent_throw fun hhelp => h (congrArg Except.error hhelp)

theorem silent_writeError (text : String) : Silent asked (writeError text) :=
  silent_modify (fun _ => rfl) fun _ => rfl

theorem silent_logged (session : Session) (action : Logging.Logged SettingsError α) :
    Silent asked (logged session action) := by
  rw [logged]
  rcases action.run.run [] with ⟨result, records⟩
  refine .bind (silent_writeError _) fun _ => ?_
  cases result with
  | ok value => exact silent_pure value
  | error error => exact silent_throw nofun

theorem unfailing_pure (value : α) : Unfailing (pure value : Command α) :=
  fun before => ⟨value, before, rfl⟩

theorem unfailing_modify (change : Transcript → Transcript) : Unfailing (modify change : Command Unit) :=
  fun before => ⟨(), change before, rfl⟩

theorem unfailing_writeOutput (text : String) : Unfailing (writeOutput text) :=
  unfailing_modify _

theorem unfailing_printLine (session : Session) (text : String) : Unfailing (printLine session text) :=
  unfailing_writeOutput _

end Command

end C4Model.CommandLine
