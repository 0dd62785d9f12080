import Runbook.CommandLine.Answer
import Runbook.Project.Completion
import Runbook.Proofs.Store.Laws
import Runbook.Proofs.Toml.Overlong

/-!
# `Proofs/Project/Settings` — what becomes of a settings file

A settings file may hold any bytes. They are loaded, or else it is reported that they are of no use:
every command says so and ends with status 2, and nothing is suggested to a user who is typing
(`Project.Reports`). For neither of these the bytes have to be gone through, and that fails for some:
for those that spell no text, and for a text with a decimal integer that is too long. Then every
command breaks off with status 1, and so does whatever was to make suggestions
(`Project.BreaksOff`).

So what is left is to tell for which bytes that is. The reader of UTF-8 refuses all bytes but those
that spell a text, and the reader of TOML meets an integer that is too long only where there is a
long run of digits.
-/

set_option autoImplicit false

namespace Runbook

open Runbook.Text

/-! ## Files that are gone through -/

/-- Bytes that can be gone through: they spell a text, and no integer that is met in it is too
long. -/
def GoneThrough (bytes : Utf8.Bytes) : Prop :=
  ∃ cs, Utf8.encode cs = bytes ∧ Toml.read cs ≠ .error .overlong

theorem goneThrough_of_not_hasLongRun {cs : List Char} (h : ¬ Toml.HasLongRun cs) :
    GoneThrough (Utf8.encode cs) :=
  ⟨cs, rfl, mt Toml.hasLongRun_of_read h⟩

theorem goneThrough_encode_iff {cs : List Char} :
    GoneThrough (Utf8.encode cs) ↔ Toml.read cs ≠ .error .overlong := by
  refine ⟨?_, fun h => ⟨cs, rfl, h⟩⟩
  rintro ⟨ds, hds, hread⟩
  have hsame : cs = ds := by
    have hdecode := Utf8.decode_encode cs
    rw [← hds, Utf8.decode_encode] at hdecode
    exact (Except.ok.inj hdecode).symm
  rwa [hsame]

namespace Settings

/-- **What is not gone through is what is not decoded**, and nothing else is. -/
theorem exists_undecodable_iff {bytes : Utf8.Bytes} :
    (∃ reason, read bytes = .error (.undecodable reason)) ↔ ¬ GoneThrough bytes := by
  cases hdecode : Utf8.decode bytes with
  | error fault =>
    refine ⟨fun _ => ?_, fun _ => ⟨.notText fault, by rw [read, hdecode]⟩⟩
    rintro ⟨cs, hcs, -⟩
    rw [Utf8.decode_eq_ok_iff.2 hcs] at hdecode
    cases hdecode
  | ok cs =>
    have hthrough : GoneThrough bytes ↔ Toml.read cs ≠ .error .overlong := by
      rw [← Utf8.decode_eq_ok_iff.1 hdecode]
      exact goneThrough_encode_iff
    rw [hthrough, Classical.not_not]
    cases hread : Toml.read cs with
    | error e =>
      cases e with
      | malformed =>
        have hbytes : read bytes = .error .malformed := by simp only [read, hdecode, hread]
        rw [hbytes]
        exact ⟨nofun, nofun⟩
      | overlong =>
        have hbytes : read bytes = .error (.undecodable .overlong) := by
          simp only [read, hdecode, hread]
        exact ⟨fun _ => rfl, fun _ => ⟨.overlong, hbytes⟩⟩
    | ok d =>
      refine ⟨?_, nofun⟩
      rintro ⟨reason, h⟩
      simp only [read, hdecode, hread] at h
      split at h <;> cases h

end Settings

/-! ## Commands and suggestions -/

namespace Project

open Runbook.CommandLine Runbook.Console

variable (p : Project) (host : Host) (overrides : Overrides)

/-- Every command ends with the same status and tells the same, and it leaves the project as it is
with no word on the way. -/
def EndsAll (status : Nat) (told : Notice) : Prop :=
  ∀ (options : Options) (instruction : Instruction), options.overrides = overrides →
    let answer := (Invocation.run options instruction).answer host p
    answer.exit = status ∧ answer.project = p ∧ answer.events = [] ∧
      (Run.ofInstruction host p overrides instruction).reply.notice = told

/-- The settings are reported to be of no use: every command says so, and nothing is suggested. -/
structure Reports : Prop where
  endsAll : ∃ error message, p.settings overrides = .error error ∧
    error.message? p.settingsPath.text = some message ∧
      p.EndsAll host overrides 2 (.error message [])
  completeWorkflow : ∀ typed, p.completeWorkflow overrides typed = pure []
  completeTask : ∀ typed, p.completeTask host overrides typed = pure []

/-- The settings break everything off: every command ends without a message, and there is no answer
for a user who is typing. -/
structure BreaksOff : Prop where
  endsAll : p.EndsAll host overrides 1 {}
  completeWorkflow : ∀ typed, ∃ reason, p.completeWorkflow overrides typed = .fail reason
  completeTask : ∀ typed, ∃ reason, p.completeTask host overrides typed = .fail reason

variable {p host overrides}

theorem settings_eq_error_iff {bytes : Utf8.Bytes} (h : p.files.read? p.settingsPath = some bytes)
    {e : SettingsError} : p.settings overrides = .error e ↔ Settings.read bytes = .error e := by
  unfold settings
  rw [h]
  show (Settings.read bytes).map _ = _ ↔ _
  cases Settings.read bytes with
  | ok s => exact ⟨nofun, nofun⟩
  | error e => exact Iff.rfl

theorem exists_of_read? {bytes : Utf8.Bytes} (h : p.files.read? p.settingsPath = some bytes) :
    p.files.exists? p.settingsPath = true := by
  unfold File.Tree.read? at h
  unfold File.Tree.exists?
  split at h
  · next hnode =>
    rw [hnode]
    rfl
  · cases h

/-- With bad settings all commands do alike, setting the project up included: the file is there. -/
theorem ofInstruction_of_error (host : Host) (hfile : p.files.exists? p.settingsPath = true)
    {e : SettingsError} (h : p.settings overrides = .error e) (instruction : Instruction) :
    let run := Run.ofInstruction host p overrides instruction
    run.reply = .badSettings p.settingsPath.text e ∧ run.project = p ∧ run.events = [] := by
  cases instruction with
  | init =>
    have hinit : Run.ofInstruction host p overrides .init = Run.init p overrides := rfl
    rw [hinit, Run.init, Run.withSettings, if_pos hfile, h]
    exact ⟨rfl, rfl, rfl⟩
  | _ =>
    rw [Run.ofInstruction, Run.withSettings, h]
    exact ⟨rfl, rfl, rfl⟩

theorem endsAll_of_error (hfile : p.files.exists? p.settingsPath = true) {e : SettingsError}
    (h : p.settings overrides = .error e) :
    p.EndsAll host overrides (settingsExit e) (Reply.badSettings p.settingsPath.text e).notice := by
  rintro options instruction rfl
  obtain ⟨hreply, hproject, hevents⟩ := ofInstruction_of_error host hfile h instruction
  exact ⟨congrArg Reply.exit hreply, hproject, hevents, congrArg Reply.notice hreply⟩

theorem reports_of_error (hfile : p.files.exists? p.settingsPath = true) {e : SettingsError}
    (h : p.settings overrides = .error e) (he : ∀ reason, e ≠ .undecodable reason) :
    p.Reports host overrides := by
  have hends : p.EndsAll host overrides _ _ := endsAll_of_error hfile h
  cases e with
  | undecodable reason => exact absurd rfl (he reason)
  | malformed =>
    refine ⟨⟨_, _, h, rfl, hends⟩, fun typed => ?_, fun typed => ?_⟩
    · rw [completeWorkflow, suggest, h]
    · rw [completeTask, suggest, h]
  | invalid faults =>
    refine ⟨⟨_, _, h, rfl, hends⟩, fun typed => ?_, fun typed => ?_⟩
    · rw [completeWorkflow, suggest, h]
    · rw [completeTask, suggest, h]

theorem breaksOff_of_undecodable (hfile : p.files.exists? p.settingsPath = true)
    {reason : Unreadable} (h : p.settings overrides = .error (.undecodable reason)) :
    p.BreaksOff host overrides where
  endsAll := endsAll_of_error hfile h
  completeWorkflow typed := ⟨reason, by rw [completeWorkflow, suggest, h]⟩
  completeTask typed := ⟨reason, by rw [completeTask, suggest, h]⟩

/-- Where suggestions are asked for in vain, the settings are neither loaded nor reported. -/
theorem BreaksOff.exists_undecodable (h : p.BreaksOff host overrides) :
    ∃ reason, p.settings overrides = .error (.undecodable reason) := by
  obtain ⟨reason, hfail⟩ := h.completeWorkflow ""
  unfold Project.completeWorkflow suggest at hfail
  split at hfail
  · cases hfail
  · next reason' hsettings => exact ⟨reason', hsettings⟩
  · cases hfail

theorem Reports.not_breaksOff (h : p.Reports host overrides) : ¬ p.BreaksOff host overrides := by
  intro hbreaks
  obtain ⟨reason, hfail⟩ := hbreaks.completeWorkflow ""
  rw [h.completeWorkflow] at hfail
  cases hfail

/-- **A settings file is loaded or reported exactly if it can be gone through.** Otherwise every
command and every suggestion breaks off. A text without a long run of digits can always be gone
through. Bytes that spell no text never can, nor can a text that begins with a field whose integer is
too long. -/
theorem loaded_or_reported_iff (host : Host) (p : Project) (overrides : Overrides)
    {bytes : Utf8.Bytes} (h : p.files.read? p.settingsPath = some bytes) :
    ((∃ s, p.settings overrides = .ok s) ∨ p.Reports host overrides ↔ GoneThrough bytes) ∧
      (p.BreaksOff host overrides ↔ ¬ GoneThrough bytes) ∧
      (∀ cs, bytes = Utf8.encode cs → ¬ Toml.HasLongRun cs → GoneThrough bytes) ∧
      ((∀ cs, bytes ≠ Utf8.encode cs) → ¬ GoneThrough bytes) ∧
      ∀ key ds rest, Toml.IsBareName key → Toml.TooLong ds → Toml.Stops rest →
        bytes = Utf8.encode (key ++ (" = ".toList ++ (ds ++ rest))) → ¬ GoneThrough bytes := by
  have hfile := exists_of_read? h
  have hbad : (∃ reason, p.settings overrides = .error (.undecodable reason)) ↔
      ¬ GoneThrough bytes := by
    simp only [settings_eq_error_iff h, Settings.exists_undecodable_iff]
  refine ⟨?_, ?_, ?_, ?_, ?_⟩
  · constructor
    · intro hgood
      refine Classical.byContradiction fun hnot => ?_
      obtain ⟨reason, hreason⟩ := hbad.2 hnot
      rcases hgood with ⟨s, hs⟩ | hreports
      · rw [hreason] at hs
        cases hs
      · exact hreports.not_breaksOff (breaksOff_of_undecodable hfile hreason)
    · intro hthrough
      cases hsettings : p.settings overrides with
      | ok s => exact .inl ⟨s, rfl⟩
      | error e =>
        refine .inr (reports_of_error hfile hsettings fun reason he => ?_)
        exact hbad.1 ⟨reason, he ▸ hsettings⟩ hthrough
  · refine ⟨fun hbreaks => hbad.1 hbreaks.exists_undecodable, fun hnot => ?_⟩
    obtain ⟨reason, hreason⟩ := hbad.2 hnot
    exact breaksOff_of_undecodable hfile hreason
  · rintro cs rfl hrun
    exact goneThrough_of_not_hasLongRun hrun
  · rintro hno ⟨cs, hcs, -⟩
    exact hno cs hcs.symm
  · rintro key ds rest hkey hds hrest rfl
    rw [goneThrough_encode_iff, Toml.read_longField hkey hds hrest]
    exact fun hne => hne rfl

/-- A project with a settings file of certain bytes. -/
def withSettingsFile (bytes : Utf8.Bytes) : Project where
  files := ⟨[([".plait"], .folder), ([".plait", "config.toml"], .file bytes)]⟩
  root := .ofString "/"

/-- A settings file with a time of no seconds. -/
def timeless : Project := withSettingsFile (Utf8.ofString "[loop]\ntimeout = 0\n")

/-- A host on which nothing runs. -/
def idleHost : Host where
  now := motley.generated
  execute p _ := (.exited 127 "" "", p.files)

/-- That such settings are of no use is reported, since they can be gone through. -/
theorem reports_timeless : timeless.Reports idleHost {} := by
  have hfile : timeless.files.read? timeless.settingsPath =
      some (Utf8.ofString "[loop]\ntimeout = 0\n") := by
    decide +kernel
  have hread : (Toml.read "[loop]\ntimeout = 0\n".toList).isOk = true := by decide +kernel
  have hsettings : (timeless.settings {}).isOk = false := by decide +kernel
  have hthrough : GoneThrough (Utf8.ofString "[loop]\ntimeout = 0\n") := by
    refine goneThrough_encode_iff.2 fun hoverlong => ?_
    rw [hoverlong] at hread
    cases hread
  obtain ⟨hgood, -⟩ := loaded_or_reported_iff idleHost timeless {} hfile
  rcases hgood.2 hthrough with ⟨s, hs⟩ | hreports
  · rw [hs] at hsettings
    cases hsettings
  · exact hreports

/-- A settings file of one byte, with which no character begins. -/
def garbled : Project := withSettingsFile [0xFF]

/-- It is neither loaded nor reported. A command ends with status 1 and without a message, and there
are no suggestions. -/
theorem undecodable_garbled :
    garbled.settings {} = .error (.undecodable (.notText ⟨0, 0xFF, 1, .badStart⟩)) ∧
      ((Invocation.run {} .next).answer idleHost garbled).exit = 1 ∧
      ((Invocation.run {} .next).answer idleHost garbled).out = "" ∧
      (garbled.completeWorkflow {} "").outcome.isOk = false ∧
      (garbled.completeTask idleHost {} "").outcome.isOk = false := by
  have hfile : garbled.files.read? garbled.settingsPath = some [0xFF] := by decide +kernel
  have hdecode : Utf8.decode [0xFF] = .error ⟨0, 0xFF, 1, .badStart⟩ := by
    rw [Utf8.decode, Utf8.decodeAt]
    rfl
  refine ⟨(settings_eq_error_iff hfile).2 ?_, by decide +kernel⟩
  rw [Settings.read, hdecode]

end Project

end Runbook
