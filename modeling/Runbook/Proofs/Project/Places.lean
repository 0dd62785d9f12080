import Runbook.Project.Basic
import Runbook.Proofs.File.Path
import Runbook.Proofs.Plan.Record

/-!
# `Proofs/Project/Places` — where a project looks for its files

The settings file says where the workflow documents and the tasks file are, and so may the command
line. What is looked at in the end is a place that does not depend on the folder one happens to be
in. A path that was chosen leads there from the root of the project (`File.Path.LeadsTo`), and it
was chosen for each of the two by itself: the path of the command line, or else that of the settings
file, or else the usual one.

All else in the settings is what the file says (`Settings.IsReadFrom`). Sessions on the project then
depend on the settings and the files alone (`Project.IsWired`).
-/

set_option autoImplicit false

namespace Runbook

open Runbook.Text

/-! ## What a settings file says -/

/-- The field of a record, if it has one of the name. -/
def Datum.field? (name : String) : Datum → Option Datum
  | .record fields => Fields.get? fields name
  | _ => none

namespace Settings

/-- The data of a settings file, if there is a file and it can be read. -/
def datum? (file : Option Utf8.Bytes) : Option Datum :=
  match file.map Utf8.decode with
  | some (.ok cs) => (Toml.read cs).toOption
  | _ => none

/-- What stands in a settings file under a name in a section. -/
def given? (file : Option Utf8.Bytes) (part name : String) : Option Datum :=
  ((datum? file).bind (Datum.field? part)).bind (Datum.field? name)

/-- A value is what an entry means, or the usual one where there is no entry. -/
def Takes {α : Type} (entry : Option Datum) (check : Datum → Checked α) (usual value : α) :
    Prop :=
  match entry with
  | some d => check d = .valid value
  | none => value = usual

/-- The settings are those of a settings file, if there is one, and the usual ones where it is
silent. A path is the one that is written there, whatever it leads to. -/
structure IsReadFrom (file : Option Utf8.Bytes) (s : Settings) : Prop where
  workflows : Takes (given? file "workflows" "dir") checkPath (.ofString ".windsurf/workflows")
    s.workflows
  store : Takes (given? file "store" "path") checkPath (.ofString ".plait/tasks.json") s.store
  shell : Takes (given? file "loop" "shell") Datum.asText "/bin/bash" s.shell
  timeout : Takes (given? file "loop" "timeout") Datum.asPositive 120 s.timeout
  strict : Takes (given? file "parser" "strict_markers") (Datum.asBool .toml) true s.strict

theorem takes_of_checkValue {α : Type} {fields : Fields} {name : String} {usual value : α}
    {check : Datum → Checked α} (h : checkValue fields name usual check = .valid value) :
    Takes (fields.get? name) check usual value := by
  unfold checkValue Fields.default Fields.check Fields.lookup FieldName.plain at h
  dsimp only at h
  cases hfield : fields.get? name with
  | none =>
    simp only [hfield, Option.map_none] at h
    injection h with h
    exact h.symm
  | some d =>
    simp only [hfield] at h
    exact Checked.under_eq_valid h

/-- In a section that is not there nothing is said. -/
theorem exists_of_checkSection {α : Type} {fields : Fields} {name : String} {absent a : α}
    {check : Fields → Checked α} (h : checkSection fields name absent check = .valid a)
    (habsent : check [] = .valid absent) :
    ∃ inner : Fields, check inner = .valid a ∧
      ∀ key, (fields.get? name).bind (Datum.field? key) = inner.get? key := by
  have htakes : Takes (fields.get? name) (Datum.asRecordOf check) absent a :=
    takes_of_checkValue h
  cases hfield : fields.get? name with
  | none =>
    rw [hfield] at htakes
    obtain rfl : a = absent := htakes
    exact ⟨[], habsent, fun _ => rfl⟩
  | some d =>
    rw [hfield] at htakes
    cases d with
    | record inner => exact ⟨inner, htakes, fun _ => rfl⟩
    | _ => cases htakes

/-- A section of one value. -/
theorem takes_of_checkSection {α : Type} {fields : Fields} {part name : String} {usual value : α}
    {check : Datum → Checked α}
    (h : checkSection fields part usual (fun f => checkValue f name usual check) = .valid value) :
    Takes ((fields.get? part).bind (Datum.field? name)) check usual value := by
  obtain ⟨inner, hinner, hentry⟩ := exists_of_checkSection h rfl
  rw [hentry]
  exact takes_of_checkValue hinner

/-- Settings that data denotes are read from its entries. -/
theorem takes_of_ofDatum {d : Datum} {s : Settings} (h : ofDatum d = .valid s) :
    let entry (part name : String) := (d.field? part).bind (Datum.field? name)
    Takes (entry "workflows" "dir") checkPath (.ofString ".windsurf/workflows") s.workflows ∧
      Takes (entry "store" "path") checkPath (.ofString ".plait/tasks.json") s.store ∧
      Takes (entry "loop" "shell") Datum.asText "/bin/bash" s.shell ∧
      Takes (entry "loop" "timeout") Datum.asPositive 120 s.timeout ∧
      Takes (entry "parser" "strict_markers") (Datum.asBool .toml) true s.strict := by
  cases d with
  | record fields =>
    obtain ⟨_, strict, hloop, hstrict, rfl⟩ := Checked.seq_eq_valid h
    obtain ⟨_, loop, hstore, hlooped, rfl⟩ := Checked.seq_eq_valid hloop
    obtain ⟨_, store, hworkflows, hstored, rfl⟩ := Checked.seq_eq_valid hstore
    obtain ⟨workflows, hplaced, rfl⟩ := Checked.map_eq_valid hworkflows
    obtain ⟨inner, hinner, hentry⟩ := exists_of_checkSection hlooped rfl
    obtain ⟨_, timeout, hshell, htimeout, rfl⟩ := Checked.seq_eq_valid hinner
    obtain ⟨shell, hshelled, rfl⟩ := Checked.map_eq_valid hshell
    refine ⟨takes_of_checkSection hplaced, takes_of_checkSection hstored, ?_, ?_,
      takes_of_checkSection hstrict⟩
    · show Takes ((Fields.get? fields "loop").bind _) _ _ _
      rw [hentry]
      exact takes_of_checkValue hshelled
    · show Takes ((Fields.get? fields "loop").bind _) _ _ _
      rw [hentry]
      exact takes_of_checkValue htimeout
  | _ => cases h

/-- Settings that are loaded are read from the file. -/
theorem isReadFrom_of_load {file : Option Utf8.Bytes} {s : Settings} (h : load file = .ok s) :
    s.IsReadFrom file := by
  cases file with
  | none =>
    obtain rfl : {} = s := Except.ok.inj h
    exact ⟨rfl, rfl, rfl, rfl, rfl⟩
  | some bytes =>
    unfold load read at h
    cases hdecode : Utf8.decode bytes with
    | error fault =>
      simp only [hdecode] at h
      cases h
    | ok cs =>
      simp only [hdecode] at h
      cases hread : Toml.read cs with
      | error e =>
        simp only [hread] at h
        cases e <;> cases h
      | ok d =>
        simp only [hread] at h
        cases hcheck : ofDatum d with
        | invalid faults =>
          simp only [hcheck] at h
          cases h
        | valid checked =>
          simp only [hcheck] at h
          obtain rfl : checked = s := Except.ok.inj h
          have hdatum : datum? (some bytes) = some d := by
            unfold datum?
            simp only [Option.map_some, hdecode, hread]
            rfl
          obtain ⟨hworkflows, hstore, hshell, htimeout, hstrict⟩ := takes_of_ofDatum hcheck
          constructor <;> (unfold given?; rw [hdatum]; assumption)

end Settings

/-! ## Where a path leads -/

/-- Where a path that was chosen leads from a root: it is kept if it depends on no place, and else
it is joined to the root, which is to write it behind the root. -/
structure File.Path.LeadsTo (root chosen found : File.Path) : Prop where
  isAbsolute : found.isAbsolute = true
  kept : chosen.isAbsolute = true → found = chosen
  joined : chosen.isAbsolute = false → found = ⟨root.anchor, root.names ++ chosen.names⟩
  written : ∀ s, chosen = .ofString s → chosen.isAbsolute = false → root.IsNormal →
    found = .ofString (root.text ++ root.separator ++ s)

theorem File.Path.leadsTo_join {root : File.Path} (hroot : root.isAbsolute = true)
    (chosen : File.Path) : root.LeadsTo chosen (root.join chosen) where
  isAbsolute := isAbsolute_join hroot
  kept := join_of_isAbsolute
  joined h := by
    rw [join, h]
    rfl
  written := by
    rintro s rfl hs hnormal
    exact (ofString_text_append hroot hnormal hs).symm

/-! ## What sessions on a project depend on -/

namespace Project

/-- Sessions on a project read documents in the folder of the settings and as strictly as they say,
those of a loop's workflow from the files as they then are, and keep their plan in the tasks file of
the settings. -/
structure IsWired (p : Project) (host : Host) (s : Settings) : Prop where
  read : (p.context host s).read =
    Workflow.Folder.read ⟨p.files, s.workflows, if s.strict then .strict else .lenient⟩
  names : (p.context host s).names =
    Workflow.Folder.names ⟨p.files, s.workflows, if s.strict then .strict else .lenient⟩
  tasks : ∃ limit, (p.context host s).tasks = flatten
    (.bounded limit fun workflow session =>
      let docs : Workflow.Folder :=
        ⟨session.store.files, s.workflows, if s.strict then .strict else .lenient⟩
      ⟨(docs.read workflow).events, session, (docs.read workflow).outcome.mapError .document⟩)
    (Command.runner (p.execute host) (some s.shell) (some s.timeout))
  store : p.workspace s = ⟨p.files, s.store⟩

theorem isWired (p : Project) (host : Host) (s : Settings) : p.IsWired host s :=
  ⟨rfl, rfl, ⟨_, rfl⟩, rfl⟩

/-- **Each of the two paths is chosen by itself and leads to a place of its own, and nothing else
changes.** The path of the command line goes before that of the settings file, and that before the
usual one. -/
theorem settings_of_load {p : Project} (hroot : p.root.isAbsolute = true)
    {loaded : Settings} (hload : Settings.load (p.files.read? p.settingsPath) = .ok loaded)
    (overrides : Overrides) :
    loaded.IsReadFrom (p.files.read? p.settingsPath) ∧
      ∃ settings, p.settings overrides = .ok settings ∧
        p.root.LeadsTo (overrides.workflows.getD loaded.workflows) settings.workflows ∧
        p.root.LeadsTo (overrides.store.getD loaded.store) settings.store ∧
        settings.shell = loaded.shell ∧ settings.timeout = loaded.timeout ∧
        settings.strict = loaded.strict ∧
        (∀ root, settings.resolve {} root = settings) ∧
        ∀ host, p.IsWired host settings := by
  refine ⟨Settings.isReadFrom_of_load hload, loaded.resolve overrides p.root, ?_,
    File.Path.leadsTo_join hroot _, File.Path.leadsTo_join hroot _, rfl, rfl, rfl, ?_,
    fun host => p.isWired host _⟩
  · rw [settings, hload]
    rfl
  · intro root
    have hagain : ∀ chosen : File.Path, root.join (p.root.join chosen) = p.root.join chosen :=
      fun _ => File.Path.join_of_isAbsolute (File.Path.isAbsolute_join hroot)
    simp only [Settings.resolve, Option.getD_none, hagain]

/-- A project whose settings file moves the documents and says how they are read. -/
def moved : Project where
  files :=
    ⟨[(["home"], .folder), (["home", ".plait"], .folder),
      (["home", ".plait", "config.toml"], .file (Utf8.ofString
        "[workflows]\ndir = \"docs/./flows//\"\n[parser]\nstrict_markers = \"off\"\n"))]⟩
  root := .ofString "/home"

theorem settings_moved :
    moved.root.isAbsolute = true ∧
      ∃ settings, moved.settings { store := some (.ofString "../t.json") } = .ok settings ∧
        settings.workflows = .ofString "/home/docs/flows" ∧
        settings.store = .ofString "/home/../t.json" ∧ settings.shell = "/bin/bash" ∧
        settings.timeout = 120 ∧ settings.strict = false ∧
        ∀ host, moved.IsWired host settings := by
  have hroot : moved.root.isAbsolute = true := by decide +kernel
  have hload : Settings.load (moved.files.read? moved.settingsPath) =
      .ok { workflows := .ofString "docs/flows", strict := false } := by
    have hoption : (Settings.load (moved.files.read? moved.settingsPath)).toOption =
        some { workflows := .ofString "docs/flows", strict := false } := by
      decide +kernel
    cases hloaded : Settings.load (moved.files.read? moved.settingsPath) with
    | error e =>
      rw [hloaded] at hoption
      cases hoption
    | ok loaded =>
      rw [hloaded] at hoption
      rw [Option.some.inj hoption]
  obtain ⟨-, settings, hsettings, hworkflows, hstore, hshell, htimeout, hstrict, -, hwired⟩ :=
    settings_of_load hroot hload { store := some (.ofString "../t.json") }
  refine ⟨hroot, settings, hsettings, ?_, ?_, hshell, htimeout, hstrict, hwired⟩
  · exact hworkflows.written "docs/flows" rfl (by decide +kernel) (by decide +kernel)
  · exact hstore.written "../t.json" rfl (by decide +kernel) (by decide +kernel)

end Project

end Runbook
