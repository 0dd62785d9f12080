import Mathlib.Data.List.Pairwise
import Mathlib.Data.Set.Function
import Mathlib.Data.String.Basic
import Runbook.Proofs.File.Path
import Runbook.Proofs.Session.Expansion
import Runbook.Proofs.Store.Laws
import Runbook.Session.Operation
import Runbook.Workflow.Folder

/-!
# `Proofs/Session/Listing` — the workflows that are listed

A listing goes through the files of a folder and makes names of those that end in `.md`, by taking the
ending off. A document is found the other way round, by putting the ending behind a name. The two undo
each other on every file but one: a file whose name is nothing but the ending keeps its name, and then
another document is looked for. If there is no such file, names and documents correspond one to one
(`Workflow.Folder.bijOn_documentPath_iff`), and whatever is listed is there.
-/

set_option autoImplicit false

namespace Runbook

open Runbook.File Runbook.Text

namespace Workflow.Folder

/-- There is a file of a name in the folder; folders do not count. -/
def HasFile (f : Folder) (file : String) : Prop :=
  ∃ bytes, (file, .file bytes) ∈ f.tree.entriesOf f.path

/-- The documents of a folder: where its files are whose names end in `.md`. -/
def documentPaths (f : Folder) : Set Path :=
  {path | ∃ front, f.HasFile (front ++ ".md") ∧ path = f.path.child (front ++ ".md")}

/-! ## Names of workflows -/

theorem workflowOf?_eq_some_iff {file name : String} : workflowOf? file = some name ↔
    (name ≠ "" ∧ file = name ++ ".md") ∨ (name = ".md" ∧ file = ".md") := by
  have hending : ∀ stem, before? ".md".toList file.toList = some stem ↔
      file = String.ofList stem ++ ".md" := by
    intro stem
    have hsame : file = String.ofList stem ++ ".md" ↔ file.toList = stem ++ ".md".toList := by
      rw [← String.toList_inj, String.toList_append, String.toList_ofList]
    rw [hsame]
    exact before?_eq_some_iff
  unfold workflowOf?
  rw [Option.map_eq_some_iff]
  constructor
  · rintro ⟨stem, hstem, hname⟩
    rw [hending] at hstem
    split at hname
    · next hempty =>
      obtain rfl : stem = [] := List.isEmpty_iff.1 hempty
      exact .inr ⟨hname ▸ hstem, hstem⟩
    · next hne =>
      subst hname
      refine .inl ⟨fun hempty => hne ?_, hstem⟩
      rw [← String.toList_inj, String.toList_ofList] at hempty
      exact List.isEmpty_iff.2 hempty
  · rintro (⟨hne, rfl⟩ | ⟨rfl, rfl⟩)
    · refine ⟨name.toList, (hending _).2 (by rw [String.ofList_toList]), ?_⟩
      rw [if_neg, String.ofList_toList]
      simpa using hne
    · exact ⟨[], by decide, rfl⟩

/-- What an entry of the folder contributes to the names. -/
def nameFor? : String × Node → Option String
  | (file, .file _) => workflowOf? file
  | (_, .folder) => none

theorem names_eq (f : Folder) : f.names =
    ((f.tree.entriesOf f.path).filterMap nameFor?).mergeSort fun a b => decide (a ≤ b) := rfl

theorem nameFor?_eq_some_iff {entry : String × Node} {name : String} :
    nameFor? entry = some name ↔
      ∃ bytes, entry.2 = .file bytes ∧
        ((name ≠ "" ∧ entry.1 = name ++ ".md") ∨ (name = ".md" ∧ entry.1 = ".md")) := by
  obtain ⟨file, node⟩ := entry
  cases node with
  | folder => simp [nameFor?]
  | file bytes => simp [nameFor?, workflowOf?_eq_some_iff]

variable {f : Folder}

/-- What is listed: what the ending makes a file, and the ending itself if it is a file. -/
theorem mem_names_iff {name : String} : name ∈ f.names ↔
    (name ≠ "" ∧ f.HasFile (name ++ ".md")) ∨ (name = ".md" ∧ f.HasFile ".md") := by
  rw [names_eq, List.mem_mergeSort, List.mem_filterMap]
  simp only [nameFor?_eq_some_iff]
  constructor
  · rintro ⟨⟨file, node⟩, hmem, bytes, rfl, ⟨hne, rfl⟩ | ⟨rfl, rfl⟩⟩
    · exact .inl ⟨hne, bytes, hmem⟩
    · exact .inr ⟨rfl, bytes, hmem⟩
  · rintro (⟨hne, bytes, hmem⟩ | ⟨rfl, bytes, hmem⟩)
    · exact ⟨_, hmem, bytes, rfl, .inl ⟨hne, rfl⟩⟩
    · exact ⟨_, hmem, bytes, rfl, .inr ⟨rfl, rfl⟩⟩

theorem pairwise_names (f : Folder) : f.names.Pairwise (· ≤ ·) := by
  have htrans : ∀ a b c : String, decide (a ≤ b) = true → decide (b ≤ c) = true →
      decide (a ≤ c) = true := by
    simpa using fun a b c => le_trans
  have htotal : ∀ a b : String, (decide (a ≤ b) || decide (b ≤ a)) = true := by
    simpa using le_total
  exact (List.pairwise_mergeSort htrans htotal _).imp fun h => of_decide_eq_true h

/-- No name is listed twice, unless both the ending and what the ending makes of it are files. -/
theorem nodup_names_iff (hf : f.tree.IsProper) :
    f.names.Nodup ↔ ¬ (f.HasFile ".md" ∧ f.HasFile ".md.md") := by
  let Apart (entry entry' : String × Node) : Prop := ∀ name, nameFor? entry = some name →
    ∀ name', nameFor? entry' = some name' → name ≠ name'
  have hapart : f.names.Nodup ↔ (f.tree.entriesOf f.path).Pairwise Apart := by
    rw [names_eq, (List.mergeSort_perm _ _).nodup_iff, List.Nodup, List.pairwise_filterMap]
  rw [hapart]
  constructor
  · rintro h ⟨⟨bytes, hmem⟩, ⟨bytes', hmem'⟩⟩
    have hsymm : Std.Symm Apart :=
      ⟨fun _ _ h name hname name' hname' => (h name' hname' name hname).symm⟩
    have hname : nameFor? (".md", .file bytes) = some ".md" := rfl
    have hname' : nameFor? (".md.md", .file bytes') = some ".md" := rfl
    exact h.forall hmem hmem' (by simp) _ hname _ hname' rfl
  · intro h
    refine (List.pairwise_map.1 (hf.nodup_entriesOf f.path)).imp_of_mem ?_
    rintro ⟨file, node⟩ ⟨file', node'⟩ hmem hmem' hne name hname name' hname' rfl
    obtain ⟨bytes, rfl, hname⟩ := nameFor?_eq_some_iff.1 hname
    obtain ⟨bytes', rfl, hname'⟩ := nameFor?_eq_some_iff.1 hname'
    rcases hname with ⟨-, rfl⟩ | ⟨rfl, rfl⟩
    · rcases hname' with ⟨-, rfl⟩ | ⟨rfl, rfl⟩
      · exact hne rfl
      · exact h ⟨⟨bytes', hmem'⟩, ⟨bytes, hmem⟩⟩
    · rcases hname' with ⟨-, rfl⟩ | ⟨-, rfl⟩
      · exact h ⟨⟨bytes, hmem⟩, ⟨bytes', hmem'⟩⟩
      · exact hne rfl

theorem strictlySorted_names_iff (hf : f.tree.IsProper) :
    f.names.Pairwise (· < ·) ↔ ¬ (f.HasFile ".md" ∧ f.HasFile ".md.md") := by
  rw [← nodup_names_iff hf]
  constructor
  · exact fun h => h.imp ne_of_lt
  · exact fun h => (f.pairwise_names.and h).imp fun ⟨hle, hne⟩ => lt_of_le_of_ne hle hne

/-! ## Documents -/

theorem names_child_of_isName {base : Path} {name : String} (h : File.IsName name) :
    (base.child name).names = base.names ++ [name] := by
  rw [Path.child, Path.ofString_of_isName h]
  rfl

theorem HasFile.isName (hf : f.tree.IsProper) {file : String} (h : f.HasFile file) :
    File.IsName file := by
  obtain ⟨bytes, hmem⟩ := h
  exact (hf.isName_of_mem_entriesOf hmem).1

/-- A file of the folder is what is read under its name. -/
theorem hasFile_iff (hf : f.tree.IsProper) {file : String} (hname : File.IsName file)
    (hup : file ≠ "..") : f.HasFile file ↔ f.tree.read? (f.path.child file) ≠ none := by
  unfold HasFile Tree.read?
  simp only [hf.mem_entriesOf_iff hname hup]
  constructor
  · rintro ⟨bytes, hbytes⟩
    rw [hbytes]
    exact Option.some_ne_none _
  · intro h
    split at h
    · next bytes hbytes => exact ⟨bytes, hbytes⟩
    · exact absurd rfl h

/-- Reading the steps of a document does not look for it. -/
theorem readSteps_ne_notFound (strictness : Strictness) (workflow text : String)
    (name path : String) :
    (readSteps strictness workflow text).outcome ≠ .error (.notFound name path) := by
  intro h
  cases strictness with
  | lenient =>
    rw [outcome_readSteps_lenient] at h
    cases h
  | strict =>
    rw [outcome_readSteps_strict] at h
    split at h <;> cases h

/-- A document is not found exactly if there is no file where it is expected. -/
theorem notFound_iff {name : String} :
    (∃ workflow path, (f.read name).outcome = .error (.notFound workflow path)) ↔
      f.tree.read? (f.documentPath name) = none := by
  unfold read
  cases f.tree.read? (f.documentPath name) with
  | none => exact ⟨fun _ => rfl, fun _ => ⟨_, _, rfl⟩⟩
  | some bytes =>
    refine ⟨?_, nofun⟩
    rintro ⟨workflow, path, h⟩
    dsimp only at h
    split at h
    · cases h
    · next cs _ =>
      have hne := readSteps_ne_notFound f.strictness name (documentText cs) workflow path
      rw [Traced.outcome_bind] at h
      cases hsteps : (readSteps f.strictness name (documentText cs)).outcome with
      | ok steps =>
        rw [hsteps] at h
        cases h
      | error e =>
        rw [hsteps] at h hne
        exact absurd h hne

/-- What is listed is found, unless it is the ending. -/
theorem notFound_iff_of_mem_names (hf : f.tree.IsProper) {name : String} (h : name ∈ f.names) :
    (∃ workflow path, (f.read name).outcome = .error (.notFound workflow path)) ↔
      name = ".md" ∧ ¬ f.HasFile ".md.md" := by
  have hdocument : ∀ {file}, f.HasFile file → f.tree.read? (f.path.child file) ≠ none := by
    rintro file ⟨bytes, hmem⟩
    obtain ⟨hname, hup⟩ := hf.isName_of_mem_entriesOf hmem
    exact (hasFile_iff hf hname hup).1 ⟨bytes, hmem⟩
  rw [notFound_iff]
  constructor
  · intro hnone
    rcases mem_names_iff.1 h with ⟨-, hfile⟩ | ⟨rfl, -⟩
    · exact absurd hnone (hdocument hfile)
    · exact ⟨rfl, fun hfile => hdocument hfile hnone⟩
  · rintro ⟨rfl, hfile⟩
    exact not_not.1 (mt (hasFile_iff hf (by decide) (by decide)).2 hfile)

/-- The paths of files differ as their names do. -/
theorem child_injOn (base : Path) : Set.InjOn base.child {name | File.IsName name} := by
  intro name hname name' hname' h
  have hnames := congrArg Path.names h
  rw [names_child_of_isName hname, names_child_of_isName hname'] at hnames
  simpa using hnames

/-- **Names and documents correspond one to one**, exactly if no file has nothing but the ending for a
name. -/
theorem bijOn_documentPath_iff (hf : f.tree.IsProper) :
    Set.BijOn f.documentPath {name | name ∈ f.names} f.documentPaths ↔ ¬ f.HasFile ".md" := by
  constructor
  · rintro ⟨-, -, hsurj⟩ hfile
    -- The document would have the empty name, which is never listed.
    obtain ⟨name, hmem, hpath⟩ := hsurj ⟨"", hfile, rfl⟩
    rcases mem_names_iff.1 hmem with ⟨hne, hnamed⟩ | ⟨rfl, -⟩
    · have hsame := child_injOn f.path (hnamed.isName hf) (hfile.isName hf) hpath
      exact hne ((String.append_left_inj ".md").1 hsame)
    · have hsame : ".md.md" = ".md" :=
        child_injOn f.path (by decide : File.IsName ".md.md") (hfile.isName hf) hpath
      exact absurd hsame (by decide)
  · intro hfile
    have hmem : ∀ {name}, name ∈ f.names → name ≠ "" ∧ f.HasFile (name ++ ".md") := by
      intro name h
      rcases mem_names_iff.1 h with h | ⟨-, hending⟩
      · exact h
      · exact absurd hending hfile
    refine ⟨?_, ?_, ?_⟩
    · intro name h
      exact ⟨name, (hmem h).2, rfl⟩
    · intro name h name' h' hpath
      have hsame := child_injOn f.path ((hmem h).2.isName hf) ((hmem h').2.isName hf) hpath
      exact (String.append_left_inj ".md").1 hsame
    · rintro path ⟨front, hfront, rfl⟩
      refine ⟨front, mem_names_iff.2 (.inl ⟨?_, hfront⟩), rfl⟩
      rintro rfl
      exact hfile hfront

end Workflow.Folder

/-! ## Listings -/

variable {σ : Type} [Store σ]

/-- Making a plan for a workflow fails over its document if that cannot be read, whatever the commands
do. -/
theorem ensures_generate_of_error {lib : Library} {name : String} {e : DocumentError}
    (h : (lib.read name).outcome = .error e) (names : List String) (run : Runner (Work σ))
    (now : Time.Timestamp) :
    (Session.generate (.withCommands lib names run now) name).Ensures fun _ answer =>
      answer = .error (.document e) := by
  have hexpand : (expand (lib.sourceIn σ) run "" [] name).Ensures fun _ answer =>
      answer = .error (.document e) := by
    refine ensures_expand_of_notMem List.not_mem_nil (fun fault hfault => ?_) fun steps hsteps => ?_
    · rw [h] at hfault
      injection hfault with hfault
      rw [hfault]
    · rw [h] at hsteps
      cases hsteps
  have htell : (Work.tell (.generating name) : Work σ Unit).Ensures fun _ answer =>
      answer = .ok () := fun _ => rfl
  have htasks : ((Context.withCommands lib names run now).tasks name).Ensures fun _ answer =>
      answer = .error (.document e) := by
    refine hexpand.bind ?_ ?_
    · rintro _ tasks ⟨⟩
    · rintro _ failure ⟨⟩
      rfl
  unfold Session.generate
  refine htell.bind (fun _ _ _ => htasks.bind ?_ ?_) ?_
  · rintro _ tasks ⟨⟩
  · rintro _ failure ⟨⟩
    rfl
  · rintro _ failure ⟨⟩

namespace Workflow.Folder

/-- How a workflow is listed: with the number of its steps, or else with what is wrong with its
document, and over which making a plan for it fails. -/
inductive ListedAs (f : Folder) (ctx : Context σ) (name : String) : Listed → Prop
  | counted {steps : List Step} : (f.read name).outcome = .ok steps →
      ListedAs f ctx name ⟨name, .ok steps.length⟩
  | refused {e : DocumentError} : (f.read name).outcome = .error e →
      (∀ s, (Session.generate ctx name s).answer = .error (.document e)) →
      ListedAs f ctx name ⟨name, .error e.message⟩

variable {f : Folder}

theorem listedAs (f : Folder) (run : Runner (Work σ)) (now : Time.Timestamp) (name : String) :
    f.ListedAs (.withCommands f.library f.names run now) name
      (Session.listed f.library.read name).2 := by
  show f.ListedAs _ name
    ⟨name, ((f.read name).outcome.map List.length).mapError DocumentError.message⟩
  cases hread : (f.read name).outcome with
  | ok steps => exact .counted hread
  | error e =>
    have hlibrary : (f.library.read name).outcome = .error e := hread
    exact .refused hread (ensures_generate_of_error hlibrary _ run now)

/-- **Whatever is listed is there, and it is listed as it would be read**, in a folder that has no file
whose name is nothing but the ending. Then names and documents correspond one to one, and the names
are in order. A file of that name is listed under its whole name instead, and what is looked for then
is another document, which may be missing or listed already. -/
theorem listed_of_isProper (hf : f.tree.IsProper) (run : Runner (Work σ)) (now : Time.Timestamp)
    (s : Session σ) :
    (Set.BijOn f.documentPath {name | name ∈ f.names} f.documentPaths ↔ ¬ f.HasFile ".md") ∧
      f.names.Pairwise (· ≤ ·) ∧
      (f.names.Pairwise (· < ·) ↔ ¬ (f.HasFile ".md" ∧ f.HasFile ".md.md")) ∧
      (∀ name ∈ f.names,
        (∃ workflow path, (f.read name).outcome = .error (.notFound workflow path)) ↔
          name = ".md" ∧ ¬ f.HasFile ".md.md") ∧
      ∃ entries,
        (Session.list (.withCommands f.library f.names run now) s).answer = .ok entries ∧
        List.Forall₂ (f.ListedAs (.withCommands f.library f.names run now)) f.names entries := by
  refine ⟨bijOn_documentPath_iff hf, f.pairwise_names, strictlySorted_names_iff hf,
    fun name hname => notFound_iff_of_mem_names hf hname, _, rfl, ?_⟩
  rw [List.map_map, List.forall₂_map_right_iff]
  exact List.forall₂_same.2 fun name _ => f.listedAs run now name

/-- A folder with two documents, one of which is not text, and with a folder that has the name of
one. -/
def mixed : Folder where
  tree :=
    ⟨[(["docs"], .folder), (["docs", "b.md"], .file (Utf8.ofString "### Step 1: Do\n")),
      (["docs", "notes.txt"], .file []), (["docs", "a.md.md"], .file [0xFF]),
      (["docs", "c.md"], .folder)]⟩
  path := .ofString "/docs"
  strictness := .strict

/-- Commands that fail. -/
def failing : Runner (Work Memory) := fun _ s => ⟨[], s, .ok (.error "")⟩

/-- Both documents are listed, one with its single step and the other with the reason why it cannot be
read; the folder is not. -/
theorem listed_mixed :
    mixed.tree.IsProper ∧
      Set.BijOn mixed.documentPath {name | name ∈ mixed.names} mixed.documentPaths ∧
      mixed.names.Pairwise (· < ·) ∧
      (∀ name ∈ mixed.names, ∀ workflow path,
        (mixed.read name).outcome ≠ .error (.notFound workflow path)) ∧
      ∃ entries,
        (Session.list (.withCommands mixed.library mixed.names failing motley.generated)
          ⟨⟨some motley⟩, none⟩).answer = .ok entries ∧
        List.Forall₂
          (mixed.ListedAs (.withCommands mixed.library mixed.names failing motley.generated))
          mixed.names entries := by
  have hproper : mixed.tree.IsProper := by decide
  have hnone : ¬ mixed.HasFile ".md" := by
    rw [hasFile_iff hproper (by decide) (by decide)]
    decide +kernel
  obtain ⟨hbij, -, hsorted, hfound, hlisted⟩ :=
    listed_of_isProper hproper failing motley.generated ⟨⟨some motley⟩, none⟩
  refine ⟨hproper, hbij.2 hnone, hsorted.2 fun h => hnone h.1, ?_, hlisted⟩
  intro name hname workflow path hread
  obtain ⟨rfl, -⟩ := (hfound name hname).1 ⟨workflow, path, hread⟩
  rcases mem_names_iff.1 hname with ⟨-, hfile⟩ | ⟨-, hfile⟩
  · rw [hasFile_iff hproper (by decide) (by decide)] at hfile
    revert hfile
    decide +kernel
  · exact hnone hfile

/-- A folder with a document whose name is nothing but the ending. -/
def nameless : Folder where
  tree := ⟨[(["docs"], .folder), (["docs", ".md"], .file (Utf8.ofString "### Step 1: Do\n"))]⟩
  path := .ofString "/docs"
  strictness := .strict

/-- That document is listed under its whole name, and what is listed then is not there. -/
theorem notFound_nameless :
    nameless.tree.IsProper ∧ nameless.names = [".md"] ∧
      nameless.path.child ".md" ∈ nameless.documentPaths ∧
      ¬ Set.BijOn nameless.documentPath {name | name ∈ nameless.names} nameless.documentPaths ∧
      (nameless.read ".md").outcome = .error (.notFound ".md" "/docs/.md.md") := by
  have hproper : nameless.tree.IsProper := by decide
  have hfile : nameless.HasFile ".md" := by
    rw [hasFile_iff hproper (by decide) (by decide)]
    decide +kernel
  refine ⟨hproper, by decide +kernel, ⟨"", hfile, rfl⟩, ?_, by decide +kernel⟩
  rw [bijOn_documentPath_iff hproper]
  exact not_not.2 hfile

end Workflow.Folder

end Runbook
