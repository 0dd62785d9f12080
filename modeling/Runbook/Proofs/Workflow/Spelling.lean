import Mathlib.Data.List.Nodup
import Mathlib.Data.Set.Function
import Runbook.Proofs.Session.Branches
import Runbook.Workflow.Folder

/-!
# `Proofs/Workflow/Spelling` — names that stand for the same document

What is open is known by its name, and a document is found by its path. Several names may lead to
the same path, because a path drops what means nothing in it: `a` and `./a` are different names of
one document. So no name is open twice on a branch of an expansion, but a document may be, as often
as it is spelled differently (`nodup_documents_of_branches`).

Names that are spelled like paths (`Folder.IsPlain`) stand for different documents. Where only such
names can be reached, no document is open twice, and a reference back to an open one contributes
nothing.
-/

set_option autoImplicit false

namespace Runbook.Workflow

namespace Folder

/-- A name that is spelled like the path of its document, seen from the folder. -/
def IsPlain (name : String) : Prop :=
  (File.Path.ofString (name ++ ".md")).anchor = .relative ∧
    (File.Path.ofString (name ++ ".md")).text = name ++ ".md"

instance (name : String) : Decidable (IsPlain name) := inferInstanceAs (Decidable (_ ∧ _))

variable {f : Folder}

/-- Plain names stand for different documents. -/
theorem injOn_documentPath (f : Folder) : Set.InjOn f.documentPath {name | IsPlain name} := by
  rintro name ⟨hanchor, htext⟩ other ⟨hanchor', htext'⟩ hpath
  have hjoin : ∀ p : File.Path, p.anchor = .relative →
      f.path.join p = { f.path with names := f.path.names ++ p.names } := by
    intro p hp
    rw [File.Path.join, if_neg (by simp [File.Path.isAbsolute, hp])]
  unfold documentPath File.Path.child at hpath
  rw [hjoin _ hanchor, hjoin _ hanchor'] at hpath
  have hnames : (File.Path.ofString (name ++ ".md")).names =
      (File.Path.ofString (other ++ ".md")).names := by
    simpa using hpath
  have hsame : name ++ ".md" = other ++ ".md" := by
    rw [← htext, ← htext', File.Path.text, File.Path.text, hanchor, hanchor', hnames]
  exact (String.append_left_inj ".md").1 hsame

/-- Where the root is plain and every document refers to plain names only, there are no others. -/
theorem isPlain_of_reaches {root : String} (hroot : IsPlain root)
    (hplain : ∀ name ∈ f.library.references, IsPlain name) {name : String}
    (h : f.library.Reaches root name) : IsPlain name := by
  cases h with
  | refl => exact hroot
  | tail _ hlast => exact hplain name hlast.mem_references

/-- **No name is open twice on a branch, and a document only under different names.** -/
theorem nodup_documents_of_branches (f : Folder) (run : Runner (Traced DocumentError))
    (root : String) :
    (∀ opened ∈ f.library.branches run root, opened.Nodup ∧
      ((opened.map f.documentPath).Nodup ↔ Set.InjOn f.documentPath {name | name ∈ opened})) ∧
    ((∀ name, f.library.Reaches root name → IsPlain name) →
      ∀ opened ∈ f.library.branches run root, (opened.map f.documentPath).Nodup ∧
        ∀ name ∈ opened, ∀ target, f.library.Refers name target →
          f.documentPath target ∈ opened.map f.documentPath →
          ∀ lead, (expand f.library.source run lead opened target).outcome = .ok []) := by
  have hnames : ∀ opened ∈ f.library.branches run root, opened.Nodup :=
    fun opened hopened => (Library.isWay_of_mem_branches hopened).simple
  refine ⟨fun opened hopened => ⟨hnames opened hopened, ?_⟩, fun hplain opened hopened => ?_⟩
  · exact List.nodup_map_iff_inj_on (hnames opened hopened)
  · have hway := Library.isWay_of_mem_branches hopened
    have hopenPlain : ∀ name ∈ opened, IsPlain name :=
      fun name hname => hplain name (hway.reaches hname)
    refine ⟨(hnames opened hopened).map_on fun name hname other hother hpath => ?_, ?_⟩
    · exact f.injOn_documentPath (hopenPlain name hname) (hopenPlain other hother) hpath
    · intro name hname target hrefers htarget lead
      obtain ⟨other, hother, hpath⟩ := List.mem_map.1 htarget
      have htargetPlain : IsPlain target := hplain target ((hway.reaches hname).tail hrefers)
      obtain rfl : other = target :=
        f.injOn_documentPath (hopenPlain other hother) htargetPlain hpath
      exact outcome_expand_of_mem hother

end Folder

/-- A folder with two documents, which refer to each other. -/
def answering : Folder where
  tree := ⟨[(["a.md"], .file (Text.Utf8.ofString "### Step 1: Go\n<!-- workflow:b -->\n")),
    (["b.md"], .file (Text.Utf8.ofString "### Step 1: Back\n<!-- workflow:a -->\n"))]⟩
  path := ⟨.root, []⟩
  strictness := .strict

/-- The way back to the first of two documents is not taken. -/
theorem nodup_documents_answering :
    (∀ name, answering.library.Reaches "a" name → Folder.IsPlain name) ∧
      ∃ opened ∈ answering.library.branches (.steady (fun _ => []) fun _ => .ok "") "a",
        opened = ["b", "a"] ∧ (opened.map answering.documentPath).Nodup := by
  have hroot : Folder.IsPlain "a" := by decide +kernel
  have hplain : ∀ name, answering.library.Reaches "a" name → Folder.IsPlain name :=
    fun name => Folder.isPlain_of_reaches hroot (by decide +kernel)
  have hopened : ["b", "a"] ∈
      answering.library.branches (.steady (fun _ => []) fun _ => .ok "") "a" := by
    decide +kernel
  obtain ⟨-, hdocuments⟩ :=
    answering.nodup_documents_of_branches (.steady (fun _ => []) fun _ => .ok "") "a"
  exact ⟨hplain, ["b", "a"], hopened, rfl, (hdocuments hplain _ hopened).1⟩

/-- A folder with one document, which refers to itself by another name. -/
def respelled : Folder where
  tree := ⟨[(["a.md"], .file (Text.Utf8.ofString
    "### Step 1: Do\nText\n### Step 2: Again\n<!-- workflow:./a -->\n"))]⟩
  path := ⟨.root, []⟩
  strictness := .strict

/-- A document that is spelled differently the second time is opened twice on a branch, and its own
step is done twice. -/
theorem not_nodup_documents_respelled :
    (∃ opened ∈ respelled.library.branches (.steady (fun _ => []) fun _ => .ok "") "a",
      ¬ (opened.map respelled.documentPath).Nodup) ∧
    (flatten respelled.library.source (.steady (fun _ => []) fun _ => .ok "") "a").outcome.map
      (List.map fun task => (task.source, task.step)) = .ok [("a", "do"), ("a > ./a", "do")] := by
  constructor
  · decide +kernel
  · decide +kernel

end Runbook.Workflow
