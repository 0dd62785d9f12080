import Mathlib.Data.List.Nodup
import Runbook.File.Tree

/-!
# `Proofs/File/Path` — paths, in writing and followed

A text is read as a path piece by piece between its slashes, so a slash between two texts puts the
names of both one after another (`Path.namesOf_append`). What comes of it are texts that can be
names (`IsName`), and such a text is read as itself. Hence to join is to write: the path that a text
denotes as seen from some place is the one that is written behind that place, with a slash between
the two (`Path.ofString_text_append`). Where the place is the root itself that slash is there
already, and a second one would be an anchor of its own.

A folder can be gone through, and a path can be followed into it. Where every location has one entry
and is made of names, both find the same (`Tree.IsProper.mem_entriesOf_iff`): what a folder has under
a name is what is met where the name is followed from the folder.
-/

set_option autoImplicit false

namespace Runbook.File

open Runbook.Text

/-- A text that can be a name in a path. -/
def IsName (s : String) : Prop := s ≠ "" ∧ s ≠ "." ∧ '/' ∉ s.toList

instance (s : String) : Decidable (IsName s) := inferInstanceAs (Decidable (_ ∧ _ ∧ _))

namespace Path

/-! ## Names -/

/-- A slash stands between the names of two texts. -/
theorem namesOf_append (front back : List Char) :
    namesOf (front ++ '/' :: back) = namesOf front ++ namesOf back := by
  unfold namesOf
  rw [pieces_append_cons (by decide), List.map_append, List.filter_append]

/-- A slash in front does not make a name. -/
theorem namesOf_slash (cs : List Char) : namesOf ('/' :: cs) = namesOf cs := by
  have hnil : namesOf [] = [] := by decide
  have happend := namesOf_append [] cs
  rwa [hnil, List.nil_append, List.nil_append] at happend

/-- A name is read as itself. -/
theorem namesOf_of_isName {s : String} (h : IsName s) : namesOf s.toList = [s] := by
  obtain ⟨hempty, hdot, hslash⟩ := h
  have hpieces : pieces (· == '/') s.toList = [s.toList] := by
    refine pieces_of_notMem fun c hc => beq_false_of_ne ?_
    rintro rfl
    exact hslash hc
  unfold namesOf
  rw [hpieces]
  simp [hempty, hdot]

/-- What is read is names. -/
theorem isName_of_mem_namesOf {cs : List Char} {name : String} (h : name ∈ namesOf cs) :
    IsName name := by
  obtain ⟨hmapped, hkept⟩ := List.mem_filter.1 h
  obtain ⟨piece, hpiece, rfl⟩ := List.mem_map.1 hmapped
  obtain ⟨hempty, hdot⟩ : String.ofList piece ≠ "" ∧ String.ofList piece ≠ "." := by
    simpa using hkept
  refine ⟨hempty, hdot, fun hslash => ?_⟩
  rw [String.toList_ofList] at hslash
  have hfree := not_mem_pieces (· == '/') cs piece hpiece '/' hslash
  cases hfree

/-- Names with slashes between them are read as these names. -/
theorem namesOf_joinWith {names : List String} (h : ∀ name ∈ names, IsName name) :
    namesOf (joinWith "/" names).toList = names := by
  unfold joinWith
  induction names with
  | nil => decide
  | cons name rest ih =>
    obtain ⟨hname, hrest⟩ := List.forall_mem_cons.1 h
    cases rest with
    | nil =>
      rw [String.intercalate_singleton]
      exact namesOf_of_isName hname
    | cons next rest =>
      rw [String.intercalate_cons_cons, String.toList_append, String.toList_append,
        List.append_assoc]
      show namesOf (name.toList ++ '/' :: ("/".intercalate (next :: rest)).toList) = _
      rw [namesOf_append, namesOf_of_isName hname, ih hrest]
      rfl

/-! ## Anchors -/

/-- An anchor has no names. -/
theorem namesOf_anchor_append (anchor : Anchor) (cs : List Char) :
    namesOf (anchor.text.toList ++ cs) = namesOf cs := by
  cases anchor with
  | relative => rfl
  | root => exact namesOf_slash cs
  | doubleRoot =>
    show namesOf ('/' :: '/' :: cs) = namesOf cs
    rw [namesOf_slash, namesOf_slash]

/-- A text depends on a place only if no slash is in front. -/
theorem ne_of_anchorOf {c : Char} {cs : List Char} (h : anchorOf (c :: cs) = .relative) :
    c ≠ '/' := by
  rintro rfl
  unfold anchorOf at h
  split at h
  · cases h
  · cases h
  · cases h
  · next hno => exact hno cs rfl

/-- An anchor in front of a text that has none is read as itself. -/
theorem anchorOf_append (anchor : Anchor) {cs : List Char} (h : anchorOf cs = .relative) :
    anchorOf (anchor.text.toList ++ cs) = anchor := by
  cases cs with
  | nil => cases anchor <;> decide
  | cons c cs =>
    have hc : c ≠ '/' := ne_of_anchorOf h
    cases anchor with
    | relative => exact h
    | root =>
      show anchorOf ('/' :: c :: cs) = .root
      simp [anchorOf, hc]
    | doubleRoot =>
      show anchorOf ('/' :: '/' :: c :: cs) = .doubleRoot
      simp [anchorOf, hc]

/-- A text with a name in front has no anchor. -/
theorem anchorOf_of_isName {s : String} (h : IsName s) (cs : List Char) :
    anchorOf (s.toList ++ cs) = .relative := by
  obtain ⟨hempty, -, hslash⟩ := h
  cases hs : s.toList with
  | nil => exact absurd (String.toList_eq_nil_iff.1 hs) hempty
  | cons c rest =>
    have hc : c ≠ '/' := by
      rintro rfl
      exact hslash (hs ▸ List.mem_cons_self)
    simp [anchorOf, hc]

theorem anchorOf_joinWith {name : String} (h : IsName name) (rest : List String)
    (cs : List Char) : anchorOf ((joinWith "/" (name :: rest)).toList ++ cs) = .relative := by
  cases rest with
  | nil =>
    rw [joinWith, String.intercalate_singleton]
    exact anchorOf_of_isName h _
  | cons next rest =>
    rw [joinWith, String.intercalate_cons_cons, String.toList_append, String.toList_append,
      List.append_assoc, List.append_assoc]
    exact anchorOf_of_isName h _

/-! ## Paths -/

/-- A path whose names can be names. -/
def IsNormal (p : Path) : Prop := ∀ name ∈ p.names, IsName name

instance (p : Path) : Decidable p.IsNormal :=
  inferInstanceAs (Decidable (∀ name ∈ p.names, IsName name))

theorem isNormal_ofString (s : String) : (ofString s).IsNormal := fun _ h =>
  isName_of_mem_namesOf h

/-- A name by itself is a relative path. -/
theorem ofString_of_isName {s : String} (h : IsName s) : ofString s = ⟨.relative, [s]⟩ := by
  have hanchor := anchorOf_of_isName h []
  rw [List.append_nil] at hanchor
  rw [ofString, hanchor, namesOf_of_isName h]

theorem isAbsolute_eq_false_iff {p : Path} : p.isAbsolute = false ↔ p.anchor = .relative := by
  unfold isAbsolute
  simp

/-- What stands between the text of a place and one that is seen from there. -/
def separator (base : Path) : String := if base.names = [] then "" else "/"

/-- **To join is to write.** The path that a text denotes as seen from a place is denoted by the
text of the place, a slash unless the place is the root, and that text. -/
theorem ofString_text_append {base : Path} (hbase : base.isAbsolute = true)
    (hnormal : base.IsNormal) {s : String} (hs : (ofString s).isAbsolute = false) :
    ofString (base.text ++ base.separator ++ s) = base.join (ofString s) := by
  have hrelative : anchorOf s.toList = .relative := isAbsolute_eq_false_iff.1 hs
  have htext : base.text = base.anchor.text ++ joinWith "/" base.names := by
    unfold text
    rw [if_neg]
    rintro ⟨-, hanchor⟩
    rw [isAbsolute_eq_false_iff.2 hanchor] at hbase
    cases hbase
  have hjoin : base.join (ofString s) = ⟨base.anchor, base.names ++ namesOf s.toList⟩ := by
    rw [join, hs]
    rfl
  rw [hjoin, htext]
  obtain ⟨anchor, names⟩ := base
  cases names with
  | nil =>
    show ofString (anchor.text ++ "" ++ "" ++ s) = ⟨anchor, namesOf s.toList⟩
    rw [String.append_empty, String.append_empty, ofString, String.toList_append,
      anchorOf_append anchor hrelative, namesOf_anchor_append]
  | cons name rest =>
    have hfirst := anchorOf_joinWith (hnormal name List.mem_cons_self) rest ('/' :: s.toList)
    have hwritten : (anchor.text ++ joinWith "/" (name :: rest) ++ "/" ++ s).toList =
        anchor.text.toList ++ ((joinWith "/" (name :: rest)).toList ++ '/' :: s.toList) := by
      simp
    show ofString (anchor.text ++ joinWith "/" (name :: rest) ++ "/" ++ s) = _
    rw [ofString, hwritten, anchorOf_append anchor hfirst, namesOf_anchor_append, namesOf_append,
      namesOf_joinWith hnormal]

end Path

namespace Tree

/-- A tree as there can be one: nothing is twice in a place, and places are told by names. -/
structure IsProper (t : Tree) : Prop where
  nodup : (t.entries.map (·.1)).Nodup
  isName : ∀ entry ∈ t.entries, ∀ name ∈ entry.1, IsName name ∧ name ≠ ".."

instance (t : Tree) : Decidable t.IsProper :=
  decidable_of_iff ((t.entries.map (·.1)).Nodup ∧
      ∀ entry ∈ t.entries, ∀ name ∈ entry.1, IsName name ∧ name ≠ "..")
    ⟨fun h => ⟨h.1, h.2⟩, fun h => ⟨h.1, h.2⟩⟩

variable {t : Tree}

/-! ## Locations -/

theorem locateFrom_append (here front back : List String) :
    t.locateFrom here (front ++ back) =
      (t.locateFrom here front).bind fun there => t.locateFrom there back := by
  induction front generalizing here with
  | nil => rfl
  | cons name front ih =>
    rw [List.cons_append, locateFrom, locateFrom]
    split
    · exact ih _
    · rfl

/-- There is one entry for a location at most. -/
theorem IsProper.at?_eq_some_iff (ht : t.IsProper) {location : List String} (h : location ≠ [])
    {node : Node} : t.at? location = some node ↔ (location, node) ∈ t.entries := by
  rw [at?, if_neg h, Option.map_eq_some_iff]
  constructor
  · rintro ⟨entry, hfind, rfl⟩
    have hlocation : entry.1 = location := by simpa using List.find?_some hfind
    rw [← hlocation]
    exact List.mem_of_find?_eq_some hfind
  · intro hmem
    cases hfind : t.entries.find? (·.1 == location) with
    | none =>
      have hnone := List.find?_eq_none.1 hfind _ hmem
      simp at hnone
    | some entry =>
      have hlocation : entry.1 = location := by simpa using List.find?_some hfind
      have hsame : entry = (location, node) :=
        List.inj_on_of_nodup_map ht.nodup (List.mem_of_find?_eq_some hfind) hmem hlocation
      exact ⟨entry, rfl, congrArg Prod.snd hsame⟩

/-! ## Folders -/

/-- What a location contributes to the folder above it. -/
theorem entry_eq_some_iff {location place : List String} {node node' : Node} {name : String} :
    (match place.getLast? with
      | some last => if place.dropLast = location then some (last, node) else none
      | none => none) = some (name, node') ↔ place = location ++ [name] ∧ node = node' := by
  constructor
  · intro h
    split at h
    · next last hlast =>
      split at h
      · next hfront =>
        obtain ⟨rfl, rfl⟩ := Prod.mk.inj (Option.some.inj h)
        rw [← hfront, List.dropLast_append_getLast? last hlast]
        exact ⟨rfl, rfl⟩
      · cases h
    · cases h
  · rintro ⟨rfl, rfl⟩
    simp

theorem mem_entriesAt_iff {location : List String} {name : String} {node : Node} :
    (name, node) ∈ t.entriesAt location ↔ (location ++ [name], node) ∈ t.entries := by
  unfold entriesAt
  rw [List.mem_filterMap]
  constructor
  · rintro ⟨⟨place, node'⟩, hmem, hentry⟩
    obtain ⟨rfl, rfl⟩ := entry_eq_some_iff.1 hentry
    exact hmem
  · intro hmem
    exact ⟨_, hmem, entry_eq_some_iff.2 ⟨rfl, rfl⟩⟩

/-- No name is twice in a folder. -/
theorem IsProper.nodup_entriesAt (ht : t.IsProper) (location : List String) :
    ((t.entriesAt location).map (·.1)).Nodup := by
  have hplaces : t.entries.Pairwise fun e e' => e.1 ≠ e'.1 := List.pairwise_map.1 ht.nodup
  refine List.pairwise_map.2 (List.Pairwise.filterMap _ ?_ hplaces)
  rintro ⟨place, node⟩ ⟨place', node'⟩ hne ⟨name, _⟩ hentry ⟨name', _⟩ hentry' hsame
  obtain ⟨rfl, -⟩ := entry_eq_some_iff.1 hentry
  obtain ⟨rfl, -⟩ := entry_eq_some_iff.1 hentry'
  exact hne (congrArg (fun last => location ++ [last]) hsame)

theorem IsProper.nodup_entriesOf (ht : t.IsProper) (p : Path) :
    ((t.entriesOf p).map (·.1)).Nodup := by
  unfold entriesOf
  split
  · split
    · exact ht.nodup_entriesAt _
    · exact .nil
  · exact .nil

/-- What is in a folder has a name. -/
theorem IsProper.isName_of_mem_entriesOf (ht : t.IsProper) {p : Path} {name : String} {node : Node}
    (h : (name, node) ∈ t.entriesOf p) : IsName name ∧ name ≠ ".." := by
  unfold entriesOf at h
  split at h
  · split at h
    · exact ht.isName _ (mem_entriesAt_iff.1 h) name (by simp)
    · cases h
  · cases h

/-- **What a folder has under a name is what is met where the name is followed from the folder.** -/
theorem IsProper.mem_entriesOf_iff (ht : t.IsProper) {p : Path} {name : String}
    (hname : IsName name) (hup : name ≠ "..") {node : Node} :
    (name, node) ∈ t.entriesOf p ↔ t.node? (p.child name) = some node := by
  have hchild : (p.child name).names = p.names ++ [name] := by
    rw [Path.child, Path.ofString_of_isName hname]
    rfl
  unfold node? entriesOf locate
  rw [hchild, locateFrom_append]
  cases t.locateFrom [] p.names with
  | none => simp
  | some location =>
    rw [Option.bind_some, locateFrom, locateFrom, if_neg hup]
    dsimp only
    split
    · rw [Option.bind_some, ht.at?_eq_some_iff (by simp)]
      exact mem_entriesAt_iff
    · simp

end Tree

end Runbook.File
