import Mathlib.Data.List.Chain
import Mathlib.Data.List.DropRight
import Runbook.Proofs.Text.Lower
import Runbook.Text.Lines

/-!
# `Proofs/Text/Slug` — what a slug is of its title

A slug is found in one pass over a title, word by word. There are two other ways to say what it is. One
is by the places of the title: at some of them a run of small letters and digits begins, and it goes as
far as it can (`maximalRuns`). The other is by two passes: one hyphen is put in the place of every run of
other characters (`hyphenated`), and then the hyphens at the ends are dropped (`dropHyphens`).

All of them fall apart in the same way at a character that separates words, so a text is taken apart
there (`run_induction`) whenever something is to be shown of it.

What comes out is of a shape (`IsSlug`), and every text of that shape is put together from its words
again (`IsSlug.intercalate_slugWords`). Hence the slug of a slug is the slug, and hence the two passes,
which keep the words and leave a text of the shape, come to the same as the one.
-/

set_option autoImplicit false

namespace Runbook.Text

/-! ## Runs -/

variable {p : Char → Bool}

/-- A run of characters with a property begins at a place of a text: there is such a character, and
the one before it, if any, is none. -/
def beginsRun (p : Char → Bool) (cs : List Char) (i : Nat) : Bool :=
  cs[i]?.any p && !(cs.take i).getLast?.any p

/-- The maximal runs of characters with a property, in order. -/
def maximalRuns (p : Char → Bool) (cs : List Char) : List (List Char) :=
  ((List.range cs.length).filter (beginsRun p cs)).map fun i => (cs.drop i).takeWhile p

/-- A text is a run, or it begins with one, maybe an empty one, and another character behind it. -/
theorem run_induction {motive : List Char → Prop}
    (run : ∀ run, (∀ c ∈ run, p c = true) → motive run)
    (more : ∀ run c back, (∀ d ∈ run, p d = true) → p c = false → motive back →
      motive (back.dropWhile fun d => !p d) → motive (run ++ c :: back)) (cs : List Char) :
    motive cs := by
  induction hn : cs.length using Nat.strongRecOn generalizing cs with
  | ind n ih =>
    subst hn
    have hsplit : cs.takeWhile p ++ cs.dropWhile p = cs := List.takeWhile_append_dropWhile
    have hrun : ∀ c ∈ cs.takeWhile p, p c = true := List.all_eq_true.1 List.all_takeWhile
    cases hback : cs.dropWhile p with
    | nil =>
      rw [hback, List.append_nil] at hsplit
      rw [← hsplit]
      exact run _ hrun
    | cons c back =>
      have hc : p c = false := by
        have := List.head?_dropWhile_not p cs
        rw [hback] at this
        simpa using this
      rw [hback] at hsplit
      have hlt : back.length < cs.length := by
        rw [← hsplit, List.length_append, List.length_cons]
        omega
      rw [← hsplit]
      refine more _ c back hrun hc (ih _ hlt back rfl) (ih _ ?_ _ rfl)
      exact Nat.lt_of_le_of_lt (List.dropWhile_sublist _).length_le hlt

theorem takeWhile_append_cons {c : Char} (hc : p c = false) (front back : List Char) :
    (front ++ c :: back).takeWhile p = front.takeWhile p := by
  induction front with
  | nil => rw [List.nil_append, List.takeWhile_cons_of_neg (by simp [hc]), List.takeWhile_nil]
  | cons d front ih =>
    rw [List.cons_append, List.takeWhile_cons, List.takeWhile_cons, ih]

theorem getLast?_any_append_cons {c : Char} (hc : p c = false) (front back : List Char) :
    (front ++ c :: back).getLast?.any p = back.getLast?.any p := by
  rw [List.getLast?_append, List.getLast?_cons]
  cases back.getLast? with
  | none => exact hc
  | some d => rfl

/-- A character without the property stands between the runs before it and those behind it. -/
theorem maximalRuns_append_cons {c : Char} (hc : p c = false) (front back : List Char) :
    maximalRuns p (front ++ c :: back) = maximalRuns p front ++ maximalRuns p back := by
  have hfront : ∀ i ∈ List.range front.length,
      beginsRun p (front ++ c :: back) i = beginsRun p front i := by
    intro i hi
    have hlt := List.mem_range.1 hi
    unfold beginsRun
    rw [List.getElem?_append_left hlt, List.take_append_of_le_length (Nat.le_of_lt hlt)]
  have hhere : beginsRun p (front ++ c :: back) front.length = false := by
    simp [beginsRun, hc]
  have hback : ∀ i, beginsRun p (front ++ c :: back) (front.length + (i + 1)) = beginsRun p back i := by
    intro i
    unfold beginsRun
    rw [List.getElem?_append_right (Nat.le_add_right _ _), Nat.add_sub_cancel_left,
      List.take_length_add_append, List.take_succ_cons, getLast?_any_append_cons hc]
    rfl
  have hrange : List.range (front ++ c :: back).length = List.range front.length ++
      front.length :: (List.range back.length).map fun i => front.length + (i + 1) := by
    rw [List.length_append, List.range_add, List.length_cons, List.range_succ_eq_map, List.map_cons,
      List.map_map]
    rfl
  unfold maximalRuns
  rw [hrange, List.filter_append, List.map_append]
  congr 1
  · rw [List.filter_congr hfront]
    refine List.map_congr_left fun i hi => ?_
    have hlt := List.mem_range.1 (List.mem_filter.1 hi).1
    rw [List.drop_append_of_le_length (Nat.le_of_lt hlt), takeWhile_append_cons hc]
  · have hcomp : beginsRun p (front ++ c :: back) ∘ (fun i => front.length + (i + 1)) =
        beginsRun p back := funext hback
    rw [List.filter_cons_of_neg (by simp [hhere]), List.filter_map, List.map_map, hcomp]
    refine List.map_congr_left fun i _ => ?_
    show ((front ++ c :: back).drop (front.length + (i + 1))).takeWhile p = _
    rw [List.drop_length_add_append, List.drop_succ_cons]

/-- A text of such characters is one run. -/
theorem maximalRuns_of_run {run : List Char} (h : ∀ c ∈ run, p c = true) (hne : run ≠ []) :
    maximalRuns p run = [run] := by
  obtain ⟨c, rest, rfl⟩ := List.exists_cons_of_ne_nil hne
  have hhere : beginsRun p (c :: rest) 0 = true := by
    simp [beginsRun, h c List.mem_cons_self]
  have hlater : ∀ i, beginsRun p (c :: rest) (i + 1) = false := by
    intro i
    have hne : (c :: rest).take (i + 1) ≠ [] := by simp
    have hlast := h _ (List.mem_of_mem_take (List.getLast_mem hne))
    rw [beginsRun, List.getLast?_eq_some_getLast hne, Option.any_some, hlast, Bool.not_true,
      Bool.and_false]
  unfold maximalRuns
  rw [List.length_cons, List.range_succ_eq_map, List.filter_cons_of_pos hhere, List.filter_map,
    List.filter_eq_nil_iff.2 fun i _ => by simp [hlater i]]
  rw [List.map_nil, List.map_singleton, List.drop_zero, List.takeWhile_eq_self_iff.2 h]

/-! ## The words of a slug -/

/-- A word of a slug. -/
def IsWord (word : List Char) : Prop := word ≠ [] ∧ ∀ c ∈ word, isSlugChar c = true

/-- The words are what stands between the characters that separate. -/
theorem slugWords_eq_pieces (cs : List Char) :
    slugWords cs = (pieces (fun c => !isSlugChar c) cs).filter (!·.isEmpty) := by
  suffices hgo : ∀ cs run : List Char, (∀ c ∈ run, isSlugChar c = true) →
      slugWords.go cs run = (pieces (fun c => !isSlugChar c) (run.reverse ++ cs)).filter (!·.isEmpty) by
    exact hgo cs [] nofun
  intro cs
  induction cs with
  | nil =>
    intro run hrun
    have hfree : ∀ c ∈ run.reverse, (!isSlugChar c) = false := by
      intro c hc
      rw [hrun c (List.mem_reverse.1 hc)]
      rfl
    rw [List.append_nil, pieces_of_notMem hfree]
    cases run <;> simp [slugWords.go]
  | cons c rest ih =>
    intro run hrun
    by_cases hc : isSlugChar c = true
    · rw [slugWords.go, if_pos hc, ih _ (List.forall_mem_cons.2 ⟨hc, hrun⟩), List.reverse_cons,
        List.append_assoc]
      rfl
    · -- The piece that ends here is the run so far.
      have hfree : ∀ d ∈ run.reverse, (!isSlugChar d) = false := by
        intro d hd
        rw [hrun d (List.mem_reverse.1 hd)]
        rfl
      rw [pieces_append_cons (by simp [hc]), pieces_of_notMem hfree, List.filter_append,
        slugWords.go, if_neg hc, ih [] nofun]
      cases run <;> simp

theorem slugWords_append_cons {c : Char} (hc : isSlugChar c = false) (front back : List Char) :
    slugWords (front ++ c :: back) = slugWords front ++ slugWords back := by
  simp only [slugWords_eq_pieces]
  rw [pieces_append_cons (by simp [hc]), List.filter_append]

/-- Separators in front do not count. -/
theorem slugWords_separators_append {seps : List Char} (h : ∀ c ∈ seps, isSlugChar c = false)
    (cs : List Char) : slugWords (seps ++ cs) = slugWords cs := by
  induction seps with
  | nil => rfl
  | cons c seps ih =>
    obtain ⟨hc, hseps⟩ := List.forall_mem_cons.1 h
    exact (slugWords_append_cons hc [] (seps ++ cs)).trans (ih hseps)

/-- Between separators words stay apart. -/
theorem slugWords_append_separators_append {seps : List Char}
    (h : ∀ c ∈ seps, isSlugChar c = false) (hne : seps ≠ []) (front back : List Char) :
    slugWords (front ++ (seps ++ back)) = slugWords front ++ slugWords back := by
  obtain ⟨c, seps, rfl⟩ := List.exists_cons_of_ne_nil hne
  obtain ⟨hc, hseps⟩ := List.forall_mem_cons.1 h
  rw [List.cons_append, slugWords_append_cons hc, slugWords_separators_append hseps]

theorem slugWords_dropWhile {q : Char → Bool} (hq : ∀ c, q c = true → isSlugChar c = false)
    (cs : List Char) : slugWords (cs.dropWhile q) = slugWords cs := by
  have hseps : ∀ c ∈ cs.takeWhile q, isSlugChar c = false :=
    fun c hc => hq c (List.all_eq_true.1 List.all_takeWhile c hc)
  conv_rhs => rw [← List.takeWhile_append_dropWhile (p := q) (l := cs)]
  rw [slugWords_separators_append hseps]

theorem slugWords_of_isWord {word : List Char} (h : IsWord word) : slugWords word = [word] := by
  have hfree : ∀ c ∈ word, (!isSlugChar c) = false := fun c hc => by simp [h.2 c hc]
  rw [slugWords_eq_pieces, pieces_of_notMem hfree, List.filter_cons_of_pos (by simpa using h.1)]
  rfl

/-- The words of a text are its maximal runs of characters of slugs. -/
theorem slugWords_eq_maximalRuns (cs : List Char) : slugWords cs = maximalRuns isSlugChar cs := by
  have hrun : ∀ run : List Char, (∀ c ∈ run, isSlugChar c = true) →
      slugWords run = maximalRuns isSlugChar run := by
    intro run hrun
    by_cases hne : run = []
    · rw [hne]
      rfl
    · rw [slugWords_of_isWord ⟨hne, hrun⟩, maximalRuns_of_run hrun hne]
  induction cs using run_induction (p := isSlugChar) with
  | run run hall => exact hrun run hall
  | more run c back hall hc ih _ =>
    rw [slugWords_append_cons hc, maximalRuns_append_cons hc, hrun run hall, ih]

theorem isWord_of_mem_slugWords {cs word : List Char} (h : word ∈ slugWords cs) : IsWord word := by
  rw [slugWords_eq_pieces] at h
  obtain ⟨hpiece, hne⟩ := List.mem_filter.1 h
  refine ⟨by simpa using hne, fun c hc => ?_⟩
  have := not_mem_pieces _ cs word hpiece c hc
  simpa using this

/-! ## Slugs -/

/-- The shape of a slug: characters of slugs and hyphens, where no hyphen is at an end and no two are
side by side. -/
structure IsSlug (cs : List Char) : Prop where
  alphabet : ∀ c ∈ cs, isSlugChar c = true ∨ c = '-'
  head : cs.head? ≠ some '-'
  last : cs.getLast? ≠ some '-'
  single : cs.IsChain fun c d => c = '-' → d ≠ '-'

theorem ne_hyphen {c : Char} (h : isSlugChar c = true) : c ≠ '-' := by
  rintro rfl
  exact absurd h (by decide)

theorem isChain_of_run {run : List Char} (h : ∀ c ∈ run, isSlugChar c = true) :
    run.IsChain fun c d => c = '-' → d ≠ '-' := by
  rw [List.isChain_iff_forall_rel_of_append_cons_cons]
  rintro c d front back rfl rfl
  exact absurd rfl (ne_hyphen (h '-' (by simp)))

/-- With a hyphen between a run and a text that does not begin with one, no two are side by side. -/
theorem isChain_append_hyphen {run cs : List Char} (hrun : ∀ c ∈ run, isSlugChar c = true)
    (hcs : cs.IsChain fun c d => c = '-' → d ≠ '-') (hhead : cs.head? ≠ some '-') :
    (run ++ '-' :: cs).IsChain fun c d => c = '-' → d ≠ '-' := by
  refine List.isChain_append.2 ⟨isChain_of_run hrun, List.isChain_cons.2 ⟨?_, hcs⟩, ?_⟩
  · rintro d hd - rfl
    exact hhead hd
  · intro c hc d _ hhyphen
    exact absurd hhyphen (ne_hyphen (hrun c (List.mem_of_getLast? hc)))

/-- A word is a slug. -/
theorem IsWord.isSlug {word : List Char} (h : IsWord word) : IsSlug word where
  alphabet c hc := .inl (h.2 c hc)
  head hhead := ne_hyphen (h.2 _ (List.mem_of_mem_head? hhead)) rfl
  last hlast := ne_hyphen (h.2 _ (List.mem_of_getLast? hlast)) rfl
  single := isChain_of_run h.2

/-- A word and a slug behind it, with a hyphen between them, are a slug. -/
theorem IsSlug.cons {word cs : List Char} (hword : IsWord word) (h : IsSlug cs) (hne : cs ≠ []) :
    IsSlug (word ++ '-' :: cs) := by
  have hlast : ('-' :: cs).getLast? = cs.getLast? := by
    rw [List.getLast?_cons, List.getLast?_eq_some_getLast hne]
    rfl
  constructor
  · intro c hc
    rcases List.mem_append.1 hc with hc | hc
    · exact .inl (hword.2 c hc)
    · rcases List.mem_cons.1 hc with rfl | hc
      · exact .inr rfl
      · exact h.alphabet c hc
  · rw [List.head?_append_of_ne_nil _ hword.1]
    exact hword.isSlug.head
  · rw [List.getLast?_append_of_ne_nil _ (List.cons_ne_nil _ _), hlast]
    exact h.last
  · exact isChain_append_hyphen hword.2 h.single h.head

/-- Of a slug, what stands behind one of its hyphens is a slug, and there is something. -/
theorem IsSlug.of_cons {word cs : List Char} (h : IsSlug (word ++ '-' :: cs)) :
    IsSlug cs ∧ cs ≠ [] := by
  obtain ⟨-, hchain, -⟩ := List.isChain_append.1 h.single
  obtain ⟨hhead, hsingle⟩ := List.isChain_cons.1 hchain
  have hne : cs ≠ [] := by
    rintro rfl
    exact h.last List.getLast?_concat
  refine ⟨⟨?_, ?_, ?_, hsingle⟩, hne⟩
  · exact fun c hc => h.alphabet c (List.mem_append_right _ (List.mem_cons_of_mem _ hc))
  · exact fun hhyphen => hhead _ hhyphen rfl rfl
  · intro hhyphen
    refine h.last ?_
    rw [List.getLast?_append, List.getLast?_cons, hhyphen]
    rfl

theorem intercalate_ne_nil {words : List (List Char)} (h : ∀ word ∈ words, IsWord word)
    (hne : words ≠ []) : ['-'].intercalate words ≠ [] := by
  obtain ⟨word, rest, rfl⟩ := List.exists_cons_of_ne_nil hne
  have hword := (h word List.mem_cons_self).1
  cases rest with
  | nil =>
    rw [List.intercalate_singleton]
    exact hword
  | cons next rest =>
    rw [List.intercalate_cons_cons, List.append_assoc]
    exact List.append_ne_nil_of_left_ne_nil hword _

theorem isSlug_intercalate {words : List (List Char)} (h : ∀ word ∈ words, IsWord word) :
    IsSlug (['-'].intercalate words) := by
  induction words with
  | nil => exact ⟨nofun, nofun, nofun, .nil⟩
  | cons word rest ih =>
    obtain ⟨hword, hrest⟩ := List.forall_mem_cons.1 h
    cases rest with
    | nil =>
      rw [List.intercalate_singleton]
      exact hword.isSlug
    | cons next rest =>
      rw [List.intercalate_cons_cons, List.append_assoc]
      exact (ih hrest).cons hword (intercalate_ne_nil hrest (List.cons_ne_nil _ _))

/-- A slug is put together from its words again. -/
theorem IsSlug.intercalate_slugWords {cs : List Char} (h : IsSlug cs) :
    ['-'].intercalate (slugWords cs) = cs := by
  induction cs using run_induction (p := isSlugChar) with
  | run run hrun =>
    by_cases hne : run = []
    · rw [hne]
      rfl
    · rw [slugWords_of_isWord ⟨hne, hrun⟩, List.intercalate_singleton]
  | more run c back hrun hc ih _ =>
    have hhyphen : c = '-' := by
      rcases h.alphabet c (by simp) with hslug | hhyphen
      · rw [hslug] at hc
        cases hc
      · exact hhyphen
    subst hhyphen
    have hne : run ≠ [] := by
      rintro rfl
      exact h.head rfl
    obtain ⟨hback, hbackNe⟩ := h.of_cons
    have hjoin := ih hback
    rw [slugWords_append_cons hc, slugWords_of_isWord ⟨hne, hrun⟩]
    cases hwords : slugWords back with
    | nil =>
      rw [hwords] at hjoin
      exact absurd hjoin.symm hbackNe
    | cons next rest =>
      rw [hwords] at hjoin
      rw [List.singleton_append, List.intercalate_cons_cons, hjoin, List.append_assoc]
      rfl

/-- The words of a slug are those it was put together from. -/
theorem slugWords_intercalate {words : List (List Char)} (h : ∀ word ∈ words, IsWord word) :
    slugWords (['-'].intercalate words) = words := by
  induction words with
  | nil => rfl
  | cons word rest ih =>
    obtain ⟨hword, hrest⟩ := List.forall_mem_cons.1 h
    cases rest with
    | nil =>
      rw [List.intercalate_singleton]
      exact slugWords_of_isWord hword
    | cons next rest =>
      rw [List.intercalate_cons_cons, List.append_assoc]
      show slugWords (word ++ '-' :: ['-'].intercalate (next :: rest)) = _
      rw [slugWords_append_cons (by decide), slugWords_of_isWord hword, ih hrest]
      rfl

/-! ## Two passes -/

/-- A text with one hyphen in the place of every maximal run of characters that are not of slugs. -/
def hyphenated : List Char → List Char
  | [] => []
  | c :: rest =>
    if isSlugChar c then c :: hyphenated rest
    else '-' :: hyphenated (rest.dropWhile fun d => !isSlugChar d)
  termination_by cs => cs.length
  decreasing_by
    · exact Nat.lt_succ_self _
    · exact Nat.lt_succ_of_le (List.dropWhile_sublist _).length_le

/-- A text without the hyphens at its ends. -/
def dropHyphens (cs : List Char) : List Char := (cs.dropWhile (· == '-')).rdropWhile (· == '-')

theorem hyphenated_run_append {run : List Char} (h : ∀ c ∈ run, isSlugChar c = true)
    (cs : List Char) : hyphenated (run ++ cs) = run ++ hyphenated cs := by
  induction run with
  | nil => rfl
  | cons c run ih =>
    obtain ⟨hc, hrun⟩ := List.forall_mem_cons.1 h
    rw [List.cons_append, hyphenated, if_pos hc, ih hrun, List.cons_append]

theorem hyphenated_cons {c : Char} (hc : isSlugChar c = false) (cs : List Char) :
    hyphenated (c :: cs) = '-' :: hyphenated (cs.dropWhile fun d => !isSlugChar d) := by
  rw [hyphenated, if_neg (by simp [hc])]

/-- Behind separators there is no hyphen. -/
theorem head?_hyphenated_dropWhile (cs : List Char) :
    (hyphenated (cs.dropWhile fun d => !isSlugChar d)).head? ≠ some '-' := by
  cases hrest : cs.dropWhile fun d => !isSlugChar d with
  | nil =>
    rw [hyphenated]
    exact nofun
  | cons c rest =>
    have hc : isSlugChar c = true := by
      have := List.head?_dropWhile_not (fun d => !isSlugChar d) cs
      rw [hrest] at this
      simpa using this
    rw [hyphenated, if_pos hc]
    rintro ⟨⟩
    cases hc

/-- The words stay the same, and all else becomes single hyphens. -/
theorem hyphenated_spec (cs : List Char) : slugWords (hyphenated cs) = slugWords cs ∧
    (∀ c ∈ hyphenated cs, isSlugChar c = true ∨ c = '-') ∧
      (hyphenated cs).IsChain fun c d => c = '-' → d ≠ '-' := by
  have hnil : hyphenated [] = [] := by rw [hyphenated]
  induction cs using run_induction (p := isSlugChar) with
  | run run hrun =>
    have hself : hyphenated run = run := by
      have happend := hyphenated_run_append hrun []
      rwa [hnil, List.append_nil] at happend
    rw [hself]
    exact ⟨rfl, fun c hc => .inl (hrun c hc), isChain_of_run hrun⟩
  | more run c back hrun hc _ ih =>
    obtain ⟨hwords, halphabet, hsingle⟩ := ih
    rw [hyphenated_run_append hrun, hyphenated_cons hc]
    refine ⟨?_, ?_, isChain_append_hyphen hrun hsingle (head?_hyphenated_dropWhile back)⟩
    · rw [slugWords_append_cons (by decide), slugWords_append_cons hc, hwords,
        slugWords_dropWhile (by simp)]
    · intro d hd
      rcases List.mem_append.1 hd with hd | hd
      · exact .inl (hrun d hd)
      · rcases List.mem_cons.1 hd with rfl | hd
        · exact .inr rfl
        · exact halphabet d hd

theorem slugWords_dropHyphens (cs : List Char) : slugWords (dropHyphens cs) = slugWords cs := by
  have hseps : ∀ c : Char, (c == '-') = true → isSlugChar c = false := by
    intro c hc
    rw [beq_iff_eq.1 hc]
    decide
  have hback : ∀ ds : List Char, slugWords (ds.rdropWhile (· == '-')) = slugWords ds := by
    intro ds
    induction ds using List.reverseRecOn with
    | nil => rfl
    | append_singleton ds c ih =>
      rw [List.rdropWhile_concat]
      by_cases hc : (c == '-') = true
      · rw [if_pos hc, ih, slugWords_append_cons (hseps c hc)]
        exact (List.append_nil _).symm
      · rw [if_neg hc]
  unfold dropHyphens
  rw [hback, slugWords_dropWhile hseps]

theorem isSlug_dropHyphens {cs : List Char} (halphabet : ∀ c ∈ cs, isSlugChar c = true ∨ c = '-')
    (hsingle : cs.IsChain fun c d => c = '-' → d ≠ '-') : IsSlug (dropHyphens cs) := by
  have hprefix : dropHyphens cs <+: cs.dropWhile (· == '-') := List.rdropWhile_prefix _ _
  have hpart : dropHyphens cs <:+: cs :=
    hprefix.isInfix.trans (List.dropWhile_suffix _).isInfix
  refine ⟨fun c hc => halphabet c (hpart.mem hc), ?_, ?_, List.IsChain.infix hsingle hpart⟩
  · intro hhead
    obtain ⟨back, hback⟩ := hprefix
    have hfirst : (cs.dropWhile (· == '-')).head? = some '-' := by
      rw [← hback, List.head?_append, hhead]
      rfl
    have hnot := List.head?_dropWhile_not (· == '-') cs
    rw [hfirst] at hnot
    cases hnot
  · intro hlast
    have hne : dropHyphens cs ≠ [] := by
      intro hnil
      rw [hnil] at hlast
      cases hlast
    rw [List.getLast?_eq_some_getLast hne] at hlast
    exact List.rdropWhile_last_not _ _ hne (beq_iff_eq.2 (Option.some.inj hlast))

/-- To put hyphens in the place of all else, and to drop those at the ends, is to take the words and to
put hyphens between them. -/
theorem dropHyphens_hyphenated (cs : List Char) :
    dropHyphens (hyphenated cs) = ['-'].intercalate (slugWords cs) := by
  obtain ⟨hwords, halphabet, hsingle⟩ := hyphenated_spec cs
  have hslug := isSlug_dropHyphens halphabet hsingle
  rw [← hslug.intercalate_slugWords, slugWords_dropHyphens, hwords]

/-! ## Titles -/

variable {title : String}

theorem toList_slug (title : String) :
    (slug title).toList = ['-'].intercalate (slugWords (lower title.toList)) := by
  unfold slug
  rw [String.toList_ofList]

theorem isSlug_slug (title : String) : IsSlug (slug title).toList := by
  rw [toList_slug]
  exact isSlug_intercalate fun _ => isWord_of_mem_slugWords

theorem slug_eq_empty_iff : slug title = "" ↔ slugWords (lower title.toList) = [] := by
  rw [← String.toList_eq_nil_iff, toList_slug]
  constructor
  · intro hnil
    by_contra hne
    exact intercalate_ne_nil (fun _ => isWord_of_mem_slugWords) hne hnil
  · intro hnil
    rw [hnil]
    rfl

/-- What holds of the characters below 128, one by one. -/
theorem of_ascii {motive : Char → Prop} (h : ∀ n : Fin 128, motive (Char.ofNat n)) {c : Char}
    (hlt : c.toNat < 128) : motive c := by
  rw [← Char.ofNat_toNat c]
  exact h ⟨c.toNat, hlt⟩

theorem lowerChar_of_isSlugChar {c : Char} (h : isSlugChar c = true) : lowerChar c = [c] := by
  have hlt : c.toNat < 128 := by
    by_contra hge
    rw [isSlugChar_of_lt (by omega)] at h
    cases h
  exact of_ascii (motive := fun c => isSlugChar c = true → lowerChar c = [c]) (by decide) hlt h

/-- An ASCII character that is no letter and no digit separates, and it has no other case. -/
theorem separates_of_ascii {c : Char} (hlt : c.toNat < 128) (h : c.isAlphanum = false) :
    lowerChar c = [c] ∧ isSlugChar c = false :=
  of_ascii (motive := fun c => c.isAlphanum = false → lowerChar c = [c] ∧ isSlugChar c = false)
    (by decide) hlt h

theorem lower_slug (title : String) : lower (slug title).toList = (slug title).toList := by
  refine flatMap_eq_self fun c hc => ?_
  rcases (isSlug_slug title).alphabet c hc with hslug | rfl
  · exact lowerChar_of_isSlugChar hslug
  · decide

/-- The slug of a slug is the slug. -/
theorem slug_slug (title : String) : slug (slug title) = slug title := by
  rw [slug, lower_slug, (isSlug_slug title).intercalate_slugWords, String.ofList_toList]

theorem intercalate_append {ws ws' : List (List Char)} (hne : ws ≠ []) (hne' : ws' ≠ []) :
    ['-'].intercalate (ws ++ ws') = ['-'].intercalate ws ++ '-' :: ['-'].intercalate ws' := by
  induction ws with
  | nil => exact absurd rfl hne
  | cons w ws ih =>
    cases ws with
    | nil =>
      obtain ⟨w', ws', rfl⟩ := List.exists_cons_of_ne_nil hne'
      rw [List.singleton_append, List.intercalate_cons_cons, List.intercalate_singleton,
        List.append_assoc]
      rfl
    | cons next ws =>
      have happend := ih (List.cons_ne_nil _ _)
      rw [List.cons_append] at happend
      rw [List.cons_append, List.cons_append, List.intercalate_cons_cons, happend,
        List.intercalate_cons_cons]
      simp only [List.append_assoc]

/-- The slug of two texts with separators between them. -/
theorem slug_append_append {a sep b : String} (hne : sep ≠ "")
    (hsep : ∀ c ∈ sep.toList, c.toNat < 128 ∧ c.isAlphanum = false) :
    slug (a ++ sep ++ b) = "-".intercalate ([slug a, slug b].filter (· ≠ "")) := by
  have hlower : lower sep.toList = sep.toList :=
    flatMap_eq_self fun c hc => (separates_of_ascii (hsep c hc).1 (hsep c hc).2).1
  have hseps : ∀ c ∈ sep.toList, isSlugChar c = false :=
    fun c hc => (separates_of_ascii (hsep c hc).1 (hsep c hc).2).2
  have hwords : slugWords (lower (a ++ sep ++ b).toList) =
      slugWords (lower a.toList) ++ slugWords (lower b.toList) := by
    rw [String.toList_append, String.toList_append, List.append_assoc]
    unfold lower at hlower ⊢
    rw [List.flatMap_append, List.flatMap_append, hlower,
      slugWords_append_separators_append hseps fun hnil => hne (String.toList_eq_nil_iff.1 hnil)]
  have hslug : (slug (a ++ sep ++ b)).toList =
      ['-'].intercalate (slugWords (lower a.toList) ++ slugWords (lower b.toList)) := by
    rw [toList_slug, hwords]
  by_cases ha : slug a = ""
  · have hsame : slug (a ++ sep ++ b) = slug b := by
      rw [slug_eq_empty_iff.1 ha, List.nil_append, ← toList_slug] at hslug
      exact String.toList_inj.1 hslug
    rw [hsame]
    by_cases hb : slug b = "" <;> simp [ha, hb]
  by_cases hb : slug b = ""
  · have hsame : slug (a ++ sep ++ b) = slug a := by
      rw [slug_eq_empty_iff.1 hb, List.append_nil, ← toList_slug] at hslug
      exact String.toList_inj.1 hslug
    rw [hsame]
    simp [ha, hb]
  · rw [intercalate_append (mt slug_eq_empty_iff.2 ha) (mt slug_eq_empty_iff.2 hb), ← toList_slug,
      ← toList_slug] at hslug
    have hkept : [slug a, slug b].filter (· ≠ "") = [slug a, slug b] := by simp [ha, hb]
    rw [hkept, String.intercalate_cons_cons, String.intercalate_singleton, ← String.toList_inj, hslug,
      String.toList_append, String.toList_append, List.append_assoc]
    rfl

/-- **Slugs are canonical.** The slug of a title is made of the maximal runs of small letters and digits
that the title has in lower case, in order, with a hyphen between each two. It comes to the same to put
one hyphen in the place of every run of other characters and to drop the hyphens at the ends. So a slug
has the shape of one, it is empty if there is no run, and it is its own slug. And titles with separators
between them have their slugs with a hyphen between them, where neither is empty. -/
theorem slug_canonical (final : List Char → List Char → Bool) :
    (∀ title : String,
      slug title = String.ofList
        (['-'].intercalate (maximalRuns isSlugChar (lowerCase final title.toList))) ∧
      slug title = String.ofList (dropHyphens (hyphenated (lowerCase final title.toList))) ∧
      IsSlug (slug title).toList ∧
      (slug title = "" ↔ maximalRuns isSlugChar (lowerCase final title.toList) = []) ∧
      slug (slug title) = slug title) ∧
    ∀ a sep b : String, sep ≠ "" → (∀ c ∈ sep.toList, c.toNat < 128 ∧ c.isAlphanum = false) →
      slug (a ++ sep ++ b) = "-".intercalate ([slug a, slug b].filter (· ≠ "")) := by
  refine ⟨fun title => ?_, fun a sep b hne hsep => slug_append_append hne hsep⟩
  have hruns : maximalRuns isSlugChar (lowerCase final title.toList) =
      slugWords (lower title.toList) := by
    rw [← slugWords_eq_maximalRuns, slugWords_lowerCase]
  refine ⟨?_, ?_, isSlug_slug title, ?_, slug_slug title⟩
  · rw [hruns]
    rfl
  · rw [dropHyphens_hyphenated, slugWords_lowerCase]
    rfl
  · rw [hruns]
    exact slug_eq_empty_iff

/-- Capitals of three alphabets and other characters, also at the ends and side by side. -/
def motleyTitle : String := "--İD of the KELVIN (\u212A) Σ-scale, ÀÉ: 2nd  draft!"

theorem slug_motleyTitle :
    slug motleyTitle = "i-d-of-the-kelvin-k-scale-2nd-draft" ∧
      slug (motleyTitle ++ " -- " ++ "(???)") = "i-d-of-the-kelvin-k-scale-2nd-draft" ∧
      slug (motleyTitle ++ " -- " ++ "Part B") = "i-d-of-the-kelvin-k-scale-2nd-draft-part-b" := by
  obtain ⟨-, happend⟩ := slug_canonical fun _ rest => rest.isEmpty
  have hsep : ∀ c ∈ " -- ".toList, c.toNat < 128 ∧ c.isAlphanum = false := by
    have hall : (" -- ".toList.all fun c => c.toNat < 128 && !c.isAlphanum) = true := by decide
    intro c hc
    simpa using List.all_eq_true.1 hall c hc
  have hempty := happend motleyTitle " -- " "(???)" (by decide) hsep
  have hpart := happend motleyTitle " -- " "Part B" (by decide) hsep
  exact ⟨by decide +kernel, hempty.trans (by decide +kernel), hpart.trans (by decide +kernel)⟩

end Runbook.Text
