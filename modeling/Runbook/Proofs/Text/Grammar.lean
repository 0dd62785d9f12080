import Mathlib.Data.List.Basic
import Runbook.Proofs.Text.Trim
import Runbook.Text.Cut

/-!
# `Proofs/Text/Grammar` — grammars that are tried in an order

A grammar describes what a text may begin with. Where it leaves a choice, as a run of blanks may be
taken whole or in part, the ways to go on are tried in an order, and the first one counts after which
all the rest of the grammar fits. So a grammar says more than which texts it fits. It also says which
part of a text stands in a slot of it (`Slotted.filling?`).

The meaning of a grammar is the list of what each way leaves of a text, the preferred way first
(`Grammar.rests`). What comes next in the grammar goes on from every member of the list in turn, which
is all there is to coming back from a way that leads nowhere.

A recogniser that never comes back relies on three observations. What is taken literally is there or
it is not (`rests_literal`). A run is taken as a whole if what comes next begins otherwise
(`flatMap_rests_many_one`), and if it may begin so too, all but the last character is the second thing
to try (`head?_flatMap_rests_many_one_concat`). The text of a slot is the shortest one behind which the
rest fits (`head?_filled`).
-/

set_option autoImplicit false

namespace Runbook.Text

/-- What a text may begin with. -/
inductive Grammar where
  | empty
  /-- One character with a property. -/
  | one (p : Char → Bool)
  /-- Nothing, at the end of the text. -/
  | finish
  | seq (first second : Grammar)
  /-- Once, or else not at all. -/
  | opt (g : Grammar)
  /-- Any number of times, rather many than few. -/
  | many (g : Grammar)
  /-- Any number of times, rather few than many. -/
  | few (g : Grammar)

instance : Append Grammar := ⟨.seq⟩

/-- What is left of a text when `step` is done to it over and over, `n` times at most. A step that
takes nothing away is not followed by another. -/
def repeats (eager : Bool) (step : List Char → List (List Char)) :
    (n : Nat) → List Char → List (List Char)
  | 0, cs => [cs]
  | n + 1, cs =>
    let further := ((step cs).filter fun rest => rest.length < cs.length).flatMap
      (repeats eager step n)
    if eager then further ++ [cs] else cs :: further

namespace Grammar

/-- What is left of a text behind a grammar, for each way to take it, the preferred way first. -/
def rests : Grammar → List Char → List (List Char)
  | empty, cs => [cs]
  | one p, cs =>
    match cs with
    | [] => []
    | c :: rest => if p c then [rest] else []
  | finish, cs => if cs.isEmpty then [cs] else []
  | seq first second, cs => (first.rests cs).flatMap second.rests
  | opt g, cs => g.rests cs ++ [cs]
  | many g, cs => repeats true g.rests cs.length cs
  | few g, cs => repeats false g.rests cs.length cs

/-- The characters of a text, one after the other. -/
def literal : List Char → Grammar
  | [] => empty
  | c :: cs => one (· == c) ++ literal cs

/-- Characters with a property, one at least, and rather many than few. -/
def run (p : Char → Bool) : Grammar := one p ++ many (one p)

/-- A character that may stand on a line. -/
def onLine (c : Char) : Bool := c != '\n'

/-- Some text on a line, one character at least, and rather little than much. -/
def someText : Grammar := one onLine ++ few (one onLine)

end Grammar

/-- What the text of a slot can be, at the place where the slot begins, and with `behind` to follow. -/
def filled (within behind : Grammar) (start : List Char) : List (List Char) :=
  (within.rests start).flatMap fun rest =>
    (behind.rests rest).map fun _ => start.take (start.length - rest.length)

/-- A grammar with a slot in it. -/
structure Slotted where
  before : Grammar
  within : Grammar
  behind : Grammar

/-- What the text of the slot can be, the preferred way first. -/
def Slotted.fillings (g : Slotted) (cs : List Char) : List (List Char) :=
  (g.before.rests cs).flatMap (filled g.within g.behind)

/-- The text of the slot in a text that the grammar fits. -/
def Slotted.filling? (g : Slotted) (cs : List Char) : Option (List Char) := (g.fillings cs).head?

/-! ## Taking apart -/

theorem after?_append (lead rest : List Char) : after? lead (lead ++ rest) = some rest :=
  after?_eq_some_iff.2 rfl

theorem afterRun?_append {p : Char → Bool} {front rest : List Char} (hne : front ≠ [])
    (hfront : ∀ c ∈ front, p c = true) (hrest : ∀ c, rest.head? = some c → p c = false) :
    afterRun? p (front ++ rest) = some rest := by
  obtain ⟨c, more, rfl⟩ := List.exists_cons_of_ne_nil hne
  obtain ⟨hc, hmore⟩ := List.forall_mem_cons.1 hfront
  rw [List.cons_append, afterRun?, if_pos hc, List.dropWhile_append_of_pos hmore]
  cases rest with
  | nil => rfl
  | cons d rest => rw [List.dropWhile_cons_of_neg (by simp [hrest d rfl])]

/-! ## Repetition -/

/-- More steps than the text has characters are never needed. -/
theorem repeats_congr (eager : Bool) (step : List Char → List (List Char)) {n m : Nat}
    {cs : List Char} (hn : cs.length ≤ n) (hm : cs.length ≤ m) :
    repeats eager step n cs = repeats eager step m cs := by
  -- Nothing gets shorter than the empty text.
  have hnil : ∀ k, repeats eager step k [] = [[]] := by
    intro k
    cases k with
    | zero => rfl
    | succ k =>
      have hnone : ((step []).filter fun rest => rest.length < ([] : List Char).length) = [] := by
        simp
      unfold repeats
      rw [hnone]
      cases eager <;> rfl
  induction n generalizing m cs with
  | zero =>
    obtain rfl := List.eq_nil_of_length_eq_zero (Nat.le_zero.1 hn)
    rw [hnil, hnil]
  | succ n ih =>
    cases m with
    | zero =>
      obtain rfl := List.eq_nil_of_length_eq_zero (Nat.le_zero.1 hm)
      rw [hnil, hnil]
    | succ m =>
      have hstep : ((step cs).filter fun rest => rest.length < cs.length).flatMap
          (repeats eager step n) = ((step cs).filter fun rest => rest.length < cs.length).flatMap
            (repeats eager step m) := by
        refine List.flatMap_congr ?_
        intro rest hrest
        have hlt := of_decide_eq_true (List.mem_filter.1 hrest).2
        exact ih (by omega) (by omega)
      unfold repeats
      rw [hstep]

theorem suffix_of_mem_repeats {eager : Bool} {step : List Char → List (List Char)}
    (hstep : ∀ cs, ∀ rest ∈ step cs, rest <:+ cs) {n : Nat} {cs rest : List Char}
    (h : rest ∈ repeats eager step n cs) : rest <:+ cs := by
  induction n generalizing cs with
  | zero =>
    obtain rfl := List.mem_singleton.1 h
    exact List.suffix_refl _
  | succ n ih =>
    have hcases : rest = cs ∨ rest ∈
        ((step cs).filter fun rest => rest.length < cs.length).flatMap (repeats eager step n) := by
      unfold repeats at h
      cases eager with
      | false => exact List.mem_cons.1 h
      | true => exact (List.mem_append.1 h).symm.imp List.mem_singleton.1 id
    rcases hcases with rfl | hfurther
    · exact List.suffix_refl _
    · obtain ⟨next, hnext, hrest⟩ := List.mem_flatMap.1 hfurther
      exact (ih hrest).trans (hstep cs next (List.mem_filter.1 hnext).1)

theorem repeats_length (eager : Bool) (step : List Char → List (List Char)) (cs : List Char) :
    repeats eager step cs.length cs =
      let further := ((step cs).filter fun rest => rest.length < cs.length).flatMap fun rest =>
        repeats eager step rest.length rest
      if eager then further ++ [cs] else cs :: further := by
  rw [repeats_congr eager step (Nat.le_refl _) (Nat.le_succ _), repeats]
  have hstep : ((step cs).filter fun rest => rest.length < cs.length).flatMap
      (repeats eager step cs.length) = ((step cs).filter fun rest => rest.length < cs.length).flatMap
        fun rest => repeats eager step rest.length rest := by
    refine List.flatMap_congr ?_
    intro rest hrest
    have hlt := of_decide_eq_true (List.mem_filter.1 hrest).2
    exact repeats_congr eager step (Nat.le_of_lt hlt) (Nat.le_refl _)
  rw [hstep]

namespace Grammar

theorem rests_many (g : Grammar) (cs : List Char) :
    (many g).rests cs =
      ((g.rests cs).filter fun rest => rest.length < cs.length).flatMap (many g).rests ++ [cs] :=
  repeats_length true g.rests cs

theorem rests_few (g : Grammar) (cs : List Char) :
    (few g).rests cs =
      cs :: ((g.rests cs).filter fun rest => rest.length < cs.length).flatMap (few g).rests :=
  repeats_length false g.rests cs

theorem mem_rests_many {g : Grammar} {cs rest : List Char} :
    rest ∈ (many g).rests cs ↔
      rest = cs ∨ ∃ next ∈ g.rests cs, next.length < cs.length ∧ rest ∈ (many g).rests next := by
  rw [rests_many]
  simp only [List.mem_append, List.mem_flatMap, List.mem_filter, List.mem_singleton,
    decide_eq_true_eq, and_assoc]
  exact or_comm

/-- A grammar takes from the front of a text, and nowhere else. -/
theorem suffix_of_mem_rests {g : Grammar} {cs rest : List Char} (h : rest ∈ g.rests cs) :
    rest <:+ cs := by
  induction g generalizing cs rest with
  | empty =>
    obtain rfl := List.mem_singleton.1 h
    exact List.suffix_refl _
  | one p =>
    cases cs with
    | nil => cases h
    | cons c cs =>
      simp only [rests] at h
      split at h
      · rw [List.mem_singleton.1 h]
        exact List.suffix_cons c cs
      · cases h
  | finish =>
    simp only [rests] at h
    split at h
    · obtain rfl := List.mem_singleton.1 h
      exact List.suffix_refl _
    · cases h
  | seq first second ihFirst ihSecond =>
    obtain ⟨next, hnext, hrest⟩ := List.mem_flatMap.1 h
    exact (ihSecond hrest).trans (ihFirst hnext)
  | opt g ih =>
    rcases List.mem_append.1 h with honce | hnone
    · exact ih honce
    · obtain rfl := List.mem_singleton.1 hnone
      exact List.suffix_refl _
  | many g ih => exact suffix_of_mem_repeats (fun _ _ hnext => ih hnext) h
  | few g ih => exact suffix_of_mem_repeats (fun _ _ hnext => ih hnext) h

theorem onLine_of_notMem {cs : List Char} (h : '\n' ∉ cs) : ∀ c ∈ cs, onLine c = true := by
  intro c hc
  unfold onLine
  rw [bne_iff_ne]
  rintro rfl
  exact h hc

/-! ## What fits -/

/-- There is a way to take the grammar from the front of a text. -/
def Fits (g : Grammar) (cs : List Char) : Prop := ∃ rest, rest ∈ g.rests cs

theorem rests_append (g h : Grammar) (cs : List Char) :
    (g ++ h).rests cs = (g.rests cs).flatMap h.rests := rfl

theorem mem_rests_append {g h : Grammar} {cs rest : List Char} :
    rest ∈ (g ++ h).rests cs ↔ ∃ next ∈ g.rests cs, rest ∈ h.rests next := List.mem_flatMap

theorem rests_one_cons (p : Char → Bool) (c : Char) (cs : List Char) :
    (one p).rests (c :: cs) = if p c then [cs] else [] := rfl

theorem mem_rests_one {p : Char → Bool} {cs rest : List Char} :
    rest ∈ (one p).rests cs ↔ ∃ c, p c = true ∧ cs = c :: rest := by
  cases cs with
  | nil => simp [rests]
  | cons c more =>
    rw [rests_one_cons]
    constructor
    · intro h
      by_cases hc : p c = true
      · rw [if_pos hc] at h
        obtain rfl := List.mem_singleton.1 h
        exact ⟨c, hc, rfl⟩
      · rw [if_neg hc] at h
        cases h
    · rintro ⟨d, hd, hcons⟩
      obtain ⟨rfl, rfl⟩ := List.cons.inj hcons
      rw [if_pos hd]
      exact List.mem_singleton_self _

theorem mem_rests_finish {cs rest : List Char} : rest ∈ finish.rests cs ↔ cs = [] ∧ rest = [] := by
  cases cs with
  | nil => simp [rests]
  | cons c more => simp [rests]

theorem rests_literal (l cs : List Char) : (literal l).rests cs = (after? l cs).toList := by
  induction l generalizing cs with
  | nil => rfl
  | cons d l ih =>
    unfold literal
    rw [rests_append]
    cases cs with
    | nil => rfl
    | cons c rest =>
      by_cases hc : d = c
      · subst hc
        simp [rests, after?, ih]
      · simp [rests, after?, hc, Ne.symm hc]

theorem mem_rests_literal {l cs rest : List Char} :
    rest ∈ (literal l).rests cs ↔ cs = l ++ rest := by
  rw [rests_literal, Option.mem_toList]
  exact after?_eq_some_iff

/-! ## Runs -/

theorem rests_many_one_cons (p : Char → Bool) (c : Char) (cs : List Char) :
    (many (one p)).rests (c :: cs) =
      (if p c then (many (one p)).rests cs else []) ++ [c :: cs] := by
  rw [rests_many]
  by_cases hc : p c = true
  · simp [rests_one_cons, hc]
  · simp [rests_one_cons, hc]

theorem rests_few_one_cons (p : Char → Bool) (c : Char) (cs : List Char) :
    (few (one p)).rests (c :: cs) =
      (c :: cs) :: if p c then (few (one p)).rests cs else [] := by
  rw [rests_few]
  by_cases hc : p c = true
  · simp [rests_one_cons, hc]
  · simp [rests_one_cons, hc]

/-- Where no run begins, nothing is taken. -/
theorem rests_many_one_of_head? {p : Char → Bool} {cs : List Char}
    (h : ∀ c, cs.head? = some c → p c = false) : (many (one p)).rests cs = [cs] := by
  cases cs with
  | nil => rfl
  | cons c cs =>
    rw [rests_many_one_cons, h c rfl]
    rfl

/-- Any part of a run can be taken. -/
theorem mem_rests_many_one {p : Char → Bool} {cs rest : List Char} :
    rest ∈ (many (one p)).rests cs ↔ ∃ front, (∀ c ∈ front, p c = true) ∧ cs = front ++ rest := by
  constructor
  · intro h
    induction cs with
    | nil =>
      obtain rfl : rest = [] := by simpa [rests, repeats] using h
      exact ⟨[], nofun, rfl⟩
    | cons c cs ih =>
      rw [rests_many_one_cons] at h
      rcases List.mem_append.1 h with hmore | hnone
      · by_cases hc : p c = true
        · rw [if_pos hc] at hmore
          obtain ⟨front, hfront, rfl⟩ := ih hmore
          exact ⟨c :: front, List.forall_mem_cons.2 ⟨hc, hfront⟩, rfl⟩
        · rw [if_neg hc] at hmore
          cases hmore
      · obtain rfl := List.mem_singleton.1 hnone
        exact ⟨[], nofun, rfl⟩
  · rintro ⟨front, hfront, rfl⟩
    induction front with
    | nil =>
      rw [rests_many]
      exact List.mem_append_right _ List.mem_cons_self
    | cons c front ih =>
      obtain ⟨hc, hmore⟩ := List.forall_mem_cons.1 hfront
      rw [List.cons_append, rests_many_one_cons, if_pos hc]
      exact List.mem_append_left _ (ih hmore)

theorem mem_rests_run {p : Char → Bool} {cs rest : List Char} :
    rest ∈ (run p).rests cs ↔
      ∃ front, front ≠ [] ∧ (∀ c ∈ front, p c = true) ∧ cs = front ++ rest := by
  unfold run
  rw [mem_rests_append]
  constructor
  · rintro ⟨next, hone, hmany⟩
    obtain ⟨c, hc, rfl⟩ := mem_rests_one.1 hone
    obtain ⟨front, hfront, rfl⟩ := mem_rests_many_one.1 hmany
    exact ⟨c :: front, List.cons_ne_nil _ _, List.forall_mem_cons.2 ⟨hc, hfront⟩, rfl⟩
  · rintro ⟨front, hne, hfront, rfl⟩
    obtain ⟨c, more, rfl⟩ := List.exists_cons_of_ne_nil hne
    obtain ⟨hc, hmore⟩ := List.forall_mem_cons.1 hfront
    exact ⟨more ++ rest, mem_rests_one.2 ⟨c, hc, rfl⟩, mem_rests_many_one.2 ⟨more, hmore, rfl⟩⟩

/-- A run is taken as a whole if what comes next never begins with a character of the run. -/
theorem flatMap_rests_many_one {α : Type} {p : Char → Bool} {k : List Char → List α}
    (hk : ∀ c rest, p c = true → k (c :: rest) = []) (cs : List Char) :
    ((many (one p)).rests cs).flatMap k = k (cs.dropWhile p) := by
  induction cs with
  | nil => simp [rests, repeats]
  | cons c cs ih =>
    rw [rests_many_one_cons]
    by_cases hc : p c = true
    · rw [if_pos hc, List.flatMap_append, ih, List.flatMap_singleton, hk c cs hc, List.append_nil,
        List.dropWhile_cons_of_pos hc]
    · rw [if_neg hc, List.nil_append, List.flatMap_singleton, List.dropWhile_cons_of_neg hc]

theorem flatMap_rests_run {α : Type} {p : Char → Bool} {k : List Char → List α}
    (hk : ∀ c rest, p c = true → k (c :: rest) = []) (cs : List Char) :
    ((run p).rests cs).flatMap k = (afterRun? p cs).toList.flatMap k := by
  unfold run
  rw [rests_append, List.flatMap_assoc]
  cases cs with
  | nil => rfl
  | cons c cs =>
    by_cases hc : p c = true
    · rw [rests_one_cons, if_pos hc, List.flatMap_singleton, flatMap_rests_many_one hk, afterRun?,
        if_pos hc, Option.toList_some, List.flatMap_singleton]
    · rw [rests_one_cons, if_neg hc, afterRun?, if_neg hc]
      rfl

theorem flatMap_rests_run_literal {α : Type} {p : Char → Bool} {d : Char} (hd : p d = false)
    (l : List Char) (k : List Char → List α) (cs : List Char) :
    ((run p).rests cs).flatMap (fun rest => ((literal (d :: l)).rests rest).flatMap k) =
      (afterRun? p cs).toList.flatMap fun rest => ((literal (d :: l)).rests rest).flatMap k := by
  apply flatMap_rests_run
  intro c rest hc
  have hne : d ≠ c := by
    rintro rfl
    rw [hd] at hc
    cases hc
  rw [rests_literal, after?, if_neg hne]
  rfl

theorem flatMap_rests_run_run {α : Type} {p q : Char → Bool} (hpq : ∀ c, q c = true → p c = false)
    (k : List Char → List α) (cs : List Char) :
    ((run p).rests cs).flatMap (fun rest => ((run q).rests rest).flatMap k) =
      (afterRun? p cs).toList.flatMap fun rest => ((run q).rests rest).flatMap k := by
  apply flatMap_rests_run
  intro c rest hc
  have hq : ¬ q c = true := by
    intro hq
    rw [hpq c hq] at hc
    cases hc
  unfold run
  rw [rests_append, rests_one_cons, if_neg hq]
  rfl

/-- Otherwise the whole run is still the first thing to try. -/
theorem head?_flatMap_rests_many_one {α : Type} {p : Char → Bool} {k : List Char → List α}
    {cs : List Char} {a : α} (h : (k (cs.dropWhile p)).head? = some a) :
    (((many (one p)).rests cs).flatMap k).head? = some a := by
  induction cs with
  | nil => simpa [rests, repeats] using h
  | cons c cs ih =>
    rw [rests_many_one_cons, List.flatMap_append, List.head?_append]
    by_cases hc : p c = true
    · rw [List.dropWhile_cons_of_pos hc] at h
      rw [if_pos hc, ih h]
      rfl
    · rw [List.dropWhile_cons_of_neg hc] at h
      rw [if_neg hc, List.flatMap_singleton, h]
      rfl

/-- And all but its last character is the second. -/
theorem head?_flatMap_rests_many_one_concat {α : Type} {p : Char → Bool} {k : List Char → List α}
    {front rest : List Char} {c : Char} {a : α} (hfront : ∀ d ∈ front, p d = true)
    (hrest : ∀ d, rest.head? = some d → p d = false) (hwhole : k rest = [])
    (h : (k (c :: rest)).head? = some a) :
    (((many (one p)).rests (front ++ c :: rest)).flatMap k).head? = some a := by
  induction front with
  | nil =>
    rw [List.nil_append, rests_many_one_cons, List.flatMap_append, List.flatMap_singleton]
    split
    · rw [rests_many_one_of_head? hrest, List.flatMap_singleton, hwhole]
      exact h
    · exact h
  | cons d front ih =>
    obtain ⟨hd, hmore⟩ := List.forall_mem_cons.1 hfront
    rw [List.cons_append, rests_many_one_cons, if_pos hd, List.flatMap_append, List.head?_append,
      ih hmore]
    rfl

/-- As little is taken as what comes next allows. -/
theorem head?_flatMap_rests_few_one {α : Type} {p : Char → Bool} {k : List Char → List α}
    {front rest : List Char} {a : α} (hfront : ∀ c ∈ front, p c = true)
    (hless : ∀ earlier later, front ++ rest = earlier ++ later → earlier.length < front.length →
      k later = [])
    (h : (k rest).head? = some a) :
    (((few (one p)).rests (front ++ rest)).flatMap k).head? = some a := by
  induction front with
  | nil => rw [List.nil_append, rests_few, List.flatMap_cons, List.head?_append, h]; rfl
  | cons c front ih =>
    obtain ⟨hc, hmore⟩ := List.forall_mem_cons.1 hfront
    have hnone : k (c :: (front ++ rest)) = [] := hless [] _ rfl (Nat.succ_pos _)
    rw [List.cons_append, rests_few_one_cons, if_pos hc, List.flatMap_cons, hnone, List.nil_append]
    refine ih hmore ?_
    intro earlier later hsplit hlt
    exact hless (c :: earlier) later (congrArg (c :: ·) hsplit) (Nat.succ_lt_succ hlt)

end Grammar

/-! ## Slots -/

open Grammar

theorem take_length_sub (front rest : List Char) :
    (front ++ rest).take ((front ++ rest).length - rest.length) = front := by
  rw [List.length_append, Nat.add_sub_cancel, List.take_left]

theorem filled_nil (behind : Grammar) : filled someText behind [] = [] := rfl

/-- Whatever stands in a slot, the rest of the grammar fits behind it. -/
theorem exists_of_mem_filled {behind : Grammar} {start text : List Char}
    (h : text ∈ filled someText behind start) :
    ∃ rest, start = text ++ rest ∧ text ≠ [] ∧ behind.Fits rest := by
  obtain ⟨rest, hrest, hmem⟩ := List.mem_flatMap.1 h
  obtain ⟨last, hlast, rfl⟩ := List.mem_map.1 hmem
  obtain ⟨next, hone, hfew⟩ := mem_rests_append.1 hrest
  obtain ⟨c, -, rfl⟩ := mem_rests_one.1 hone
  obtain ⟨front, rfl⟩ := suffix_of_mem_rests hfew
  have htake := take_length_sub (c :: front) rest
  rw [List.cons_append] at htake
  rw [htake]
  exact ⟨rest, rfl, List.cons_ne_nil _ _, last, hlast⟩

/-- The text of a slot is the shortest behind which the rest of the grammar fits. -/
theorem head?_filled {behind : Grammar} {front rest : List Char}
    (hline : ∀ c ∈ front, onLine c = true) (hne : front ≠ []) (hfits : behind.Fits rest)
    (hleast : ∀ earlier later, front ++ rest = earlier ++ later → earlier ≠ [] →
      behind.Fits later → front.length ≤ earlier.length) :
    (filled someText behind (front ++ rest)).head? = some front := by
  obtain ⟨c, more, rfl⟩ := List.exists_cons_of_ne_nil hne
  obtain ⟨hc, hmore⟩ := List.forall_mem_cons.1 hline
  obtain ⟨last, hlast⟩ := hfits
  unfold filled someText
  rw [rests_append, List.cons_append, rests_one_cons, if_pos hc, List.flatMap_singleton]
  refine head?_flatMap_rests_few_one hmore ?_ ?_
  · intro earlier later hsplit hlt
    rw [List.map_eq_nil_iff, List.eq_nil_iff_forall_not_mem]
    intro further hfurther
    have hle := hleast (c :: earlier) later (congrArg (c :: ·) hsplit) (List.cons_ne_nil _ _)
      ⟨further, hfurther⟩
    exact absurd (Nat.le_of_succ_le_succ hle) (Nat.not_le.2 hlt)
  · obtain ⟨first, others, hfirst⟩ := List.exists_cons_of_ne_nil (List.ne_nil_of_mem hlast)
    rw [hfirst, List.map_cons, List.head?_cons]
    exact congrArg some (take_length_sub (c :: more) rest)

/-- A slot behind a run takes the last character of the run if nothing else is left for it. -/
theorem head?_flatMap_filled_concat {behind : Grammar} {p : Char → Bool} {front rest : List Char}
    {c : Char} (hfront : ∀ d ∈ front, p d = true) (hc : onLine c = true)
    (hrest : ∀ d, rest.head? = some d → p d = false) (hnone : filled someText behind rest = [])
    (hfits : behind.Fits rest) :
    (((many (one p)).rests (front ++ c :: rest)).flatMap (filled someText behind)).head? =
      some [c] := by
  apply head?_flatMap_rests_many_one_concat hfront hrest hnone
  refine @head?_filled behind [c] rest ?_ (List.cons_ne_nil _ _) hfits ?_
  · intro d hd
    rwa [List.mem_singleton.1 hd]
  · intro earlier later _ hearlier _
    exact List.length_pos_iff.2 hearlier

end Runbook.Text
