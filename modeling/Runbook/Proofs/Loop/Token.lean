import Mathlib.Data.List.Infix
import Runbook.Loop.Basic

/-!
# `Proofs/Loop/Token` — the tokens of a text

What a token is can be said without reading a text from one end: it is the variable behind a dollar
sign, in braces or where the name does not go on (`IsLive`). Such tokens may overlap, and one of each
kind may begin at the same place. Reading from left to right decides between them: the token that
begins first counts, in braces if there is a choice, and the next one is looked for behind it. So a
text falls into gaps and tokens in exactly one way (`Reading.Leftmost`), which has nothing to do with
what is put in the place of the tokens.

Substitution is told by this reading: the gaps stay, and in the place of every token stands the item
as it is. The induction is on what is left of the text. A place where no token begins lengthens the
gap that follows it by one character (`Reading.leftmost_push`), and a token ends an empty gap.
-/

set_option autoImplicit false

namespace Runbook.Loop

open Runbook.Text

variable {var token later : List Char}

/-! ## Tokens -/

/-- The token of a variable in braces. -/
def braced (var : List Char) : List Char := '$' :: '\x7b' :: var ++ ['\x7d']

/-- The token of a variable without braces. -/
def bare (var : List Char) : List Char := '$' :: var

/-- A text is a token of a variable, if `later` follows it. -/
def IsLive (var token later : List Char) : Prop :=
  token = braced var ∨ token = bare var ∧ ∀ c ∈ later.head?, isNameChar c = false

/-- A text is the token that counts at its place: of two tokens there it is the one in braces. -/
def IsChosen (var token later : List Char) : Prop :=
  IsLive var token later ∧ (braced var <+: token ++ later → token = braced var)

theorem braced_ne_bare (var : List Char) : braced var ≠ bare var := by
  intro h
  have hlength := congrArg List.length h
  simp only [braced, bare, List.length_cons, List.length_append, List.length_nil] at hlength
  omega

theorem IsLive.ne_nil (h : IsLive var token later) : token ≠ [] := by
  rcases h with rfl | ⟨rfl, -⟩
  · exact List.cons_ne_nil _ _
  · exact List.cons_ne_nil _ _

theorem isChosen_braced (var later : List Char) : IsChosen var (braced var) later :=
  ⟨.inl rfl, fun _ => rfl⟩

/-- At one place one token counts. -/
theorem IsChosen.eq_of_append_eq {token' later' : List Char} (h : IsChosen var token later)
    (h' : IsChosen var token' later') (heq : token ++ later = token' ++ later') :
    token = token' := by
  by_cases hbraced : braced var <+: token ++ later
  · rw [h.2 hbraced, h'.2 (heq ▸ hbraced)]
  · have hbare : ∀ t l, token ++ later = t ++ l → IsLive var t l → t = bare var := by
      rintro t l htl (rfl | ⟨rfl, -⟩)
      · exact absurd (htl ▸ List.prefix_append _ _) hbraced
      · rfl
    rw [hbare token later rfl h.1, hbare token' later' heq h'.1]

/-! ## The token that a text begins with -/

theorem afterToken?_braced (var later : List Char) :
    afterToken? var (braced var ++ later) = some later := by
  have hafter : after? ('\x7b' :: var ++ ['\x7d']) ('\x7b' :: var ++ ['\x7d'] ++ later) =
      some later := after?_eq_some_iff.2 rfl
  show afterToken? var ('$' :: ('\x7b' :: var ++ ['\x7d'] ++ later)) = some later
  simp only [afterToken?, hafter]

theorem afterToken?_bare (h : ¬ braced var <+: bare var ++ later) :
    afterToken? var (bare var ++ later) =
      if later.head?.any isNameChar then none else some later := by
  have hbraced : after? ('\x7b' :: var ++ ['\x7d']) (var ++ later) = none := by
    refine Option.eq_none_iff_forall_ne_some.2 fun rest hrest => h ⟨rest, ?_⟩
    exact congrArg ('$' :: ·) (after?_eq_some_iff.1 hrest).symm
  have hbare : after? var (var ++ later) = some later := after?_eq_some_iff.2 rfl
  show afterToken? var ('$' :: (var ++ later)) = _
  simp only [afterToken?, hbraced, hbare]

theorem afterToken?_other {cs : List Char} (hbraced : ¬ braced var <+: cs)
    (hbare : ¬ bare var <+: cs) : afterToken? var cs = none := by
  unfold afterToken?
  split
  · next rest =>
    split
    · next later hlater =>
      rw [after?_eq_some_iff.1 hlater] at hbraced
      exact absurd (List.prefix_append (braced var) later) hbraced
    · split
      · next later hlater =>
        rw [after?_eq_some_iff.1 hlater] at hbare
        exact absurd (List.prefix_append (bare var) later) hbare
      · rfl
  · rfl

/-- What follows the token that a text begins with. -/
theorem exists_of_afterToken? {cs : List Char} (h : afterToken? var cs = some later) :
    ∃ token, cs = token ++ later ∧ IsChosen var token later := by
  by_cases hbraced : braced var <+: cs
  · obtain ⟨rest, rfl⟩ := hbraced
    obtain rfl := Option.some.inj ((afterToken?_braced var rest).symm.trans h)
    exact ⟨braced var, rfl, isChosen_braced var rest⟩
  by_cases hbare : bare var <+: cs
  · obtain ⟨rest, rfl⟩ := hbare
    rw [afterToken?_bare hbraced] at h
    split at h
    · cases h
    · next hname =>
      obtain rfl := Option.some.inj h
      refine ⟨bare var, rfl, .inr ⟨rfl, fun c hc => ?_⟩, fun hstill => absurd hstill hbraced⟩
      rw [Option.mem_def.1 hc] at hname
      simpa using hname
  · rw [afterToken?_other hbraced hbare] at h
    cases h

/-- Where no token is found, none begins. -/
theorem not_isLive_of_afterToken? {cs : List Char} (h : afterToken? var cs = none)
    (heq : cs = token ++ later) : ¬ IsLive var token later := by
  rintro (rfl | ⟨rfl, hname⟩)
  · rw [heq, afterToken?_braced] at h
    cases h
  · by_cases hbraced : braced var <+: bare var ++ later
    · obtain ⟨rest, hrest⟩ := hbraced
      rw [heq, ← hrest, afterToken?_braced] at h
      cases h
    · have hends : later.head?.any isNameChar = false := by
        cases hhead : later.head? with
        | none => rfl
        | some c => exact hname c hhead
      rw [heq, afterToken?_bare hbraced, hends] at h
      cases h

/-! ## Readings -/

/-- A text as gaps with tokens between them. -/
inductive Reading where
  | last (gap : List Char)
  | more (gap token : List Char) (rest : Reading)

namespace Reading

/-- The text with something in the place of each token. -/
def fill (put : List Char → List Char) : Reading → List Char
  | last gap => gap
  | more gap t rest => gap ++ put t ++ rest.fill put

/-- The text itself. -/
def text (r : Reading) : List Char := r.fill id

end Reading

/-- No token begins in a gap that `later` follows. -/
def Clear (var gap later : List Char) : Prop :=
  ∀ front token back, gap ++ later = front ++ token ++ back → IsLive var token back →
    gap.length ≤ front.length

theorem clear_nil (var later : List Char) : Clear var [] later := fun _ _ _ _ _ => Nat.zero_le _

theorem Clear.cons {gap : List Char} {c : Char} (h : Clear var gap later)
    (hnone : ∀ token back, c :: gap ++ later = token ++ back → ¬ IsLive var token back) :
    Clear var (c :: gap) later := by
  intro front token back heq hlive
  cases front with
  | nil => exact absurd hlive (hnone token back heq)
  | cons d front =>
    have htail : gap ++ later = front ++ token ++ back := (List.cons.inj heq).2
    exact Nat.succ_le_succ (h front token back htail hlive)

namespace Reading

/-- The tokens are those of a variable that are met from left to right: none begins in a gap, and each
is the one that counts at its place. -/
def Leftmost (var : List Char) : Reading → Prop
  | last gap => Clear var gap []
  | more gap t rest =>
    Clear var gap (t ++ rest.text) ∧ IsChosen var t rest.text ∧ rest.Leftmost var

/-- A reading with one more character in front. -/
def push (c : Char) : Reading → Reading
  | last gap => last (c :: gap)
  | more gap t rest => more (c :: gap) t rest

theorem fill_push (put : List Char → List Char) (c : Char) (r : Reading) :
    (r.push c).fill put = c :: r.fill put := by
  cases r with
  | last gap => rfl
  | more gap t rest => rfl

theorem text_more (gap t : List Char) (rest : Reading) :
    (more gap t rest).text = gap ++ (t ++ rest.text) := List.append_assoc gap t rest.text

/-- A character at which no token begins belongs to the gap that follows it. -/
theorem leftmost_push {r : Reading} {c : Char} (h : r.Leftmost var)
    (hnone : ∀ token back, c :: r.text = token ++ back → ¬ IsLive var token back) :
    (r.push c).Leftmost var := by
  cases r with
  | last gap =>
    refine Clear.cons h fun token back heq => hnone token back ?_
    rw [List.append_nil] at heq
    exact heq
  | more gap t rest =>
    obtain ⟨hgap, hchosen, hrest⟩ := h
    refine ⟨hgap.cons fun token back heq => hnone token back ?_, hchosen, hrest⟩
    rw [text_more]
    exact heq

/-- A token that counts begins a gap's end at the latest. -/
theorem length_gap_le {gap gap' t : List Char} {rest : Reading} (hgap : Clear var gap later)
    (hchosen : IsChosen var t rest.text) (heq : gap ++ later = gap' ++ (t ++ rest.text)) :
    gap.length ≤ gap'.length :=
  hgap gap' t rest.text (heq.trans (List.append_assoc gap' t rest.text).symm) hchosen.1

/-- A text that ends in a gap without a token is not read as one with a token. -/
theorem not_leftmost_more {gap gap' t : List Char} {rest : Reading} (hgap : Clear var gap [])
    (heq : gap = (more gap' t rest).text) : ¬ (more gap' t rest).Leftmost var := by
  rintro ⟨-, hchosen, -⟩
  rw [text_more] at heq
  have hle := length_gap_le hgap hchosen ((List.append_nil gap).trans heq)
  have hpos : 0 < t.length := List.length_pos_iff.2 hchosen.1.ne_nil
  have hlength := congrArg List.length heq
  rw [List.length_append, List.length_append] at hlength
  omega

/-- A text is read in one way. -/
theorem eq_of_text_eq {r r' : Reading} (h : r.Leftmost var) (h' : r'.Leftmost var)
    (heq : r.text = r'.text) : r = r' := by
  induction r generalizing r' with
  | last gap =>
    cases r' with
    | last gap' => exact congrArg last heq
    | more gap' t rest => exact absurd h' (not_leftmost_more h heq)
  | more gap t rest ih =>
    cases r' with
    | last gap' => exact absurd h (not_leftmost_more h' heq.symm)
    | more gap' t' rest' =>
      obtain ⟨hgap, hchosen, hrest⟩ := h
      obtain ⟨hgap', hchosen', hrest'⟩ := h'
      rw [text_more, text_more] at heq
      -- Neither token begins in the gap before the other.
      have hlength : gap.length = gap'.length :=
        Nat.le_antisymm (length_gap_le hgap hchosen' heq) (length_gap_le hgap' hchosen heq.symm)
      obtain ⟨rfl, htail⟩ := List.append_inj heq hlength
      obtain rfl := hchosen.eq_of_append_eq hchosen' htail
      rw [ih hrest hrest' (List.append_cancel_left htail)]

end Reading

/-! ## Substitution -/

theorem replaceTokens_of_some {cs : List Char} (h : afterToken? var cs = some later)
    (item : List Char) : replaceTokens var item cs = item ++ replaceTokens var item later := by
  rw [replaceTokens]
  split
  · next rest hrest =>
    obtain rfl := Option.some.inj (hrest.symm.trans h)
    rfl
  · next hnone =>
    rw [hnone] at h
    cases h

theorem replaceTokens_nil (var item : List Char) : replaceTokens var item [] = [] := by
  rw [replaceTokens]
  rfl

theorem replaceTokens_cons {c : Char} {cs : List Char} (h : afterToken? var (c :: cs) = none)
    (item : List Char) : replaceTokens var item (c :: cs) = c :: replaceTokens var item cs := by
  rw [replaceTokens]
  split
  · next rest hrest =>
    rw [h] at hrest
    cases hrest
  · rfl

/-- Every text has a reading, and substitution fills it. -/
theorem exists_reading (var cs : List Char) : ∃ r : Reading, r.text = cs ∧ r.Leftmost var ∧
    ∀ item, replaceTokens var item cs = r.fill fun _ => item := by
  induction hlength : cs.length using Nat.strongRecOn generalizing cs with
  | ind n ih =>
    cases hafter : afterToken? var cs with
    | some later =>
      have hlt : later.length < n := hlength ▸ length_afterToken? hafter
      obtain ⟨r, rfl, hleft, hfill⟩ := ih later.length hlt later rfl
      obtain ⟨t, hcs, hchosen⟩ := exists_of_afterToken? hafter
      refine ⟨.more [] t r, hcs.symm, ⟨clear_nil var _, hchosen, hleft⟩, fun item => ?_⟩
      rw [replaceTokens_of_some hafter, hfill item]
      rfl
    | none =>
      cases cs with
      | nil =>
        refine ⟨.last [], rfl, clear_nil var [], fun item => ?_⟩
        rw [replaceTokens_nil]
        rfl
      | cons c cs =>
        have hlt : cs.length < n := hlength ▸ Nat.lt_succ_self cs.length
        obtain ⟨r, rfl, hleft, hfill⟩ := ih cs.length hlt cs rfl
        refine ⟨r.push c, r.fill_push id c, Reading.leftmost_push hleft fun t back heq => ?_,
          fun item => ?_⟩
        · exact not_isLive_of_afterToken? hafter heq
        · rw [replaceTokens_cons hafter, hfill item, Reading.fill_push]

/-- **What substitution does.** A text falls into gaps and tokens in one way, and that way is the same
whatever the item is: no token begins in a gap, and the tokens are those that are met from left to
right, in braces where there is a choice. With the item in the place of each token, and nothing else
changed, it is the text after substitution. A text in which no token begins stays as it is. -/
theorem substitute_eq_fill (body var : String) :
    ∃ r : Reading, r.text = body.toList ∧ r.Leftmost var.toList ∧
      (∀ r' : Reading, r'.text = body.toList → r'.Leftmost var.toList → r' = r) ∧
      (∀ item, substitute body var item = String.ofList (r.fill fun _ => item.toList)) ∧
      ((∀ front token back, body.toList = front ++ token ++ back →
          ¬ IsLive var.toList token back) → ∀ item, substitute body var item = body) := by
  obtain ⟨r, htext, hleft, hfill⟩ := exists_reading var.toList body.toList
  have hsubstitute : ∀ item, substitute body var item =
      String.ofList (r.fill fun _ => item.toList) :=
    fun item => congrArg String.ofList (hfill item.toList)
  refine ⟨r, htext, hleft, fun r' htext' hleft' => ?_, hsubstitute, fun hnone item => ?_⟩
  · exact Reading.eq_of_text_eq hleft' hleft (htext'.trans htext.symm)
  · cases r with
    | last gap =>
      have hgap : gap = body.toList := htext
      rw [hsubstitute item, Reading.fill, hgap, String.ofList_toList]
    | more gap t rest => exact absurd hleft.2.1.1 (hnone gap t rest.text htext.symm)

/-- A dollar sign alone, and one before a longer name, begin no token. -/
theorem substitute_eq_fill_untouched :
    (∀ front token back, "5$ for $xy".toList = front ++ token ++ back →
      ¬ IsLive "x".toList token back) ∧
    ∀ item, substitute "5$ for $xy" "x" item = "5$ for $xy" := by
  have hnone : ∀ front token back, "5$ for $xy".toList = front ++ token ++ back →
      ¬ IsLive "x".toList token back := by
    intro front token back heq
    have hall : ∀ rest ∈ "5$ for $xy".toList.tails, afterToken? "x".toList rest = none := by decide
    have htail : token ++ back ∈ "5$ for $xy".toList.tails :=
      (List.mem_tails _ _).2 ⟨front, by rw [heq, List.append_assoc]⟩
    exact not_isLive_of_afterToken? (hall _ htail) rfl
  obtain ⟨r, -, -, -, -, hsame⟩ := substitute_eq_fill "5$ for $xy" "x"
  exact ⟨hnone, hsame hnone⟩

/-- Both kinds of token begin at the first place, and the one in braces counts. The item is not read
again. -/
example : substitute "$\x7b\x7b\x7d, $\x7b_ and $\x7b" "\x7b" "$\x7b" =
    "$\x7b, $\x7b_ and $\x7b" := by
  decide +kernel

end Runbook.Loop
