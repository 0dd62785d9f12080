import Runbook.Datum.Toml.Basic

/-!
# `Proofs/Toml/Front` — what readers take is at the front of a text

A reader takes something off the front of a text, and what it leaves is an end of that text
(`TakesFront`). It may also refuse a text, as malformed or because of an integer that is too long.
Such an integer stands in the text then, at the front of one of its ends (`Explains`). There is one
lemma per reader, and those that call each other in a circle share an induction on their fuel.
-/

set_option autoImplicit false

namespace Runbook.Toml

open Runbook.Text

variable {α β : Type} {cs rest : List Char}

/-! ## Blanks and comments -/

theorem skipSpace_suffix (cs : List Char) : skipSpace cs <:+ cs := List.dropWhile_suffix _

theorem suffix_of_skipSpace (h : skipSpace cs = rest) : rest <:+ cs := h ▸ skipSpace_suffix cs

/-- What is behind something that stands behind blanks. -/
theorem suffix_of_skipSpace_cons {c : Char} (h : skipSpace cs = c :: rest) : rest <:+ cs :=
  (List.suffix_cons c rest).trans (suffix_of_skipSpace h)

theorem suffix_of_skipComment (h : skipComment cs = some rest) : rest <:+ cs := by
  unfold skipComment at h
  split at h
  · split at h
    · cases h
    · cases h
      exact (List.dropWhile_suffix _).trans (List.suffix_cons _ _)
  · cases h
    exact List.suffix_rfl

theorem suffix_of_after? {lead : List Char} (h : after? lead cs = some rest) : rest <:+ cs :=
  ⟨lead, (after?_eq_some_iff.1 h).symm⟩

/-! ## Strings -/

/-- What a reader takes is at the front of a text, and what it leaves is an end. -/
def TakesFront (read : List Char → Option (α × List Char)) : Prop :=
  ∀ ⦃cs : List Char⦄ ⦃a : α⦄ ⦃rest : List Char⦄, read cs = some (a, rest) → rest <:+ cs

/-- What is taken may be turned into something else. -/
theorem TakesFront.of_map {read : List Char → Option (α × List Char)} (h : TakesFront read)
    {f : α × List Char → β × List Char} {b : β} (hb : (read cs).map f = some (b, rest))
    (hf : ∀ p, (f p).2 = p.2) : rest <:+ cs := by
  obtain ⟨⟨a, final⟩, ha, hpair⟩ := Option.map_eq_some_iff.1 hb
  have hrest : final = rest := by
    have hsame := hf (a, final)
    rw [hpair] at hsame
    exact hsame.symm
  exact hrest ▸ h ha

theorem takesFront_hexDigits (count value : Nat) : TakesFront (hexDigits count value) := by
  induction count generalizing value with
  | zero =>
    intro cs n rest h
    cases h
    exact List.suffix_rfl
  | succ count ih =>
    intro cs n rest h
    cases cs with
    | nil => cases h
    | cons c cs =>
      rw [hexDigits] at h
      split at h
      · exact (ih _ h).trans (List.suffix_cons c cs)
      · cases h

theorem takesFront_escape : TakesFront escape := by
  intro cs c rest h
  unfold escape at h
  split at h
  case h_8 | h_9 =>
    obtain ⟨⟨n, final⟩, hn, h⟩ := Option.bind_eq_some_iff.1 h
    obtain ⟨d, -, h⟩ := Option.bind_eq_some_iff.1 h
    cases h
    exact (takesFront_hexDigits _ _ hn).trans (List.suffix_cons _ _)
  case h_10 => cases h
  all_goals
    cases h
    exact List.suffix_cons _ _

theorem suffix_of_joinLines? (h : joinLines? cs = some rest) : rest <:+ cs := by
  unfold joinLines? at h
  split at h
  · next more hspace =>
    cases h
    exact (List.dropWhile_suffix _).trans (suffix_of_skipSpace_cons hspace)
  · split at h
    · cases h
    · cases h
      exact List.nil_suffix
  · cases h

theorem takesFront_quotedRest (multiline : Bool) (fuel : Nat) :
    TakesFront (quotedRest multiline fuel) := by
  induction fuel with
  | zero =>
    intro cs s rest h
    cases h
  | succ fuel ih =>
    intro cs s rest h
    cases cs with
    | nil => cases h
    | cons c cs =>
      have hcons := List.suffix_cons c cs
      unfold quotedRest at h
      split at h
      · split at h
        · split at h
          · cases h
            exact (List.suffix_cons _ _).trans ((List.suffix_cons _ _).trans hcons)
          · exact (ih.of_map h fun _ => rfl).trans hcons
        · cases h
          exact hcons
      split at h
      · split at h
        · next more hjoin =>
          refine (ih h).trans (List.IsSuffix.trans ?_ hcons)
          split at hjoin
          · exact suffix_of_joinLines? hjoin
          · cases hjoin
        · split at h
          · next d more hescape =>
            exact (ih.of_map h fun _ => rfl).trans ((takesFront_escape hescape).trans hcons)
          · cases h
      split at h
      · cases h
      · exact (ih.of_map h fun _ => rfl).trans hcons

theorem takesFront_literalRest (multiline : Bool) (close : List Char) :
    TakesFront (literalRest multiline close) := by
  intro cs s rest h
  induction cs generalizing s with
  | nil => cases h
  | cons c cs ih =>
    rw [literalRest] at h
    split at h
    · next final hclose =>
      cases h
      exact suffix_of_after? hclose
    split at h
    · cases h
    · obtain ⟨⟨t, final⟩, ht, hpair⟩ := Option.map_eq_some_iff.1 h
      cases hpair
      exact (ih ht).trans (List.suffix_cons c cs)

theorem takesFront_shortString : TakesFront shortString := by
  intro cs s rest h
  unfold shortString at h
  split at h
  · exact (takesFront_quotedRest _ _ h).trans (List.suffix_cons _ _)
  · exact (takesFront_literalRest _ _ h).trans (List.suffix_cons _ _)
  · cases h

theorem dropNewline_suffix (cs : List Char) : dropNewline cs <:+ cs := by
  unfold dropNewline
  split
  · exact List.suffix_cons _ _
  · exact List.suffix_rfl

/-- A string over lines, behind its opening quotes. -/
theorem suffix_of_extraQuotes {read : List Char → Option (List Char × List Char)}
    (hread : TakesFront read) {quote : Char} {s : List Char}
    (h : ((read (dropNewline cs)).map fun (s, final) => extraQuotes quote s final) =
      some (s, rest)) : rest <:+ cs := by
  obtain ⟨⟨t, final⟩, ht, hpair⟩ := Option.map_eq_some_iff.1 h
  cases hpair
  exact (List.drop_suffix _ _).trans ((hread ht).trans (dropNewline_suffix cs))

theorem takesFront_string : TakesFront string := by
  intro cs s rest h
  unfold string at h
  split at h
  · exact (suffix_of_extraQuotes (takesFront_quotedRest _ _) h).trans ⟨['"', '"', '"'], rfl⟩
  · exact (suffix_of_extraQuotes (takesFront_literalRest _ _) h).trans ⟨['\'', '\'', '\''], rfl⟩
  · exact takesFront_shortString h

/-! ## Numbers -/

/-- The digits that are taken are what is left of a run without its underscores. -/
theorem exists_run_of_moreDigits {p : Char → Bool} {ds : List Char} (hp : p '_' = false)
    (h : moreDigits p cs = (ds, rest)) : ∃ run, cs = run ++ rest ∧
      (∀ c ∈ run, p c = true ∨ c = '_') ∧ run.filter p = ds := by
  fun_induction moreDigits p cs generalizing ds with
  | case1 c more hc ds' final hmore ih =>
    cases h
    obtain ⟨run, rfl, hrun, rfl⟩ := ih hmore
    refine ⟨'_' :: c :: run, rfl, ?_, ?_⟩
    · simpa [hc] using hrun
    · rw [List.filter_cons_of_neg (by simp [hp]), List.filter_cons_of_pos hc]
  | case2 c more hc =>
    cases h
    exact ⟨[], rfl, nofun, rfl⟩
  | case3 c more hne hc ds' final hmore ih =>
    cases h
    obtain ⟨run, rfl, hrun, rfl⟩ := ih hmore
    refine ⟨c :: run, rfl, ?_, List.filter_cons_of_pos hc⟩
    simpa [hc] using hrun
  | case4 c more hne hc =>
    cases h
    exact ⟨[], rfl, nofun, rfl⟩
  | case5 =>
    cases h
    exact ⟨[], rfl, nofun, rfl⟩

theorem exists_run_of_digits {p : Char → Bool} {ds : List Char} (hp : p '_' = false)
    (h : digits p cs = some (ds, rest)) : ∃ run, cs = run ++ rest ∧
      (∀ c ∈ run, p c = true ∨ c = '_') ∧ run.filter p = ds := by
  unfold digits at h
  split at h
  · next c more =>
    split at h
    · next hc =>
      cases h
      obtain ⟨run, hmore, hrun, hds⟩ := exists_run_of_moreDigits hp (rfl : moreDigits p more = _)
      refine ⟨c :: run, congrArg (c :: ·) hmore, ?_, ?_⟩
      · simpa [hc] using hrun
      · rw [List.filter_cons_of_pos hc, hds]
    · cases h
  · cases h

theorem takesFront_digits {p : Char → Bool} (hp : p '_' = false) : TakesFront (digits p) := by
  intro cs ds rest h
  obtain ⟨run, rfl, -, -⟩ := exists_run_of_digits hp h
  exact List.suffix_append run rest

theorem takesFront_decimalDigits : TakesFront (digits Char.isDigit) :=
  takesFront_digits (by decide)

theorem takesFront_basedInteger {base : Nat} (hbase : isDigitOf base '_' = false) :
    TakesFront (basedInteger base) :=
  fun _ _ _ h => (takesFront_digits hbase).of_map h fun _ => rfl

/-- The whole part of a number is a run of digits, with underscores between them. -/
theorem exists_run_of_wholePart {ds : List Char} (h : wholePart cs = some (ds, rest)) :
    ∃ run, cs = run ++ rest ∧ (∀ c ∈ run, c.isDigit = true ∨ c = '_') ∧
      run.filter Char.isDigit = ds := by
  unfold wholePart at h
  split at h
  · cases h
    exact ⟨['0'], rfl, List.forall_mem_singleton.2 (.inl (by decide)), by decide⟩
  · exact exists_run_of_digits (by decide) h

theorem takesFront_wholePart : TakesFront wholePart := by
  intro cs ds rest h
  obtain ⟨run, rfl, -, -⟩ := exists_run_of_wholePart h
  exact List.suffix_append run rest

theorem fraction_suffix (cs : List Char) : (fraction cs).2 <:+ cs := by
  unfold fraction
  split
  · split
    · next hds => exact (takesFront_decimalDigits hds).trans (List.suffix_cons _ _)
    · exact List.suffix_rfl
  · exact List.suffix_rfl

theorem takesFront_signedDigits : TakesFront signedDigits := by
  intro cs n rest h
  unfold signedDigits at h
  split at h
  case h_1 | h_2 =>
    exact (takesFront_decimalDigits.of_map h fun _ => rfl).trans (List.suffix_cons _ _)
  case h_3 => exact takesFront_decimalDigits.of_map h fun _ => rfl

theorem exponent_suffix (cs : List Char) : (exponent cs).2 <:+ cs := by
  unfold exponent
  split
  · split
    · split
      · next hn => exact (takesFront_signedDigits hn).trans (List.suffix_cons _ _)
      · exact List.suffix_rfl
    · exact List.suffix_rfl
  · exact List.suffix_rfl

theorem takesFront_decimalNumber (negative : Bool) : TakesFront (decimalNumber negative) := by
  intro cs n rest h
  obtain ⟨⟨whole, final⟩, hwhole, h⟩ := Option.bind_eq_some_iff.1 h
  cases h
  exact (exponent_suffix _).trans ((fraction_suffix _).trans (takesFront_wholePart hwhole))

theorem takesFront_specialNumber (negative : Bool) : TakesFront (specialNumber negative) := by
  intro cs n rest h
  unfold specialNumber at h
  split at h
  · next hname =>
    cases h
    exact suffix_of_after? hname
  · next hname _ =>
    cases h
    exact suffix_of_after? hname
  · cases h

/-- One reader where another takes nothing. -/
theorem TakesFront.orElse {first second : List Char → Option (α × List Char)}
    (hfirst : TakesFront first) (hsecond : TakesFront second) :
    TakesFront fun cs => first cs <|> second cs := by
  intro cs a rest h
  dsimp only at h
  cases htaken : first cs with
  | some taken =>
    rw [htaken] at h
    cases h
    exact hfirst htaken
  | none =>
    rw [htaken] at h
    exact hsecond h

theorem takesFront_unsignedNumber (negative : Bool) : TakesFront (unsignedNumber negative) :=
  (takesFront_decimalNumber negative).orElse (takesFront_specialNumber negative)

theorem takesFront_prefixedNumber : TakesFront prefixedNumber := by
  intro cs n rest h
  unfold prefixedNumber at h
  split at h
  · exact (takesFront_basedInteger (by decide) h).trans ⟨['0', 'x'], rfl⟩
  · exact (takesFront_basedInteger (by decide) h).trans ⟨['0', 'o'], rfl⟩
  · exact (takesFront_basedInteger (by decide) h).trans ⟨['0', 'b'], rfl⟩
  · cases h

theorem takesFront_number : TakesFront number := by
  intro cs n rest h
  unfold number at h
  split at h
  case h_1 | h_2 => exact (takesFront_unsignedNumber _ h).trans (List.suffix_cons _ _)
  case h_3 => exact (takesFront_prefixedNumber.orElse (takesFront_unsignedNumber false)) h

theorem unsigned_suffix (cs : List Char) : unsigned cs <:+ cs := by
  unfold unsigned
  split
  case h_1 | h_2 => exact List.suffix_cons _ _
  case h_3 => exact List.suffix_rfl

/-! ## Moments -/

theorem eq_drop_of_fixedDigits {count n : Nat} (h : fixedDigits count cs = some (n, rest)) :
    rest = cs.drop count := by
  unfold fixedDigits at h
  dsimp only at h
  split at h
  · cases h
    rfl
  · cases h

theorem takesFront_fixedDigits (count : Nat) : TakesFront (fixedDigits count) :=
  fun _ _ _ h => eq_drop_of_fixedDigits h ▸ List.drop_suffix _ _

theorem eq_drop_of_twoDigits {low high n : Nat} (h : twoDigits low high cs = some (n, rest)) :
    rest = cs.drop 2 := by
  obtain ⟨⟨m, final⟩, hm, h⟩ := Option.bind_eq_some_iff.1 h
  dsimp only at h
  split at h
  · cases h
    exact eq_drop_of_fixedDigits hm
  · cases h

theorem takesFront_twoDigits (low high : Nat) : TakesFront (twoDigits low high) :=
  fun _ _ _ h => eq_drop_of_twoDigits h ▸ List.drop_suffix _ _

theorem suffix_of_afterClock (h : afterClock cs = some rest) : rest <:+ cs := by
  unfold afterClock at h
  obtain ⟨⟨hour, cs₁⟩, h₁, h⟩ := Option.bind_eq_some_iff.1 h
  obtain ⟨cs₂, h₂, h⟩ := Option.bind_eq_some_iff.1 h
  obtain ⟨⟨minute, cs₃⟩, h₃, h⟩ := Option.bind_eq_some_iff.1 h
  obtain ⟨cs₄, h₄, h⟩ := Option.bind_eq_some_iff.1 h
  obtain ⟨⟨second, cs₅⟩, h₅, h⟩ := Option.bind_eq_some_iff.1 h
  have hclock : cs₅ <:+ cs :=
    (takesFront_twoDigits _ _ h₅).trans <| (suffix_of_after? h₄).trans <|
      (takesFront_twoDigits _ _ h₃).trans <| (suffix_of_after? h₂).trans <|
        takesFront_twoDigits _ _ h₁
  refine List.IsSuffix.trans ?_ hclock
  dsimp only at h
  split at h
  · split at h
    · cases h
      exact List.suffix_rfl
    · cases h
      exact (List.dropWhile_suffix _).trans (List.suffix_cons _ _)
  · cases h
    exact List.suffix_rfl

theorem afterOffset_suffix (cs : List Char) : afterOffset cs <:+ cs := by
  unfold afterOffset
  split
  · next c more =>
    split
    · exact List.suffix_cons c more
    split
    · unfold Option.getD
      split
      · next final h =>
        obtain ⟨⟨hour, cs₁⟩, h₁, h⟩ := Option.bind_eq_some_iff.1 h
        obtain ⟨cs₂, h₂, h⟩ := Option.bind_eq_some_iff.1 h
        obtain ⟨⟨minute, cs₃⟩, h₃, h⟩ := Option.bind_eq_some_iff.1 h
        cases h
        exact (takesFront_twoDigits _ _ h₃).trans <| (suffix_of_after? h₂).trans <|
          (takesFront_twoDigits _ _ h₁).trans <| List.suffix_cons c more
      · exact List.suffix_rfl
    · exact List.suffix_rfl
  · exact List.suffix_rfl

theorem afterTime_suffix (cs : List Char) : afterTime cs <:+ cs := by
  unfold afterTime
  split
  · next c more =>
    split
    · cases hclock : afterClock more with
      | none => exact List.suffix_rfl
      | some final =>
        exact (afterOffset_suffix final).trans <|
          (suffix_of_afterClock hclock).trans <| List.suffix_cons c more
    · exact List.suffix_rfl
  · exact List.suffix_rfl

theorem takesFront_date : TakesFront date := by
  intro cs day rest h
  obtain ⟨⟨year, cs₁⟩, h₁, h⟩ := Option.bind_eq_some_iff.1 h
  obtain ⟨cs₂, h₂, h⟩ := Option.bind_eq_some_iff.1 h
  obtain ⟨⟨month, cs₃⟩, h₃, h⟩ := Option.bind_eq_some_iff.1 h
  obtain ⟨cs₄, h₄, h⟩ := Option.bind_eq_some_iff.1 h
  obtain ⟨⟨d, cs₅⟩, h₅, h⟩ := Option.bind_eq_some_iff.1 h
  cases h
  exact (takesFront_twoDigits _ _ h₅).trans <| (suffix_of_after? h₄).trans <|
    (takesFront_twoDigits _ _ h₃).trans <| (suffix_of_after? h₂).trans <|
      takesFront_fixedDigits 4 h₁

end Runbook.Toml
