import Runbook.Proofs.Toml.Front

/-!
# `Proofs/Toml/Overlong` — which integers are too long to be read

A reader may refuse a text as malformed, or because of a decimal integer that has too many digits.
It does the latter for no other reason: a long run of digits stands in the text then (`HasLongRun`).
There is one lemma per reader (`Explains`), and the readers that call each other in a circle share an
induction on their fuel.

Not every long run is met by a reader, since it may stand in a comment or in a string, or be the
fraction of a number. But a text whose first line is a field with such an integer is always refused
for it, whatever comes after that line (`read_longField`).
-/

set_option autoImplicit false

namespace Runbook.Toml

open Runbook.Text

variable {α : Type} {cs rest : List Char}

/-! ## Long runs -/

/-- Digits, with underscores between them. -/
def IsRun (cs : List Char) : Prop := ∀ c ∈ cs, c.isDigit = true ∨ c = '_'

/-- A text has a run of more digits than an integer may have. -/
def HasLongRun (cs : List Char) : Prop :=
  ∃ front run back, cs = front ++ (run ++ back) ∧ IsRun run ∧
    maxDigits < (run.filter Char.isDigit).length

theorem HasLongRun.of_suffix (h : HasLongRun rest) (hrest : rest <:+ cs) : HasLongRun cs := by
  obtain ⟨lead, rfl⟩ := hrest
  obtain ⟨front, run, back, rfl, hrun, hlong⟩ := h
  exact ⟨lead ++ front, run, back, (List.append_assoc ..).symm, hrun, hlong⟩

theorem hasLongRun_of_isOverlong (h : isOverlong cs = true) : HasLongRun cs := by
  unfold isOverlong at h
  split at h
  · next whole more hwhole =>
    obtain ⟨run, hsplit, hrun, rfl⟩ := exists_run_of_wholePart hwhole
    have hlong : maxDigits < (run.filter Char.isDigit).length := by
      simp only [Bool.and_eq_true, decide_eq_true_eq] at h
      exact h.1.1
    exact HasLongRun.of_suffix ⟨[], run, more, hsplit, hrun, hlong⟩ (unsigned_suffix cs)
  · cases h

/-! ## Scalars -/

/-- A text gives a reason to refuse it: if an integer was too long, a long run stands in it. -/
def Warrants (cs : List Char) : Refusal → Prop
  | .overlong => HasLongRun cs
  | .malformed => True

theorem Warrants.of_suffix {e : Refusal} (h : Warrants rest e) (hrest : rest <:+ cs) :
    Warrants cs e := by
  cases e with
  | overlong => exact HasLongRun.of_suffix h hrest
  | malformed => trivial

/-- A text explains what became of reading it: what is left is an end of it, and there is a reason to
refuse it if it was refused. -/
def Explains (cs : List Char) : Except Refusal (α × List Char) → Prop
  | .ok (_, rest) => rest <:+ cs
  | .error e => Warrants cs e

theorem Explains.of_suffix {read : Except Refusal (α × List Char)} (h : Explains rest read)
    (hrest : rest <:+ cs) : Explains cs read := by
  cases read with
  | ok taken => exact List.IsSuffix.trans h hrest
  | error e => exact Warrants.of_suffix h hrest

/-- Something that has to be there is never an integer that is too long. -/
theorem explains_required {found : Option (α × List Char)}
    (h : ∀ a rest, found = some (a, rest) → rest <:+ cs) : Explains cs (required found) := by
  cases found with
  | none => trivial
  | some taken => exact h taken.1 taken.2 rfl

theorem explains_numeric (cs : List Char) : Explains cs (numeric cs) := by
  unfold numeric
  split
  · next year month day more hdate =>
    refine explains_required fun d final h => ?_
    obtain ⟨date, -, hpair⟩ := Option.map_eq_some_iff.1 h
    cases hpair
    exact (afterTime_suffix more).trans (takesFront_date hdate)
  · split
    · next hclock => exact suffix_of_afterClock hclock
    · split
      · next hlong => exact hasLongRun_of_isOverlong hlong
      · exact explains_required fun d final h => takesFront_number.of_map h fun _ => rfl

theorem explains_scalar (cs : List Char) : Explains cs (scalar cs) := by
  unfold scalar
  split
  case h_1 | h_2 => exact explains_required fun d final h => takesFront_string.of_map h fun _ => rfl
  case h_3 =>
    split
    · next hname => exact suffix_of_after? hname
    · next hname => exact suffix_of_after? hname
    · exact explains_numeric cs

/-! ## Names -/

theorem takesFront_name : TakesFront name := by
  intro cs s rest h
  unfold name at h
  split at h
  case h_1 | h_2 => exact takesFront_shortString.of_map h fun _ => rfl
  case h_3 =>
    split at h
    · cases h
    · cases h
      exact List.dropWhile_suffix _

theorem takesFront_dotted (fuel : Nat) : TakesFront (dotted fuel) := by
  induction fuel with
  | zero =>
    intro cs place rest h
    cases h
  | succ fuel ih =>
    intro cs place rest h
    rw [dotted] at h
    split at h
    · cases h
    next first more hname =>
    split at h
    · next behind hpoint =>
      have hbehind : rest <:+ skipSpace behind := ih.of_map h fun _ => rfl
      exact hbehind.trans <| (skipSpace_suffix behind).trans <|
        (suffix_of_skipSpace_cons hpoint).trans <| takesFront_name hname
    · cases h
      exact (skipSpace_suffix more).trans (takesFront_name hname)

theorem takesFront_fieldName : TakesFront fieldName := by
  intro cs place rest h
  unfold fieldName at h
  split at h
  · next behind hname =>
    cases h
    exact (skipSpace_suffix behind).trans <| (List.suffix_cons _ _).trans <|
      takesFront_dotted _ hname
  · cases h

/-! ## Values -/

theorem suffix_of_skipLines {fuel : Nat} (h : skipLines fuel cs = some rest) : rest <:+ cs := by
  induction fuel generalizing cs with
  | zero =>
    cases h
    exact List.suffix_rfl
  | succ fuel ih =>
    have hblanks := List.dropWhile_suffix (l := cs) fun c => isSpace c || c == '\n'
    rw [skipLines] at h
    split at h
    · next more hcomment =>
      obtain ⟨behind, hbehind, h⟩ := Option.bind_eq_some_iff.1 h
      rw [hcomment] at hblanks
      exact (ih h).trans ((suffix_of_skipComment hbehind).trans hblanks)
    · cases h
      exact hblanks

theorem suffix_of_skipBetween (h : skipBetween cs = some rest) : rest <:+ cs :=
  suffix_of_skipLines h

section Round

/-! A round of the readers that call each other, given the rounds below it. -/

variable {fuel : Nat}

theorem explains_value_succ (hitems : ∀ found cs, Explains cs (items fuel found cs))
    (hfields : ∀ found sealed cs, Explains cs (fields fuel found sealed cs)) (cs : List Char) :
    Explains cs (value (fuel + 1) cs) := by
  unfold value
  split
  · next more =>
    split
    · next inner hinner =>
      exact (hitems [] inner).of_suffix
        ((suffix_of_skipBetween hinner).trans (List.suffix_cons _ more))
    · trivial
  · next more =>
    split
    · next final hfinal =>
      exact (suffix_of_skipSpace_cons hfinal).trans (List.suffix_cons _ more)
    · exact (hfields [] [] _).of_suffix ((skipSpace_suffix more).trans (List.suffix_cons _ more))
  · exact explains_scalar cs

theorem explains_items_succ (hvalue : ∀ cs, Explains cs (value fuel cs))
    (hitems : ∀ found cs, Explains cs (items fuel found cs)) (found : List Datum)
    (cs : List Char) : Explains cs (items (fuel + 1) found cs) := by
  have hfirst := hvalue cs
  unfold items
  split
  · trivial
  · exact List.suffix_cons _ _
  · next round hround _ =>
    cases hround
    split
    · next e he =>
      rw [he] at hfirst
      exact hfirst
    · next d behind hd =>
      rw [hd] at hfirst
      split
      · next final hfinal =>
        exact (List.suffix_cons _ final).trans ((suffix_of_skipBetween hfinal).trans hfirst)
      · next comma hcomma =>
        have hbehind := (suffix_of_skipBetween hcomma).trans hfirst
        split
        · next inner hinner =>
          refine (hitems _ inner).of_suffix ?_
          exact (suffix_of_skipBetween hinner).trans ((List.suffix_cons _ comma).trans hbehind)
        · trivial
      · trivial

theorem explains_fields_succ (hvalue : ∀ cs, Explains cs (value fuel cs))
    (hfields : ∀ found sealed cs, Explains cs (fields fuel found sealed cs)) (found : Fields)
    (sealed : List Place) (cs : List Char) :
    Explains cs (fields (fuel + 1) found sealed cs) := by
  unfold fields
  split
  · trivial
  next place behind hname =>
  have hname := takesFront_fieldName hname
  have hfirst := hvalue behind
  split
  · next e he =>
    rw [he] at hfirst
    exact Warrants.of_suffix hfirst hname
  next d more hd =>
  rw [hd] at hfirst
  split
  · trivial
  split
  · next final hfinal =>
    exact (suffix_of_skipSpace_cons hfinal).trans (List.IsSuffix.trans hfirst hname)
  · next comma hcomma =>
    refine (hfields _ _ _).of_suffix ?_
    exact (skipSpace_suffix comma).trans <| (suffix_of_skipSpace_cons hcomma).trans <|
      List.IsSuffix.trans hfirst hname
  · trivial

end Round

theorem explains_round (fuel : Nat) : (∀ cs, Explains cs (value fuel cs)) ∧
    (∀ found cs, Explains cs (items fuel found cs)) ∧
    ∀ found sealed cs, Explains cs (fields fuel found sealed cs) := by
  induction fuel with
  | zero =>
    refine ⟨fun cs => ?_, fun found cs => ?_, fun found sealed cs => ?_⟩
    · exact trivial
    · unfold items
      trivial
    · exact trivial
  | succ fuel ih =>
    obtain ⟨hvalue, hitems, hfields⟩ := ih
    exact ⟨explains_value_succ hitems hfields, explains_items_succ hvalue hitems,
      explains_fields_succ hvalue hfields⟩

theorem explains_value (fuel : Nat) (cs : List Char) : Explains cs (value fuel cs) :=
  (explains_round fuel).1 cs

/-! ## Documents -/

theorem suffix_of_heading {d d' : Draft} (h : heading d cs = some (d', rest)) : rest <:+ cs := by
  unfold heading at h
  split at h
  · next inner =>
    split at h
    · next place _ hname =>
      obtain ⟨e, -, hpair⟩ := Option.map_eq_some_iff.1 h
      cases hpair
      exact (List.suffix_append [']', ']'] rest).trans <| (takesFront_dotted _ hname).trans <|
        (skipSpace_suffix inner).trans <| List.suffix_cons _ inner
    · cases h
  · split at h
    · next place _ hname =>
      obtain ⟨e, -, hpair⟩ := Option.map_eq_some_iff.1 h
      cases hpair
      exact (List.suffix_cons _ rest).trans <| (takesFront_dotted _ hname).trans <|
        skipSpace_suffix cs
    · cases h

theorem explains_assignment (fuel : Nat) (d : Draft) (cs : List Char) :
    Explains cs (assignment fuel d cs) := by
  unfold assignment
  split
  · trivial
  next place behind hname =>
  have hname := takesFront_fieldName hname
  have hvalue := explains_value fuel behind
  split
  · next e he =>
    rw [he] at hvalue
    exact Warrants.of_suffix hvalue hname
  · next v more hv =>
    rw [hv] at hvalue
    refine explains_required fun d' final h => ?_
    obtain ⟨e, -, hpair⟩ := Option.map_eq_some_iff.1 h
    cases hpair
    exact List.IsSuffix.trans hvalue hname

theorem explains_statement (fuel : Nat) (d : Draft) (cs : List Char) :
    Explains cs (statement fuel d cs) := by
  unfold statement
  split
  · refine explains_required fun d' final h => ?_
    exact (suffix_of_heading h).trans (List.suffix_cons _ _)
  · exact List.suffix_rfl
  · exact explains_assignment fuel d cs

theorem hasLongRun_of_document {fuel : Nat} {d : Draft}
    (h : document fuel d cs = .error .overlong) : HasLongRun cs := by
  induction fuel generalizing d cs with
  | zero => cases h
  | succ fuel ih =>
    rw [document] at h
    split at h
    · cases h
    · next more hline => exact (ih h).of_suffix (suffix_of_skipSpace_cons hline)
    · refine HasLongRun.of_suffix ?_ (skipSpace_suffix cs)
      have hline := explains_statement fuel d (skipSpace cs)
      split at h
      · next e he =>
        cases h
        rw [he] at hline
        exact hline
      · next d' behind hd =>
        rw [hd] at hline
        split at h
        · cases h
        · next more hmore =>
          exact (ih h).of_suffix <| (List.suffix_cons _ more).trans <|
            (suffix_of_skipComment hmore).trans <| (skipSpace_suffix behind).trans hline
        · cases h

/-! ## Line ends -/

theorem exists_of_suffix_joinReturns (h : rest <:+ joinReturns cs) :
    ∃ tail, tail <:+ cs ∧ joinReturns tail = rest := by
  fun_induction joinReturns cs with
  | case1 more ih =>
    rcases List.suffix_cons_iff.1 h with rfl | h
    · exact ⟨_, List.suffix_rfl, by rw [joinReturns]⟩
    · obtain ⟨tail, htail, rfl⟩ := ih h
      exact ⟨tail, htail.trans (List.suffix_append ['\r', '\n'] more), rfl⟩
  | case2 c more hne ih =>
    rcases List.suffix_cons_iff.1 h with rfl | h
    · refine ⟨_, List.suffix_rfl, ?_⟩
      rw [joinReturns]
      exact hne
    · obtain ⟨tail, htail, rfl⟩ := ih h
      exact ⟨tail, htail.trans (List.suffix_cons c more), rfl⟩
  | case3 =>
    rw [List.suffix_nil.1 h]
    exact ⟨[], List.suffix_rfl, rfl⟩

/-- A run has no line ends. -/
theorem exists_of_joinReturns_eq_run {run back : List Char} (hrun : IsRun run)
    (h : joinReturns cs = run ++ back) : ∃ rest, cs = run ++ rest := by
  induction run generalizing cs with
  | nil => exact ⟨cs, rfl⟩
  | cons c run ih =>
    have hmore : IsRun run := fun d hd => hrun d (List.mem_cons_of_mem c hd)
    unfold joinReturns at h
    split at h
    · obtain ⟨rfl, -⟩ := List.cons.inj h
      exact absurd (hrun _ List.mem_cons_self) (by decide)
    · obtain ⟨rfl, hjoin⟩ := List.cons.inj h
      obtain ⟨rest, rfl⟩ := ih hmore hjoin
      exact ⟨rest, rfl⟩
    · cases h

theorem HasLongRun.of_joinReturns (h : HasLongRun (joinReturns cs)) : HasLongRun cs := by
  obtain ⟨front, run, back, hsplit, hrun, hlong⟩ := h
  obtain ⟨tail, htail, hjoin⟩ := exists_of_suffix_joinReturns ⟨front, hsplit.symm⟩
  obtain ⟨rest, rfl⟩ := exists_of_joinReturns_eq_run hrun hjoin
  exact HasLongRun.of_suffix ⟨[], run, rest, rfl, hrun, hlong⟩ htail

/-- **Only a long run of digits keeps a text from being gone through.** -/
theorem hasLongRun_of_read (h : read cs = .error .overlong) : HasLongRun cs := by
  refine HasLongRun.of_joinReturns ?_
  unfold read at h
  dsimp only at h
  cases hread : document ((joinReturns cs).length + 1) {} (joinReturns cs) with
  | ok fields =>
    rw [hread] at h
    cases h
  | error e =>
    rw [hread] at h
    cases h
    exact hasLongRun_of_document hread

/-! ## Fields that are always refused -/

/-- A text that does not go on with a number. -/
def Stops (cs : List Char) : Prop :=
  ∀ c ∈ cs.head?, c.isDigit = false ∧ c ≠ '_' ∧ c ≠ '.' ∧ c ≠ 'e' ∧ c ≠ 'E'

/-- Digits of an integer that has too many of them. -/
structure TooLong (ds : List Char) : Prop where
  isDigit : ∀ c ∈ ds, c.isDigit = true
  head?_ne : ds.head? ≠ some '0'
  lt_length : maxDigits < ds.length

theorem moreDigits_append {ds : List Char} (hds : ∀ c ∈ ds, c.isDigit = true) (hrest : Stops rest) :
    moreDigits Char.isDigit (ds ++ rest) = (ds, rest) := by
  induction ds with
  | nil =>
    cases rest with
    | nil => rfl
    | cons c more =>
      obtain ⟨hc, hscore, -⟩ := hrest c rfl
      rw [List.nil_append, moreDigits, if_neg (by simp [hc])]
      exact fun _ _ h _ => hscore h
  | cons d ds ih =>
    have hd := hds d List.mem_cons_self
    have hmore := ih fun c hc => hds c (List.mem_cons_of_mem d hc)
    rw [List.cons_append, moreDigits, if_pos hd, hmore]
    rintro c more rfl
    exact absurd hd (by decide)

theorem after?_of_isDigit {c d : Char} (hc : c.isDigit = false) (hd : d.isDigit = true)
    (lead : List Char) : after? (c :: lead) (d :: rest) = none := by
  rw [after?, if_neg]
  rintro rfl
  rw [hc] at hd
  cases hd

theorem fraction_of_stops (h : Stops rest) : fraction rest = (none, rest) := by
  unfold fraction
  split
  · exact absurd rfl (h '.' rfl).2.2.1
  · rfl

theorem exponent_of_stops (h : Stops rest) : exponent rest = (none, rest) := by
  unfold exponent
  split
  · next c more =>
    obtain ⟨-, -, -, hlower, hupper⟩ := h c rfl
    rw [if_neg]
    rintro (rfl | rfl)
    · exact hlower rfl
    · exact hupper rfl
  · rfl

namespace TooLong

variable {ds : List Char}

theorem exists_cons (h : TooLong ds) : ∃ a b c d e more, ds = a :: b :: c :: d :: e :: more := by
  have hlength := h.lt_length
  unfold maxDigits at hlength
  match ds, hlength with
  | a :: b :: c :: d :: e :: more, _ => exact ⟨a, b, c, d, e, more, rfl⟩

theorem ne_cons (h : TooLong ds) {c : Char} (hc : c.isDigit = false) (tail : List Char) :
    ds ++ rest ≠ c :: tail := by
  obtain ⟨a, b, c, d, e, more, rfl⟩ := h.exists_cons
  intro heq
  obtain ⟨rfl, -⟩ := List.cons.inj heq
  rw [h.isDigit a List.mem_cons_self] at hc
  cases hc

theorem isOverlong_append (h : TooLong ds) (hrest : Stops rest) :
    isOverlong (ds ++ rest) = true := by
  obtain ⟨a, b, c, d, e, more, hds⟩ := h.exists_cons
  have ha : a.isDigit = true := h.isDigit a (hds ▸ List.mem_cons_self)
  have hunsigned : unsigned (ds ++ rest) = ds ++ rest := by
    unfold unsigned
    split
    · next heq => exact absurd heq (h.ne_cons (by decide) _)
    · next heq => exact absurd heq (h.ne_cons (by decide) _)
    · rfl
  have hwhole : wholePart (ds ++ rest) = some (ds, rest) := by
    have hdigits : digits Char.isDigit (ds ++ rest) = some (ds, rest) := by
      have hmore := moreDigits_append (fun c hc => h.isDigit c (List.mem_of_mem_tail hc)) hrest
      rw [hds] at hmore ⊢
      rw [List.cons_append, digits, if_pos ha]
      rw [List.tail_cons] at hmore
      rw [hmore]
    unfold wholePart
    split
    · next heq =>
      rw [hds] at heq
      obtain ⟨rfl, -⟩ := List.cons.inj heq
      exact absurd (by rw [hds]; rfl) h.head?_ne
    · exact hdigits
  unfold isOverlong
  rw [hunsigned, hwhole]
  dsimp only
  rw [fraction_of_stops hrest]
  dsimp only
  rw [exponent_of_stops hrest]
  simp [h.lt_length]

/-- Neither a date nor a time of day begins with so many digits. -/
theorem numeric_append (h : TooLong ds) (hrest : Stops rest) :
    numeric (ds ++ rest) = .error .overlong := by
  obtain ⟨a, b, c, d, e, more, hds⟩ := h.exists_cons
  have hc : c.isDigit = true := h.isDigit c (by simp [hds])
  have he : e.isDigit = true := h.isDigit e (by simp [hds])
  have hdate : date (ds ++ rest) = none := by
    unfold date
    cases hyear : fixedDigits 4 (ds ++ rest) with
    | none => rfl
    | some year =>
      obtain ⟨n, final⟩ := year
      have hfinal : final = e :: (more ++ rest) := by
        rw [eq_drop_of_fixedDigits hyear, hds]
        rfl
      have hdash : after? ['-'] final = none :=
        hfinal ▸ after?_of_isDigit (by decide) he []
      exact congrArg (Option.bind · _) hdash
  have hclock : afterClock (ds ++ rest) = none := by
    unfold afterClock
    cases hhour : twoDigits 0 23 (ds ++ rest) with
    | none => rfl
    | some hour =>
      obtain ⟨n, final⟩ := hour
      have hfinal : final = c :: d :: e :: (more ++ rest) := by
        rw [eq_drop_of_twoDigits hhour, hds]
        rfl
      have hcolon : after? [':'] final = none :=
        hfinal ▸ after?_of_isDigit (by decide) hc []
      exact congrArg (Option.bind · _) hcolon
  unfold numeric
  rw [hdate, hclock]
  dsimp only
  rw [if_pos (h.isOverlong_append hrest)]

theorem value_append (h : TooLong ds) (hrest : Stops rest) (fuel : Nat) :
    value (fuel + 1) (ds ++ rest) = .error .overlong := by
  obtain ⟨a, b, c, d, e, more, hds⟩ := h.exists_cons
  have ha : a.isDigit = true := h.isDigit a (by simp [hds])
  have hname : ∀ {x : Char} {lead : List Char}, x.isDigit = false →
      after? (x :: lead) (ds ++ rest) = none := by
    intro x lead hx
    rw [hds]
    exact after?_of_isDigit hx ha lead
  unfold value
  split
  · next heq => exact absurd heq (h.ne_cons (by decide) _)
  · next heq => exact absurd heq (h.ne_cons (by decide) _)
  unfold scalar
  split
  · next heq => exact absurd heq (h.ne_cons (by decide) _)
  · next heq => exact absurd heq (h.ne_cons (by decide) _)
  have htrue : after? "true".toList (ds ++ rest) = none := hname (x := 't') (by decide)
  have hfalse : after? "false".toList (ds ++ rest) = none := hname (x := 'f') (by decide)
  rw [htrue, hfalse]
  exact h.numeric_append hrest

end TooLong

/-- A name without quotes. -/
structure IsBareName (key : List Char) : Prop where
  ne_nil : key ≠ []
  isBare : ∀ c ∈ key, Toml.isBare c = true

theorem fieldName_append {key back : List Char} (hkey : IsBareName key)
    (hback : skipSpace back = back) :
    fieldName (key ++ (" = ".toList ++ back)) = some ([String.ofList key], back) := by
  obtain ⟨c, more, rfl⟩ := List.exists_cons_of_ne_nil hkey.ne_nil
  have hc : Toml.isBare c = true := hkey.isBare c List.mem_cons_self
  have hname : name (c :: more ++ (" = ".toList ++ back)) =
      some (String.ofList (c :: more), " = ".toList ++ back) := by
    have htake : (c :: more ++ (" = ".toList ++ back)).takeWhile Toml.isBare = c :: more := by
      rw [List.takeWhile_append_of_pos hkey.isBare]
      exact List.append_nil _
    have hdrop : (c :: more ++ (" = ".toList ++ back)).dropWhile Toml.isBare =
        " = ".toList ++ back := by
      rw [List.dropWhile_append_of_pos hkey.isBare]
      rfl
    unfold name
    split
    case h_1 | h_2 =>
      next heq =>
      obtain ⟨rfl, -⟩ := List.cons.inj heq
      exact absurd hc (by decide)
    case h_3 =>
      rw [htake, hdrop]
      rfl
  have hdotted : dottedName (c :: more ++ (" = ".toList ++ back)) =
      some ([String.ofList (c :: more)], '=' :: ' ' :: back) := by
    unfold dottedName dotted
    rw [hname]
    rfl
  unfold fieldName
  rw [hdotted]
  exact congrArg (fun final => some ([String.ofList (c :: more)], final)) hback

theorem joinReturns_append {front : List Char} (h : '\r' ∉ front) (back : List Char) :
    joinReturns (front ++ back) = front ++ joinReturns back := by
  induction front with
  | nil => rfl
  | cons c front ih =>
    obtain ⟨hc, hfront⟩ := not_or.1 (mt List.mem_cons.2 h)
    rw [List.cons_append, joinReturns, ih hfront]
    · rfl
    · exact fun _ hcr _ => hc hcr.symm

theorem Stops.joinReturns (h : Stops rest) : Stops (joinReturns rest) := by
  unfold Toml.joinReturns
  split
  · rintro c ⟨⟩
    decide
  · exact h
  · exact h

/-- What is of a kind that blanks are not of is no blank. -/
theorem isSpace_eq_false {p : Char → Bool} {c : Char} (hc : p c = true) (hspace : p ' ' = false)
    (htab : p '\t' = false) : isSpace c = false := by
  cases hblank : isSpace c with
  | false => rfl
  | true =>
    unfold isSpace at hblank
    rcases Bool.or_eq_true_iff.1 hblank with hblank | hblank
    · rw [beq_iff_eq.1 hblank, hspace] at hc
      cases hc
    · rw [beq_iff_eq.1 hblank, htab] at hc
      cases hc

theorem skipSpace_cons {c : Char} (h : isSpace c = false) (more : List Char) :
    skipSpace (c :: more) = c :: more := List.dropWhile_cons_of_neg (by simp [h])

/-- A document that begins with a bare name begins with a field. -/
theorem document_of_assignment {fuel : Nat} {d : Draft} {c : Char} {more : List Char} {e : Refusal}
    (hc : isBare c = true) (h : assignment fuel d (c :: more) = .error e) :
    document (fuel + 1) d (c :: more) = .error e := by
  have hne : ∀ {x : Char} {tail : List Char}, isBare x = false → c :: more ≠ x :: tail := by
    intro x tail hx heq
    obtain ⟨rfl, -⟩ := List.cons.inj heq
    rw [hc] at hx
    cases hx
  have hspace : isSpace c = false := isSpace_eq_false hc (by decide) (by decide)
  have hstatement : statement fuel d (c :: more) = .error e := by
    unfold statement
    split
    · next heq => exact absurd heq (hne (by decide))
    · next heq => exact absurd heq (hne (by decide))
    · exact h
  rw [document, skipSpace_cons hspace]
  split
  · next heq => cases heq
  · next heq => exact absurd heq (hne (by decide))
  · rw [hstatement]

/-- **A first line that is a field with an integer too long is always refused for it**, whatever comes
after it. -/
theorem read_longField {key ds : List Char} (hkey : IsBareName key) (hds : TooLong ds)
    (hrest : Stops rest) :
    read (key ++ (" = ".toList ++ (ds ++ rest))) = .error .overlong := by
  have hreturns : '\r' ∉ key ++ (" = ".toList ++ ds) := by
    simp only [List.mem_append, not_or]
    refine ⟨fun hmem => ?_, by decide, fun hmem => ?_⟩
    · exact absurd (hkey.isBare _ hmem) (by decide)
    · exact absurd (hds.isDigit _ hmem) (by decide)
  have hjoin : joinReturns (key ++ (" = ".toList ++ (ds ++ rest))) =
      key ++ (" = ".toList ++ (ds ++ joinReturns rest)) := by
    have happend := joinReturns_append hreturns rest
    simpa only [List.append_assoc] using happend
  have hspace : skipSpace (ds ++ joinReturns rest) = ds ++ joinReturns rest := by
    obtain ⟨a, b, c, d, e, more, rfl⟩ := hds.exists_cons
    have ha : a.isDigit = true := hds.isDigit a List.mem_cons_self
    exact skipSpace_cons (isSpace_eq_false ha (by decide) (by decide)) _
  have hassignment : ∀ fuel, assignment (fuel + 1) {}
      (key ++ (" = ".toList ++ (ds ++ joinReturns rest))) = .error .overlong := by
    intro fuel
    unfold assignment
    rw [fieldName_append hkey hspace]
    dsimp only
    rw [hds.value_append hrest.joinReturns fuel]
  obtain ⟨c, more, rfl⟩ := List.exists_cons_of_ne_nil hkey.ne_nil
  have hc : isBare c = true := hkey.isBare c List.mem_cons_self
  have hdocument := fun fuel => document_of_assignment hc (hassignment fuel)
  unfold read
  dsimp only
  rw [hjoin]
  exact congrArg (Except.map Datum.record) (hdocument _)

end Runbook.Toml
