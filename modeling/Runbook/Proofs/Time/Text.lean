import Runbook.Proofs.Text.Numeral
import Runbook.Time.Text

/-!
# `Proofs/Time/Text` — timestamps that were written are read back

The reader takes a count of seconds first and a date second. A written date is four digits and a
hyphen, which no count of seconds is, so it is always read as a date. Of each part the writer has
one form, and each form is followed by something that the part cannot go on with: a separator, the
offset, or the end. The fraction is left out where it is zero and has six digits otherwise, and an
offset is left out, `Z`, or a sign with hours and minutes.
-/

set_option autoImplicit false

namespace Runbook.Time

open Runbook.Text

/-! ## Numbers of a fixed width -/

theorem twoDigits_padded {n : Nat} (h : n < 100) (rest : List Char) :
    twoDigits (padded 2 n ++ rest) = some (n, rest) := by
  have hlen := length_padded 2 (by decide) h
  have hdigit : ∀ c ∈ padded 2 n, c.isDigit = true := fun _ => isDigit_of_mem_padded
  have hvalue := ofDecimal_padded 2 n
  match hcs : padded 2 n, hlen with
  | [a, b], _ =>
    rw [hcs] at hdigit hvalue
    simp only [List.cons_append, List.nil_append, twoDigits, hdigit a (by simp),
      hdigit b (by simp), Bool.and_self, if_true, hvalue]

/-- A year is read as a century and a year in it. -/
theorem centuries_padded {n : Nat} (h : n < 10000) (rest : List Char) :
    ∃ century year more, twoDigits (padded 4 n ++ rest) = some (century, more) ∧
      twoDigits more = some (year, rest) ∧ century * 100 + year = n := by
  have hlen := length_padded 4 (by decide) h
  have hdigit : ∀ c ∈ padded 4 n, c.isDigit = true := fun _ => isDigit_of_mem_padded
  have hvalue := ofDecimal_padded 4 n
  match hcs : padded 4 n, hlen with
  | [a, b, c, d], _ =>
    rw [hcs] at hdigit hvalue
    refine ⟨ofDecimal [a, b], ofDecimal [c, d], c :: d :: rest, ?_, ?_, ?_⟩
    · simp [twoDigits, hdigit a (by simp), hdigit b (by simp)]
    · simp [twoDigits, hdigit c (by simp), hdigit d (by simp)]
    · simp only [ofDecimal, List.foldl_cons, List.foldl_nil] at hvalue ⊢
      omega

theorem after?_cons_self (c : Char) (rest : List Char) : after? [c] (c :: rest) = some rest :=
  after?_eq_some_iff.2 rfl

/-! ## Dates -/

theorem Date.day_lt (d : Date) : d.month < 100 ∧ d.day < 100 := by
  obtain ⟨-, hmonth, -, hday⟩ := d.onCalendar
  have hdays : daysIn d.year d.month ≤ 31 := by
    unfold daysIn
    split
    · split <;> omega
    · split <;> omega
  omega

theorem readDate_render (d : Date) (rest : List Char) :
    readDate (d.render ++ rest) = some ((d.year, d.month, d.day), rest) := by
  obtain ⟨hmonth, hday⟩ := d.day_lt
  have hyear : d.year < 10000 := Nat.lt_succ_of_le d.year_mem.2
  obtain ⟨century, year, more, hcentury, hmore, hvalue⟩ := centuries_padded hyear
    ('-' :: (padded 2 d.month ++ '-' :: (padded 2 d.day ++ rest)))
  have hrender : d.render ++ rest =
      padded 4 d.year ++ '-' :: (padded 2 d.month ++ '-' :: (padded 2 d.day ++ rest)) := by
    simp only [Date.render, List.append_assoc, List.cons_append]
  rw [hrender, readDate, hcentury]
  simp only [Option.bind_eq_bind, Option.bind_some, hmore, after?_cons_self,
    twoDigits_padded hmonth, twoDigits_padded hday, hvalue]
  rfl

/-! ## Times of day -/

/-- What may follow a time of day: nothing that goes on with its fraction. -/
def EndsClock (rest : List Char) : Prop :=
  ∀ c ∈ rest.head?, c.isDigit = false ∧ c ≠ '.' ∧ c ≠ ','

theorem readFraction_of_endsClock {rest : List Char} (h : EndsClock rest) :
    readFraction rest = some (0, rest) := by
  cases rest with
  | nil => rfl
  | cons c rest =>
    obtain ⟨-, hpoint, hcomma⟩ := h c rfl
    rw [readFraction, if_neg (not_or.2 ⟨hpoint, hcomma⟩)]

theorem readFraction_padded {micro : Nat} (hmicro : micro < 1000000) {rest : List Char}
    (h : EndsClock rest) : readFraction ('.' :: (padded 6 micro ++ rest)) = some (micro, rest) := by
  have hlen := length_padded 6 (by decide) hmicro
  have hall : ∀ c ∈ padded 6 micro, c.isDigit = true := fun _ => isDigit_of_mem_padded
  have hend : ∀ c ∈ rest.head?, c.isDigit = false := fun c hc => (h c hc).1
  have hne : (padded 6 micro).isEmpty = false := by
    cases hcs : padded 6 micro with
    | nil => simp [hcs] at hlen
    | cons c cs => rfl
  have hvalue : microsOf (padded 6 micro) = micro := by
    rw [microsOf, List.take_of_length_le (by omega), hlen, ofDecimal_padded]
    exact Nat.mul_one micro
  rw [readFraction, if_pos (.inl rfl)]
  dsimp only
  rw [takeWhile_digits hall hend, dropWhile_digits hall hend, hne, hvalue]
  rfl

/-- The fraction of a second in writing, if there is one. -/
theorem readFraction_render {micro : Nat} (hmicro : micro < 1000000) {rest : List Char}
    (h : EndsClock rest) :
    readFraction ((if micro = 0 then [] else '.' :: padded 6 micro) ++ rest) =
      some (micro, rest) := by
  split
  · next hzero =>
    rw [List.nil_append, readFraction_of_endsClock h, hzero]
  · rw [List.cons_append, readFraction_padded hmicro h]

theorem readClock_render (c : Clock) {rest : List Char} (h : EndsClock rest) :
    readClock (c.render ++ rest) = some (c, rest) := by
  have hrender : c.render ++ rest =
      padded 2 c.hour ++ ':' :: (padded 2 c.minute ++ ':' :: (padded 2 c.second ++
        ((if c.micro = 0 then [] else '.' :: padded 6 c.micro) ++ rest))) := by
    simp only [Clock.render, List.append_assoc, List.cons_append]
  rw [hrender, readClock, twoDigits_padded (Nat.lt_trans c.hour_lt (by decide))]
  simp only [Option.bind_eq_bind, Option.bind_some, Option.pure_def, after?_cons_self,
    twoDigits_padded (Nat.lt_trans c.minute_lt (by decide)), readSeconds,
    twoDigits_padded (Nat.lt_trans c.second_lt (by decide)), readFraction_render c.micro_lt h,
    Clock.of?_self]

/-! ## Offsets -/

theorem readOffsetMinutes_padded {minutes : Nat} (h : minutes < 1440) :
    readOffsetMinutes (padded 2 (minutes / 60) ++ ':' :: padded 2 (minutes % 60)) =
      some minutes := by
  have hhours : minutes / 60 < 100 := by omega
  have hminutes : minutes % 60 < 100 := by omega
  have hlast := twoDigits_padded hminutes []
  rw [List.append_nil] at hlast
  rw [readOffsetMinutes, twoDigits_padded hhours]
  simp only [Option.bind_eq_bind, Option.bind_some, after?_cons_self, Option.getD_some, hlast]
  rw [if_pos (by simp; omega)]
  congr 1
  omega

/-- The text of an offset that may be missing. -/
def renderOffset : Option Offset → List Char
  | some o => o.render "Z"
  | none => []

theorem readOffset_renderOffset (offset : Option Offset) :
    readOffset (renderOffset offset) = some offset := by
  cases offset with
  | none => rfl
  | some o =>
    have hlt := o.lt_day
    show readOffset (o.render "Z") = some (some o)
    unfold Offset.render
    split
    · next hzero =>
      obtain ⟨minutes, hday⟩ := o
      obtain rfl : minutes = 0 := hzero
      rfl
    · next hne =>
      split
      · next hneg =>
        have habs : -(o.minutes.natAbs : Int) = o.minutes := by omega
        rw [List.cons_append, readOffset, if_neg (by decide), if_neg (by decide),
          if_pos (.inl rfl), readOffsetMinutes_padded hlt]
        simp only [Option.bind_eq_bind, Option.bind_some, habs, Offset.of?_self]
        rfl
      · next hpos =>
        have habs : (o.minutes.natAbs : Int) = o.minutes := by omega
        rw [List.cons_append, readOffset, if_neg (by decide), if_pos rfl,
          readOffsetMinutes_padded hlt]
        simp only [Option.bind_eq_bind, Option.bind_some, habs, Offset.of?_self]
        rfl

theorem endsClock_renderOffset (offset : Option Offset) : EndsClock (renderOffset offset) := by
  intro c hc
  cases offset with
  | none => cases hc
  | some o =>
    replace hc : c ∈ (o.render "Z").head? := hc
    unfold Offset.render at hc
    split at hc
    · obtain rfl : 'Z' = c := Option.some.inj hc
      decide
    · split at hc
      · obtain rfl : '-' = c := Option.some.inj hc
        decide
      · obtain rfl : '+' = c := Option.some.inj hc
        decide

/-! ## Timestamps -/

theorem toList_stored (t : Timestamp) :
    t.stored.toList = t.date.render ++ 'T' :: (t.clock.render ++ renderOffset t.offset) := by
  have happend (cs : List Char) : t.date.render ++ 'T' :: t.clock.render ++ cs =
      t.date.render ++ 'T' :: (t.clock.render ++ cs) := by
    rw [List.append_assoc, List.cons_append]
  unfold Timestamp.stored Timestamp.renderWith
  rw [String.toList_ofList]
  exact happend (renderOffset t.offset)

/-- A date is no count of seconds: its year ends at a hyphen. -/
theorem readCount?_render (d : Date) (rest : List Char) : readCount? (d.render ++ rest) = none := by
  have hlen := length_padded 4 (by decide) (Nat.lt_succ_of_le d.year_mem.2)
  have hall : ∀ c ∈ padded 4 d.year, c.isDigit = true := fun _ => isDigit_of_mem_padded
  obtain ⟨more, hrender⟩ : ∃ more, d.render ++ rest = padded 4 d.year ++ '-' :: more :=
    ⟨_, by simp only [Date.render, List.append_assoc, List.cons_append]; rfl⟩
  have hend : ∀ c ∈ ('-' :: more).head?, c.isDigit = false := by
    intro c hc
    obtain rfl : '-' = c := Option.some.inj hc
    rfl
  have hcount : readUnsignedCount? false (padded 4 d.year ++ '-' :: more) = none := by
    unfold readUnsignedCount?
    dsimp only
    rw [takeWhile_digits hall hend, dropWhile_digits hall hend]
    split
    · rfl
    · rfl
  cases hcs : padded 4 d.year with
  | nil => simp [hcs] at hlen
  | cons c cs =>
    have hdigit := hall c (by rw [hcs]; exact List.mem_cons_self)
    rw [hrender]
    rw [hcs, List.cons_append] at hcount ⊢
    unfold readCount?
    split
    · next heq =>
      obtain ⟨rfl, -⟩ := List.cons.inj heq
      cases hdigit
    · next heq =>
      obtain ⟨rfl, -⟩ := List.cons.inj heq
      cases hdigit
    · exact hcount

/-- A timestamp is read back from its text. -/
theorem read_stored (t : Timestamp) : Timestamp.read t.stored = .ok t := by
  have htime : readTime ('T' :: (t.clock.render ++ renderOffset t.offset)) =
      some (t.clock, t.offset) := by
    rw [readTime, if_pos (.inl rfl), readClock_render t.clock (endsClock_renderOffset t.offset)]
    simp only [Option.bind_eq_bind, Option.bind_some, readOffset_renderOffset]
    rfl
  unfold Timestamp.read
  rw [toList_stored, readCount?_render]
  dsimp only
  unfold readCalendar
  rw [readDate_render]
  dsimp only
  rw [htime, Date.of?_self]

end Runbook.Time
