import Runbook.Proofs.Json.Value
import Runbook.Text.Lines

/-!
# `Proofs/Json/LineEndings` — written JSON has newlines only

A text file may come back with other line endings than it was written with, so the tasks file is
read with all of them turned into newlines. Written JSON does not mind: of the control characters it
has the newline alone (`Shown`), since any other is escaped, and a text without carriage returns is
left as it is. The layout of machine output shows nothing beyond printable ASCII either.
-/

set_option autoImplicit false

namespace Runbook.Text

/-- A text without carriage returns has one kind of line ending. -/
theorem unifyNewlines_of_notMem {cs : List Char} (h : '\r' ∉ cs) : unifyNewlines cs = cs := by
  induction cs with
  | nil => rfl
  | cons c cs ih =>
    have hc : c ≠ '\r' := fun hc => h (hc ▸ List.mem_cons_self)
    rw [unifyNewlines, ih fun hcs => h (List.mem_cons_of_mem _ hcs)]
    · exact fun _ heq _ => hc heq
    · exact hc

end Runbook.Text

namespace Runbook.Json

open Runbook.Text

/-- A character that stands in what a layout writes: a newline, or no control character, and
printable ASCII where the layout escapes all others. -/
def Layout.Shows (layout : Layout) (c : Char) : Prop :=
  c = '\n' ∨ 0x20 ≤ c.toNat ∧ (layout.ascii = true → c.toNat < 0x7F)

instance (layout : Layout) (c : Char) : Decidable (layout.Shows c) :=
  inferInstanceAs (Decidable (c = '\n' ∨ 0x20 ≤ c.toNat ∧ (layout.ascii = true → c.toNat < 0x7F)))

/-- Printable ASCII stands in what any layout writes. -/
theorem Layout.Shows.ofPrinted {layout : Layout} {c : Char} (h : Layout.printed.Shows c) :
    layout.Shows c :=
  h.imp_right fun hc => ⟨hc.1, fun _ => hc.2 rfl⟩

/-- A text of such characters. -/
def Shown (layout : Layout) (cs : List Char) : Prop := ∀ c ∈ cs, layout.Shows c

instance (layout : Layout) (cs : List Char) : Decidable (Shown layout cs) :=
  List.decidableBAll layout.Shows cs

theorem Shown.ofPrinted {layout : Layout} {cs : List Char} (h : Shown .printed cs) :
    Shown layout cs :=
  fun c hc => (h c hc).ofPrinted

theorem Shown.append {layout : Layout} {cs ds : List Char} (hcs : Shown layout cs)
    (hds : Shown layout ds) : Shown layout (cs ++ ds) :=
  fun c hc => (List.mem_append.1 hc).elim (hcs c) (hds c)

theorem Shown.cons {layout : Layout} {c : Char} {cs : List Char} (hc : layout.Shows c)
    (hcs : Shown layout cs) : Shown layout (c :: cs) :=
  List.forall_mem_cons.2 ⟨hc, hcs⟩

theorem Shown.notMem {layout : Layout} {cs : List Char} (h : Shown layout cs) : '\r' ∉ cs :=
  fun hc => (h _ hc).elim (absurd · (by decide)) fun hlow => absurd hlow.1 (by decide)

/-! ## Scalars -/

theorem shows_hexDigit {d : Nat} (h : d < 16) : Layout.printed.Shows (Utf8.hexDigit d) := by
  have hall : ∀ d : Fin 16, Layout.printed.Shows (Utf8.hexDigit d) := by decide
  exact hall ⟨d, h⟩

theorem shown_writeHex {n : Nat} (h : n < 0x10000) : Shown .printed (writeHex n) := by
  unfold writeHex hexQuad
  refine .cons (by decide) (.cons (by decide) ?_)
  intro c hc
  obtain ⟨d, hd, rfl⟩ := List.mem_map.1 hc
  refine shows_hexDigit ?_
  simp only [List.mem_cons, List.not_mem_nil, or_false] at hd
  omega

theorem shown_writeChar (layout : Layout) (c : Char) : Shown layout (writeChar layout c) := by
  have hvalid : c.toNat < 0xD800 ∨ 0xDFFF < c.toNat ∧ c.toNat < 0x110000 := c.valid
  unfold writeChar
  dsimp only
  split
  · exact .ofPrinted (by decide)
  split
  · exact .ofPrinted (by decide)
  split
  · exact .ofPrinted (by decide)
  split
  · exact .ofPrinted (by decide)
  split
  · exact .ofPrinted (by decide)
  split
  · exact .ofPrinted (by decide)
  split
  · exact .ofPrinted (by decide)
  split
  · exact (shown_writeHex (by omega)).ofPrinted
  · next hc =>
    split
    · split
      · next h => exact (shown_writeHex h).ofPrinted
      · exact ((shown_writeHex (by omega)).append (shown_writeHex (by omega))).ofPrinted
    · next hplain =>
      -- What is left as it stands is no control character, and ASCII if it has to be.
      simp only [Bool.and_eq_true, decide_eq_true_eq, not_and, Nat.not_le] at hplain
      exact .cons (.inr ⟨Nat.le_of_not_lt hc, hplain⟩) (.ofPrinted (by decide))

theorem shown_writeString (layout : Layout) (s : String) : Shown layout (writeString layout s) := by
  unfold writeString
  rw [List.cons_append]
  refine .cons (.ofPrinted (by decide)) (.append (fun c hc => ?_) (.ofPrinted (by decide)))
  obtain ⟨d, -, hd⟩ := List.mem_flatMap.1 hc
  exact shown_writeChar layout d c hd

theorem shown_decimal (n : Nat) : Shown .printed (decimal n) := by
  intro c hc
  have hdigit := isDigit_of_mem_decimal hc
  simp only [Char.isDigit, Bool.and_eq_true, decide_eq_true_eq] at hdigit
  have hlow : 48 ≤ c.toNat := hdigit.1
  have hhigh : c.toNat ≤ 57 := hdigit.2
  exact .inr ⟨by omega, fun _ => by omega⟩

theorem shown_signed (n : Int) : Shown .printed (signed n) := by
  unfold signed
  split
  · exact .cons (by decide) (shown_decimal _)
  · exact shown_decimal _

theorem shown_newline (level : Nat) : Shown .printed (newline level) := by
  refine .cons (by decide) fun c hc => ?_
  rw [List.eq_of_mem_replicate hc]
  decide

/-! ## Lists and records -/

theorem shown_writeItems {layout : Layout} {ds : List Datum} {level : Nat}
    (h : ∀ d ∈ ds, Shown layout (writeValue layout level d)) :
    Shown layout (writeItems layout level ds) := by
  induction ds with
  | nil =>
    rw [writeItems]
    exact .ofPrinted (by decide)
  | cons d ds ih =>
    obtain ⟨hd, hds⟩ := List.forall_mem_cons.1 h
    rw [writeItems]
    exact (Shown.cons (.ofPrinted (by decide)) ((shown_newline level).ofPrinted.append hd)).append
      (ih hds)

/-- A name, a colon and a blank, and a value. -/
theorem shown_field {layout : Layout} {level : Nat} {d : Datum}
    (h : Shown layout (writeValue layout level d)) (name : String) :
    Shown layout (writeString layout name ++ ':' :: ' ' :: writeValue layout level d) :=
  (shown_writeString layout name).append
    (.cons (.ofPrinted (by decide)) (.cons (.ofPrinted (by decide)) h))

theorem shown_writeFields {layout : Layout} {fs : List (String × Datum)} {level : Nat}
    (h : ∀ f ∈ fs, Shown layout (writeValue layout level f.2)) :
    Shown layout (writeFields layout level fs) := by
  induction fs with
  | nil =>
    rw [writeFields]
    exact .ofPrinted (by decide)
  | cons f fs ih =>
    obtain ⟨hf, hfs⟩ := List.forall_mem_cons.1 h
    have hfield := (shown_field hf f.1).append (ih hfs)
    rw [writeFields]
    simp only [List.append_assoc, List.cons_append] at hfield ⊢
    exact .cons (.ofPrinted (by decide)) ((shown_newline level).ofPrinted.append hfield)

theorem shown_writeValue_of_keepsOver {layout : Layout} {inner : Datum → Prop}
    (hinner : ∀ d, inner d → ∀ level, Shown layout (writeValue layout level d)) {d : Datum}
    (h : keepsOver inner d) (level : Nat) : Shown layout (writeValue layout level d) := by
  cases d with
  | null =>
    rw [writeValue]
    exact .ofPrinted (by decide)
  | bool b =>
    cases b <;> (rw [writeValue]; exact .ofPrinted (by decide))
  | number n =>
    cases n with
    | integer n =>
      rw [writeValue]
      exact (shown_signed n).ofPrinted
    | _ => exact absurd h id
  | text s =>
    rw [writeValue]
    exact shown_writeString layout s
  | moment => exact absurd h id
  | list ds =>
    cases ds with
    | nil =>
      rw [writeValue]
      exact .ofPrinted (by decide)
    | cons d ds =>
      obtain ⟨hd, hds⟩ := List.forall_mem_cons.1 h
      have hitems := shown_writeItems fun e he => hinner e (hds e he) (level + 1)
      have hopening : Shown layout ('[' :: newline (level + 1)) :=
        .ofPrinted (.cons (by decide) (shown_newline _))
      rw [writeValue]
      exact (((hopening.append (hinner d hd _)).append hitems).append
        (shown_newline level).ofPrinted).append (.ofPrinted (by decide))
  | record fs =>
    cases fs with
    | nil =>
      rw [writeValue]
      exact .ofPrinted (by decide)
    | cons f fs =>
      obtain ⟨hf, hfs⟩ := List.forall_mem_cons.1 h
      have hclosing : Shown layout (newline level ++ ['\x7d']) :=
        .ofPrinted ((shown_newline level).append (by decide))
      have hfields := shown_writeFields fun g hg => hinner g.2 (hfs g hg) (level + 1)
      have hbody := (shown_newline (level + 1)).ofPrinted.append
        (((shown_field (hinner f.2 hf (level + 1)) f.1).append hfields).append hclosing)
      rw [writeValue]
      simp only [List.append_assoc, List.cons_append] at hbody ⊢
      exact .cons (.ofPrinted (by decide)) hbody

theorem shown_writeValue {depth : Nat} {d : Datum} (h : Keeps depth d) (layout : Layout)
    (level : Nat) : Shown layout (writeValue layout level d) := by
  induction depth generalizing d level with
  | zero => exact shown_writeValue_of_keepsOver (fun _ hd => absurd hd id) h level
  | succ depth ih => exact shown_writeValue_of_keepsOver (fun _ hd level => ih hd level) h level

/-- What is written shows newlines, no other control character, and what else the layout leaves. -/
theorem shown_write {d : Datum} (h : Keeps maxDepth d) (layout : Layout) :
    Shown layout (write layout d).toList := by
  rw [write, String.toList_ofList]
  exact shown_writeValue h layout 0

/-- Data that is kept is read back whatever line endings are turned into newlines on the way. -/
theorem read?_unifyNewlines_write {d : Datum} (h : Keeps maxDepth d) (layout : Layout) :
    read? (unifyNewlines (write layout d).toList) = some d := by
  rw [unifyNewlines_of_notMem (shown_write h layout).notMem, read?_write h]

end Runbook.Json
