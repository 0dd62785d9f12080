import Runbook.Proofs.Json.Scalar

/-!
# `Proofs/Json/Value` — data that was written is read back

Not all data survives being written as JSON. A date has no name there, a number with a point may be
written otherwise than it was read, and the reader refuses an integer of thousands of digits and
containers in more than `maxDepth` others. `Keeps` leaves these out, by a recursion on the depth
like that of the reader, and all other data is read back as it was written, in either layout.
-/

set_option autoImplicit false

namespace Runbook.Json

open Runbook.Text

/-! ## What is kept -/

/-- Data that is kept if its parts are. -/
def keepsOver (inner : Datum → Prop) : Datum → Prop
  | .null | .bool _ | .text _ => True
  | .number (.integer n) => isShort n = true
  | .number _ | .moment => False
  | .list ds => ∀ d ∈ ds, inner d
  | .record fs => ∀ f ∈ fs, inner f.2

/-- Data that is kept by a reader for values nested so deep. -/
def Keeps : (depth : Nat) → Datum → Prop
  | 0 => keepsOver fun _ => False
  | depth + 1 => keepsOver (Keeps depth)

/-! ## White space -/

theorem skipSpace_newline (level : Nat) (rest : List Char) :
    skipSpace (newline level ++ rest) = skipSpace rest := by
  unfold skipSpace newline
  rw [List.dropWhile_append_of_pos]
  intro c hc
  rcases List.mem_cons.1 hc with rfl | hc
  · rfl
  · rw [List.eq_of_mem_replicate hc]
    rfl

theorem skipSpace_of_not_isSpace {c : Char} (h : isSpace c = false) (rest : List Char) :
    skipSpace (c :: rest) = c :: rest := by
  unfold skipSpace
  rw [List.dropWhile_cons_of_neg (by simp [h])]

theorem ends_newline (level : Nat) (rest : List Char) : Ends (newline level ++ rest) :=
  ends_cons (by decide) _

/-! ## How a value begins -/

/-- The first character of a value: no white space and no closing bracket. -/
def Begins (cs : List Char) : Prop :=
  ∃ c more, cs = c :: more ∧ isSpace c = false ∧ c ≠ ']' ∧ c ≠ '\x7d'

theorem Begins.append {cs : List Char} (h : Begins cs) (rest : List Char) :
    Begins (cs ++ rest) := by
  obtain ⟨c, more, rfl, hc⟩ := h
  exact ⟨c, more ++ rest, rfl, hc⟩

theorem Begins.skipSpace_eq {cs : List Char} (h : Begins cs) : skipSpace cs = cs := by
  obtain ⟨c, more, rfl, hc, -⟩ := h
  exact skipSpace_of_not_isSpace hc more

theorem begins_writeString (layout : Layout) (s : String) : Begins (writeString layout s) :=
  ⟨'"', _, rfl, by decide, by decide, by decide⟩

theorem begins_signed (n : Int) : Begins (signed n) := by
  obtain ⟨c, more, hcons, hc⟩ := signed_eq_cons n
  have hall : ∀ d : Char, d.isDigit = false → d ≠ '-' → c ≠ d := by
    rintro d hdigit hsign rfl
    rcases hc with hc | hc
    · rw [hdigit] at hc
      cases hc
    · exact hsign hc
  refine ⟨c, more, hcons, ?_, hall _ (by decide) (by decide), hall _ (by decide) (by decide)⟩
  simp [isSpace, hall ' ' (by decide) (by decide), hall '\t' (by decide) (by decide),
    hall '\n' (by decide) (by decide), hall '\r' (by decide) (by decide)]

theorem begins_writeValue {inner : Datum → Prop} {d : Datum} (h : keepsOver inner d)
    (layout : Layout) (level : Nat) : Begins (writeValue layout level d) := by
  cases d with
  | null => exact ⟨'n', _, by rw [writeValue]; rfl, by decide, by decide, by decide⟩
  | bool b =>
    cases b with
    | false => exact ⟨'f', _, by rw [writeValue]; rfl, by decide, by decide, by decide⟩
    | true => exact ⟨'t', _, by rw [writeValue]; rfl, by decide, by decide, by decide⟩
  | number n =>
    cases n with
    | integer n =>
      rw [writeValue]
      exact begins_signed n
    | _ => exact absurd h id
  | text s =>
    rw [writeValue]
    exact begins_writeString layout s
  | moment => exact absurd h id
  | list ds =>
    cases ds with
    | nil => exact ⟨'[', [']'], by rw [writeValue], by decide, by decide, by decide⟩
    | cons d ds => exact ⟨'[', _, by rw [writeValue]; rfl, by decide, by decide, by decide⟩
  | record fs =>
    cases fs with
    | nil => exact ⟨'\x7b', ['\x7d'], by rw [writeValue], by decide, by decide, by decide⟩
    | cons f fs => exact ⟨'\x7b', _, by rw [writeValue]; rfl, by decide, by decide, by decide⟩

/-! ## Lists and records -/

/-- A reader takes data back as it was written, at any level and whatever ends it. -/
def TakesBack (layout : Layout) (reader : Reader Datum) (d : Datum) : Prop :=
  ∀ level rest, Ends rest → reader.read (writeValue layout level d ++ rest) = some (d, rest)

theorem items_last {item : Reader Datum} {cs rest final : List Char} {d : Datum}
    (hd : item.read (skipSpace cs) = some (d, rest)) (h : skipSpace rest = ']' :: final) :
    items item cs = some ([d], final) := by
  rw [items]
  split
  · next hnone => rw [hd] at hnone; cases hnone
  · next e more hsome =>
    rw [hd] at hsome
    obtain ⟨rfl, rfl⟩ := Prod.mk.inj (Option.some.inj hsome)
    split
    · next final' heq =>
      rw [h] at heq
      rw [(List.cons.inj heq).2]
    · next heq => rw [h] at heq; cases heq
    · next hno _ => exact absurd h (hno _)

theorem items_more {item : Reader Datum} {cs rest more : List Char} {d : Datum}
    (hd : item.read (skipSpace cs) = some (d, rest)) (h : skipSpace rest = ',' :: more) :
    items item cs = (items item more).map fun p => (d :: p.1, p.2) := by
  rw [items]
  split
  · next hnone => rw [hd] at hnone; cases hnone
  · next e rest' hsome =>
    rw [hd] at hsome
    obtain ⟨rfl, rfl⟩ := Prod.mk.inj (Option.some.inj hsome)
    split
    · next heq => rw [h] at heq; cases heq
    · next more' heq =>
      rw [h] at heq
      obtain rfl := (List.cons.inj heq).2
      rfl
    · next hno => exact absurd h (hno _)

/-- The items of a list, each on a line of its own. -/
theorem items_write {layout : Layout} {item : Reader Datum} {d : Datum} {ds : List Datum}
    (hback : ∀ e ∈ d :: ds, TakesBack layout item e)
    (hbegins : ∀ e ∈ d :: ds, ∀ level, Begins (writeValue layout level e))
    (level lower : Nat) (final : List Char) :
    items item (newline level ++ (writeValue layout level d ++ (writeItems layout level ds ++
      (newline lower ++ ']' :: final)))) = some (d :: ds, final) := by
  induction ds generalizing d with
  | nil =>
    have hd := hback d List.mem_cons_self level _ (ends_newline lower (']' :: final))
    have hclosing : skipSpace (newline lower ++ ']' :: final) = ']' :: final := by
      rw [skipSpace_newline, skipSpace_of_not_isSpace (by decide)]
    refine items_last ?_ hclosing
    rw [skipSpace_newline, writeItems, List.nil_append,
        ((hbegins d List.mem_cons_self level).append _).skipSpace_eq, hd]
  | cons e ds ih =>
    have hrest : writeItems layout level (e :: ds) ++ (newline lower ++ ']' :: final) =
        ',' :: (newline level ++ (writeValue layout level e ++ (writeItems layout level ds ++
          (newline lower ++ ']' :: final)))) := by
      rw [writeItems]
      simp only [List.cons_append, List.append_assoc]
    have hd := hback d List.mem_cons_self level _ (ends_cons (c := ',') (by decide)
      (newline level ++ (writeValue layout level e ++ (writeItems layout level ds ++
        (newline lower ++ ']' :: final)))))
    have hlater := ih (fun f hf => hback f (List.mem_cons_of_mem _ hf))
      fun f hf => hbegins f (List.mem_cons_of_mem _ hf)
    rw [hrest, items_more (d := d) _ (skipSpace_of_not_isSpace (by decide) _), hlater]
    · rfl
    · rw [skipSpace_newline, ((hbegins d List.mem_cons_self level).append _).skipSpace_eq, hd]

theorem fields_last {value : Reader Datum} {cs rest final : List Char} {f : String × Datum}
    (hf : field value cs = some (f, rest)) (h : skipSpace rest = '\x7d' :: final) :
    fields value cs = some ([f], final) := by
  rw [fields]
  split
  · next hnone => rw [hf] at hnone; cases hnone
  · next e more hsome =>
    rw [hf] at hsome
    obtain ⟨rfl, rfl⟩ := Prod.mk.inj (Option.some.inj hsome)
    split
    · next final' heq =>
      rw [h] at heq
      rw [(List.cons.inj heq).2]
    · next heq => rw [h] at heq; cases heq
    · next hno _ => exact absurd h (hno _)

theorem fields_more {value : Reader Datum} {cs rest more : List Char} {f : String × Datum}
    (hf : field value cs = some (f, rest)) (h : skipSpace rest = ',' :: more) :
    fields value cs = (fields value more).map fun p => (f :: p.1, p.2) := by
  rw [fields]
  split
  · next hnone => rw [hf] at hnone; cases hnone
  · next e rest' hsome =>
    rw [hf] at hsome
    obtain ⟨rfl, rfl⟩ := Prod.mk.inj (Option.some.inj hsome)
    split
    · next heq => rw [h] at heq; cases heq
    · next more' heq =>
      rw [h] at heq
      obtain rfl := (List.cons.inj heq).2
      rfl
    · next hno => exact absurd h (hno _)

/-- A field: its name, a colon and a blank, its value. -/
theorem field_write {layout : Layout} {value : Reader Datum} {d : Datum}
    (hback : TakesBack layout value d) {level : Nat} (hbegins : Begins (writeValue layout level d))
    (name : String) {rest : List Char} (hrest : Ends rest) :
    field value (newline level ++ (writeString layout name ++
      ':' :: ' ' :: (writeValue layout level d ++ rest))) = some ((name, d), rest) := by
  unfold field
  rw [skipSpace_newline, ((begins_writeString layout name).append _).skipSpace_eq,
    string_writeString]
  dsimp only
  rw [skipSpace_of_not_isSpace (by decide), after?, if_pos rfl, after?]
  dsimp only
  have hblank : skipSpace (' ' :: (writeValue layout level d ++ rest)) =
      skipSpace (writeValue layout level d ++ rest) := rfl
  rw [hblank, (hbegins.append _).skipSpace_eq, hback level rest hrest]
  rfl

/-- The fields of a record, each on a line of its own. -/
theorem fields_write {layout : Layout} {value : Reader Datum} {f : String × Datum}
    {fs : List (String × Datum)} (hback : ∀ g ∈ f :: fs, TakesBack layout value g.2)
    (hbegins : ∀ g ∈ f :: fs, ∀ level, Begins (writeValue layout level g.2))
    (level lower : Nat) (final : List Char) :
    fields value (newline level ++ (writeString layout f.1 ++ ':' :: ' ' ::
      (writeValue layout level f.2 ++ (writeFields layout level fs ++
        (newline lower ++ '\x7d' :: final))))) = some (f :: fs, final) := by
  induction fs generalizing f with
  | nil =>
    have hclosing : skipSpace (newline lower ++ '\x7d' :: final) = '\x7d' :: final := by
      rw [skipSpace_newline, skipSpace_of_not_isSpace (by decide)]
    refine fields_last ?_ hclosing
    rw [writeFields, List.nil_append]
    exact field_write (hback f List.mem_cons_self) (hbegins f List.mem_cons_self level) f.1
        (ends_newline lower _)
  | cons g fs ih =>
    have hrest : writeFields layout level (g :: fs) ++ (newline lower ++ '\x7d' :: final) =
        ',' :: (newline level ++ (writeString layout g.1 ++ ':' :: ' ' ::
          (writeValue layout level g.2 ++ (writeFields layout level fs ++
            (newline lower ++ '\x7d' :: final))))) := by
      rw [writeFields]
      simp only [List.cons_append, List.append_assoc]
    have hlater := ih (fun k hk => hback k (List.mem_cons_of_mem _ hk))
      fun k hk => hbegins k (List.mem_cons_of_mem _ hk)
    rw [hrest, fields_more (f := f) _ (skipSpace_of_not_isSpace (by decide) _), hlater]
    · rfl
    · exact field_write (hback f List.mem_cons_self) (hbegins f List.mem_cons_self level) f.1
        (ends_cons (by decide) _)

/-! ## Values -/

theorem valueOver_scalar {inner : Option (Reader Datum)} {cs rest : List Char} {d : Datum}
    (h : scalar cs = some (d, rest)) : valueOver inner cs = some (d, rest) := by
  unfold valueOver
  split
  · cases h
  · cases h
  · exact h

theorem listRest_items {item : Reader Datum} {cs rest : List Char} {ds : List Datum}
    (hcs : ∀ final, skipSpace cs ≠ ']' :: final) (h : items item cs = some (ds, rest)) :
    listRest (some item) cs = some (.list ds, rest) := by
  unfold listRest
  split
  · next final heq => exact absurd heq (hcs final)
  · next heq _ => cases heq
  · next item' heq _ =>
    obtain rfl := Option.some.inj heq
    rw [h]
    rfl

theorem recordRest_fields {value : Reader Datum} {cs rest : List Char} {fs : Fields}
    (hcs : ∀ final, skipSpace cs ≠ '\x7d' :: final) (h : fields value cs = some (fs, rest)) :
    recordRest (some value) cs = some (.record fs, rest) := by
  unfold recordRest
  split
  · next final heq => exact absurd heq (hcs final)
  · next heq _ => cases heq
  · next value' heq _ =>
    obtain rfl := Option.some.inj heq
    rw [h]
    rfl

/-- Data is taken back if its parts are. -/
theorem valueOver_write {layout : Layout} {reader : Option (Reader Datum)} {inner : Datum → Prop}
    (hinner : ∀ d, inner d → ∃ r, reader = some r ∧ TakesBack layout r d)
    (hbegins : ∀ d, inner d → ∀ level, Begins (writeValue layout level d))
    {d : Datum} (h : keepsOver inner d) (level : Nat) {rest : List Char} (hrest : Ends rest) :
    valueOver reader (writeValue layout level d ++ rest) = some (d, rest) := by
  have hback : ∀ {r}, reader = some r → ∀ d, inner d → TakesBack layout r d := by
    intro r hr d hd
    obtain ⟨r', hr', htakes⟩ := hinner d hd
    obtain rfl := Option.some.inj (hr.symm.trans hr')
    exact htakes
  cases d with
  | null =>
    rw [writeValue]
    exact valueOver_scalar (scalar_null rest)
  | bool b =>
    have hb : valueOver reader _ = _ := valueOver_scalar (scalar_bool b rest)
    cases b <;> (rw [writeValue]; exact hb)
  | number n =>
    cases n with
    | integer n =>
      rw [writeValue]
      exact valueOver_scalar (scalar_signed hrest h)
    | _ => exact absurd h id
  | text s =>
    rw [writeValue]
    exact valueOver_scalar (scalar_writeString layout s rest)
  | moment => exact absurd h id
  | list ds =>
    cases ds with
    | nil =>
      rw [writeValue]
      rfl
    | cons d ds =>
      obtain ⟨r, hr, -⟩ := hinner d (h d List.mem_cons_self)
      have hd := hbegins d (h d List.mem_cons_self) (level + 1)
      have hitems := items_write (fun e he => hback hr e (h e he))
        (fun e he => hbegins e (h e he)) (level + 1) level rest
      rw [writeValue]
      simp only [List.cons_append, List.append_assoc, List.nil_append]
      rw [hr]
      refine listRest_items (fun final heq => ?_) hitems
      rw [skipSpace_newline, (hd.append _).skipSpace_eq] at heq
      obtain ⟨c, more, hcons, -, hc, -⟩ := hd
      rw [hcons] at heq
      exact hc (List.cons.inj heq).1
  | record fs =>
    cases fs with
    | nil =>
      rw [writeValue]
      rfl
    | cons f fs =>
      obtain ⟨r, hr, -⟩ := hinner f.2 (h f List.mem_cons_self)
      have hfields := fields_write (fun g hg => hback hr g.2 (h g hg))
        (fun g hg => hbegins g.2 (h g hg)) (level + 1) level rest
      rw [writeValue]
      simp only [List.cons_append, List.append_assoc, List.nil_append]
      rw [hr]
      refine recordRest_fields (fun final heq => ?_) hfields
      rw [skipSpace_newline, ((begins_writeString layout f.1).append _).skipSpace_eq,
        writeString, List.cons_append] at heq
      exact absurd (List.cons.inj heq).1 (by decide)

theorem begins_of_keeps {depth : Nat} {d : Datum} (h : Keeps depth d) (layout : Layout)
    (level : Nat) : Begins (writeValue layout level d) := by
  cases depth with
  | zero => exact begins_writeValue h layout level
  | succ depth => exact begins_writeValue h layout level

theorem takesBack_of_keeps {depth : Nat} {d : Datum} (h : Keeps depth d) (layout : Layout) :
    TakesBack layout (value depth) d := by
  induction depth generalizing d with
  | zero =>
    exact fun level rest hrest => valueOver_write (fun _ hd => absurd hd id)
      (fun _ hd => absurd hd id) h level hrest
  | succ depth ih =>
    exact fun level rest hrest => valueOver_write (fun d hd => ⟨value depth, rfl, ih hd⟩)
      (fun d hd => begins_of_keeps hd layout) h level hrest

/-- Data that is kept is read back from what was written. -/
theorem read?_write {d : Datum} (h : Keeps maxDepth d) (layout : Layout) :
    read? (write layout d).toList = some d := by
  have hread := takesBack_of_keeps h layout 0 [] ends_nil
  rw [List.append_nil] at hread
  unfold read? write
  rw [String.toList_ofList, (begins_of_keeps h layout 0).skipSpace_eq, hread]
  rfl

end Runbook.Json
