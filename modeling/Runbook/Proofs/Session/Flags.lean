import Runbook.Proofs.Session.Advance

/-!
# `Proofs/Session/Flags` — setting flags, one after another

Setting a flag loads the whole plan, sets the flag of the first task with the id, and saves the whole
plan again. So what a store holds after some flags were set is the plan that it gave at first, with
the flag of each id that was last set for it (`Plan.withFlags`, `lastFlag?`). The step lemma is that a
flag more is an entry more in that table (`Plan.withFlags_setCompleted`), and the run lemma follows by
induction on the flags (`leads_setFlags`). From it everything else can be read: a flag that is set
again is forgotten, flags of different ids may be set in any order, and two runs that agree on the last
flag of each id leave the same store, byte for byte where it is a file.

The ids of a plan may repeat. It is the first task of an id that counts, each time, since no flag
changes an id. A tasks file that does not say when its plan was made gives another plan at another
time, but only until the first flag is set; so what a store gives is asked for at the times at which a
run may begin, and at no other.
-/

set_option autoImplicit false

namespace Runbook

/-! ## Flags of a plan -/

/-- The plan with the flags that a table has for its ids. Only the first task of an id gets one. -/
def Plan.withFlags (plan : Plan) (flag? : String → Option Bool) : Plan :=
  { plan with
    tasks := plan.tasks.mapIdx fun place task =>
      if plan.ids.idxOf task.id = place then
        { task with completed := (flag? task.id).getD task.completed }
      else task }

theorem Plan.withFlags_none (plan : Plan) : plan.withFlags (fun _ => none) = plan := by
  obtain ⟨workflow, generated, tasks⟩ := plan
  refine congrArg (Plan.mk workflow generated) (List.ext_getElem List.length_mapIdx ?_)
  intro place hplace hplace'
  rw [List.getElem_mapIdx]
  split <;> rfl

theorem Plan.ids_withFlags (plan : Plan) (flag? : String → Option Bool) :
    (plan.withFlags flag?).ids = plan.ids := by
  unfold Plan.ids Plan.withFlags
  refine List.ext_getElem (by simp) fun place hplace hplace' => ?_
  simp only [List.getElem_map, List.getElem_mapIdx]
  split <;> rfl

/-- Setting the flag of an id, told by places. -/
theorem Plan.tasks_setCompleted (plan : Plan) (id : String) (flag : Bool) :
    (plan.setCompleted id flag).tasks = plan.tasks.mapIdx fun place task =>
      if plan.ids.idxOf id = place then { task with completed := flag } else task := by
  have hmark : ∀ tasks : List Task, Plan.setCompleted.mark id flag tasks =
      tasks.mapIdx fun place task =>
        if (tasks.map (·.id)).idxOf id = place then { task with completed := flag } else task := by
    intro tasks
    induction tasks with
    | nil => rfl
    | cons first rest ih =>
      rw [Plan.setCompleted.mark, List.map_cons, List.mapIdx_cons, List.idxOf_cons]
      by_cases hfirst : first.id = id
      · have hkeep : ∀ tasks : List Task, (tasks.mapIdx fun place task =>
            if 0 = place + 1 then { task with completed := flag } else task) = tasks := by
          intro tasks
          refine List.ext_getElem List.length_mapIdx fun place hplace hplace' => ?_
          rw [List.getElem_mapIdx, if_neg (Nat.succ_ne_zero place).symm]
        rw [if_pos (beq_iff_eq.2 hfirst), beq_iff_eq.2 hfirst, cond_true, if_pos rfl, hkeep]
      · rw [if_neg (by simpa using hfirst), beq_false_of_ne hfirst, cond_false,
          if_neg (Nat.succ_ne_zero _), ih]
        simp only [Nat.add_right_cancel_iff]
  exact hmark plan.tasks

/-- The place of an id is that of a task with it. -/
theorem Plan.id_getElem_of_idxOf {plan : Plan} {id : String} {place : Nat}
    (hplace : place < plan.tasks.length) (h : plan.ids.idxOf id = place) :
    plan.tasks[place].id = id := by
  have hlt : plan.ids.idxOf id < plan.ids.length := by
    unfold Plan.ids at h ⊢
    rw [h, List.length_map]
    exact hplace
  have hget : plan.ids[plan.ids.idxOf id] = id := List.getElem_idxOf hlt
  unfold Plan.ids at hget h
  simpa [h] using hget

/-- A flag that was set before those of a table counts where the table has none. -/
theorem Plan.withFlags_setCompleted (plan : Plan) (id : String) (flag : Bool)
    (flag? : String → Option Bool) : (plan.setCompleted id flag).withFlags flag? =
      plan.withFlags fun other => (flag? other).or (if id = other then some flag else none) := by
  have htasks := plan.tasks_setCompleted id flag
  have hids := plan.ids_setCompleted id flag
  refine congrArg (Plan.mk plan.workflow plan.generated) ?_
  rw [hids, htasks, List.mapIdx_mapIdx]
  refine List.ext_getElem (by simp) fun place hplace _ => ?_
  rw [List.length_mapIdx] at hplace
  rw [List.getElem_mapIdx, List.getElem_mapIdx]
  by_cases hself : plan.ids.idxOf id = place
  · have hid := Plan.id_getElem_of_idxOf hplace hself
    subst hid
    simp [hself]
  · by_cases hother : plan.ids.idxOf plan.tasks[place].id = place
    · have hne : id ≠ plan.tasks[place].id := fun heq => hself (heq ▸ hother)
      simp [hself, hother, hne]
    · simp [hself, hother]

/-- Setting one flag is a table with one entry. -/
theorem Plan.setCompleted_eq_withFlags (plan : Plan) (id : String) (flag : Bool) :
    plan.setCompleted id flag =
      plan.withFlags fun other => if id = other then some flag else none := by
  rw [← (plan.setCompleted id flag).withFlags_none, plan.withFlags_setCompleted]
  exact congrArg plan.withFlags (funext fun _ => Option.none_or)

/-- A flag that is set again is forgotten. -/
theorem Plan.setCompleted_setCompleted (plan : Plan) (id : String) (earlier later : Bool) :
    (plan.setCompleted id earlier).setCompleted id later = plan.setCompleted id later := by
  rw [(plan.setCompleted id earlier).setCompleted_eq_withFlags, plan.withFlags_setCompleted,
    plan.setCompleted_eq_withFlags]
  refine congrArg plan.withFlags (funext fun other => ?_)
  by_cases hid : id = other
  · rw [if_pos hid, Option.some_or]
  · rw [if_neg hid, if_neg hid, Option.none_or]

/-- Flags of different ids can be set in any order. -/
theorem Plan.setCompleted_comm (plan : Plan) {a b : String} (hne : a ≠ b) (x y : Bool) :
    (plan.setCompleted a x).setCompleted b y = (plan.setCompleted b y).setCompleted a x := by
  rw [(plan.setCompleted a x).setCompleted_eq_withFlags, plan.withFlags_setCompleted,
    (plan.setCompleted b y).setCompleted_eq_withFlags, plan.withFlags_setCompleted]
  refine congrArg plan.withFlags (funext fun other => ?_)
  by_cases ha : a = other
  · rw [if_pos ha, if_neg fun hb => hne (ha.trans hb.symm), Option.none_or, Option.some_or]
  · rw [if_neg ha, Option.or_none, Option.none_or]

/-! ## Setting flags -/

/-- A flag that is set for an id, at a time. -/
structure Flagging where
  now : Time.Timestamp
  id : String
  flag : Bool

/-- The flag that was last set for an id. -/
def lastFlag? (fs : List Flagging) (id : String) : Option Bool :=
  (fs.reverse.find? (·.id == id)).map (·.flag)

theorem lastFlag?_cons (f : Flagging) (fs : List Flagging) (id : String) :
    lastFlag? (f :: fs) id =
      (lastFlag? fs id).or (if f.id = id then some f.flag else none) := by
  unfold lastFlag?
  rw [List.reverse_cons, List.find?_append, Option.map_or]
  by_cases hid : f.id = id
  · rw [if_pos hid, List.find?_cons_of_pos (by simpa using hid)]
    rfl
  · rw [if_neg hid, List.find?_cons_of_neg (by simpa using hid)]
    rfl

/-- A store in which nothing is left of the plan that was saved before the last. -/
class OverwritingStore (σ : Type) [Store σ] : Prop extends WorkableStore σ where
  save_save : ∀ (earlier later : Plan) (s : σ),
    Store.save later (Store.save earlier s) = Store.save later s

instance : OverwritingStore Memory where
  save_save _ _ _ := rfl

instance : OverwritingStore TasksFile where
  save_save _ _ _ := rfl

variable {σ : Type} [Store σ]

/-- Flags set one after another. -/
def Work.setFlags : List Flagging → Work σ Unit
  | [] => pure ()
  | f :: fs => do
    let _ ← Work.setCompleted f.now f.id f.flag
    setFlags fs

/-- Flags that can be set one after another: the plan has their ids, and the first is set at one of
some times. -/
structure FlagsFor (times : Time.Timestamp → Prop) (plan : Plan) (fs : List Flagging) : Prop where
  mem_ids : ∀ f ∈ fs, f.id ∈ plan.ids
  begins : ∀ f ∈ fs.head?, times f.now

section Run

variable {s : Session σ} {plan : Plan}

theorem Plan.exists_find?_of_mem_ids {id : String} (h : id ∈ plan.ids) :
    ∃ task, plan.find? id = some task := by
  cases hfind : plan.find? id with
  | some task => exact ⟨task, rfl⟩
  | none => exact absurd h (Plan.notMem_ids_of_find? hfind)

variable [OverwritingStore σ]

/-- The run lemma: the store then holds the plan with the last flag of each id. -/
theorem leads_setFlags {f : Flagging} {fs : List Flagging}
    (hload : (Store.load f.now s.store).2 = some plan) (hids : ∀ g ∈ f :: fs, g.id ∈ plan.ids) :
    (Work.setFlags (f :: fs)).Leads s
      { s with store := Store.save (plan.withFlags (lastFlag? (f :: fs))) s.store } (.ok ()) := by
  induction fs generalizing s plan f with
  | nil =>
    obtain ⟨hid, -⟩ := List.forall_mem_cons.1 hids
    obtain ⟨task, hfind⟩ := Plan.exists_find?_of_mem_ids hid
    have hone : plan.withFlags (lastFlag? [f]) = plan.setCompleted f.id f.flag := by
      rw [plan.setCompleted_eq_withFlags]
      exact congrArg plan.withFlags (funext fun id => lastFlag?_cons f [] id)
    rw [hone]
    exact (leads_setCompleted hload hfind f.flag).bind (Work.leads_pure () _)
  | cons g gs ih =>
    obtain ⟨hid, hrest⟩ := List.forall_mem_cons.1 hids
    obtain ⟨task, hfind⟩ := Plan.exists_find?_of_mem_ids hid
    have hsame := plan.ids_setCompleted f.id f.flag
    -- The second flag meets the plan with the first one set, whenever that is.
    have hload' : (Store.load g.now (Store.save (plan.setCompleted f.id f.flag) s.store)).2 =
        some (plan.setCompleted f.id f.flag) :=
      congrArg Prod.snd (WorkableStore.load_save_of_load hload hsame g.now)
    have hflags : (plan.setCompleted f.id f.flag).withFlags (lastFlag? (g :: gs)) =
        plan.withFlags (lastFlag? (f :: g :: gs)) := by
      rw [Plan.withFlags_setCompleted]
      exact congrArg plan.withFlags (funext fun id => (lastFlag?_cons f (g :: gs) id).symm)
    have hrun := ih (s := { s with store := Store.save (plan.setCompleted f.id f.flag) s.store })
      hload' (hsame ▸ hrest)
    rw [hflags] at hrun
    dsimp only at hrun
    rw [OverwritingStore.save_save] at hrun
    exact (leads_setCompleted hload hfind f.flag).bind hrun

/-- Two flags, one after the other. -/
theorem leads_setCompleted_twice {now : Time.Timestamp} {a b : String}
    (hload : (Store.load now s.store).2 = some plan) (ha : a ∈ plan.ids) (hb : b ∈ plan.ids)
    (later : Time.Timestamp) (x y : Bool) :
    (Work.setCompleted now a x >>= fun _ => Work.setCompleted later b y).Leads s
      { s with store := Store.save ((plan.setCompleted a x).setCompleted b y) s.store }
      (.ok ((plan.setCompleted a x).setCompleted b y)) := by
  obtain ⟨task, hfind⟩ := Plan.exists_find?_of_mem_ids ha
  have hsame := plan.ids_setCompleted a x
  obtain ⟨task', hfind'⟩ := Plan.exists_find?_of_mem_ids (hsame.symm ▸ hb)
  have hload' : (Store.load later (Store.save (plan.setCompleted a x) s.store)).2 =
      some (plan.setCompleted a x) :=
    congrArg Prod.snd (WorkableStore.load_save_of_load hload hsame later)
  have hsecond := leads_setCompleted
    (s := { s with store := Store.save (plan.setCompleted a x) s.store }) hload' hfind' y
  dsimp only at hsecond
  rw [OverwritingStore.save_save] at hsecond
  exact (leads_setCompleted hload hfind x).bind hsecond

/-- Only no flags at all have no last flag of any id. -/
theorem eq_nil_iff_of_lastFlag?_eq {fs gs : List Flagging}
    (h : ∀ id, lastFlag? fs id = lastFlag? gs id) : fs = [] ↔ gs = [] := by
  have hcons : ∀ (f : Flagging) (fs : List Flagging), lastFlag? (f :: fs) f.id ≠ none := by
    intro f fs hnone
    rw [lastFlag?_cons, if_pos rfl] at hnone
    cases hlater : lastFlag? fs f.id with
    | none =>
      rw [hlater] at hnone
      cases hnone
    | some flag =>
      rw [hlater] at hnone
      cases hnone
  cases fs with
  | nil =>
    cases gs with
    | nil => exact Iff.rfl
    | cons g gs => exact absurd (h g.id).symm (hcons g gs)
  | cons f fs =>
    cases gs with
    | nil => exact absurd (h f.id) (hcons f fs)
    | cons g gs => exact ⟨nofun, nofun⟩

end Run

/-- **Setting flags.** Let a store give a plan at some times. Setting the flag of an id of it, at one
of these times, sets it for the first task with the id and changes nothing else of the plan, and the
plan that is answered is the one that the store gives from then on. Setting it twice is setting it the
second time. The flags of two ids can be set in either order. So where some flags are set one after
another, what is left in the store is the plan with the last flag of each id, and any other flags
with the same last ones leave the same. -/
theorem setCompleted_of_load [OverwritingStore σ] {times : Time.Timestamp → Prop} {s : Session σ}
    {plan : Plan} (hload : ∀ now, times now → (Store.load now s.store).2 = some plan) :
    (∀ now, times now → ∀ id ∈ plan.ids, ∀ flag, ∃ place task s' after,
      plan.FirstAt id place task ∧
        after = { plan with tasks := plan.tasks.set place { task with completed := flag } } ∧
        (Work.setCompleted now id flag).Leads s s' (.ok after) ∧ Holds s'.store (some after)) ∧
    (∀ now now' later, times now → times now' → ∀ id ∈ plan.ids, ∀ x y, ∃ s' after,
      (Work.setCompleted now id x >>= fun _ => Work.setCompleted later id y).Leads s s'
          (.ok after) ∧
        (Work.setCompleted now' id y).Leads s s' (.ok after)) ∧
    (∀ now now' later later', times now → times now' → ∀ a ∈ plan.ids, ∀ b ∈ plan.ids, a ≠ b →
      ∀ x y, ∃ s' after,
        (Work.setCompleted now a x >>= fun _ => Work.setCompleted later b y).Leads s s'
            (.ok after) ∧
          (Work.setCompleted now' b y >>= fun _ => Work.setCompleted later' a x).Leads s s'
            (.ok after)) ∧
    ∀ fs gs, FlagsFor times plan fs → FlagsFor times plan gs →
      (∀ id, lastFlag? fs id = lastFlag? gs id) → ∃ s',
        (Work.setFlags fs).Leads s s' (.ok ()) ∧ (Work.setFlags gs).Leads s s' (.ok ()) ∧
          (fs ≠ [] → Holds s'.store (some (plan.withFlags (lastFlag? fs)))) := by
  refine ⟨?_, ?_, ?_, ?_⟩
  · intro now hnow id hid flag
    obtain ⟨task, hfind⟩ := Plan.exists_find?_of_mem_ids hid
    obtain ⟨place, hfirst⟩ := Plan.exists_firstAt hfind
    have hsame := plan.ids_setCompleted id flag
    refine ⟨place, task, _, plan.setCompleted id flag, hfirst, hfirst.setCompleted_eq_set flag,
      leads_setCompleted (hload now hnow) hfind flag, LawfulStore.present_save _ _, ?_⟩
    exact WorkableStore.load_save_of_load (hload now hnow) hsame
  · intro now now' later hnow hnow' id hid x y
    obtain ⟨task, hfind⟩ := Plan.exists_find?_of_mem_ids hid
    have htwice := leads_setCompleted_twice (hload now hnow) hid hid later x y
    rw [plan.setCompleted_setCompleted] at htwice
    exact ⟨_, _, htwice, leads_setCompleted (hload now' hnow') hfind y⟩
  · intro now now' later later' hnow hnow' a ha b hb hne x y
    have hone := leads_setCompleted_twice (hload now hnow) ha hb later x y
    rw [plan.setCompleted_comm hne] at hone
    exact ⟨_, _, hone, leads_setCompleted_twice (hload now' hnow') hb ha later' y x⟩
  · intro fs gs hfs hgs hlast
    have hnil := eq_nil_iff_of_lastFlag?_eq hlast
    cases fs with
    | nil =>
      obtain rfl := hnil.1 rfl
      exact ⟨s, Work.leads_pure () s, Work.leads_pure () s, fun hne => absurd rfl hne⟩
    | cons f fs =>
      cases gs with
      | nil => cases hnil.2 rfl
      | cons g gs =>
        have hf := hload f.now (hfs.begins f rfl)
        have hg := hload g.now (hgs.begins g rfl)
        have hids : (plan.withFlags (lastFlag? (f :: fs))).ids = plan.ids :=
          plan.ids_withFlags _
        refine ⟨_, leads_setFlags hf hfs.mem_ids, ?_, fun _ => ⟨LawfulStore.present_save _ _, ?_⟩⟩
        · rw [funext hlast]
          exact leads_setFlags hg hgs.mem_ids
        · exact WorkableStore.load_save_of_load hf hids

/-- Flags of two ids, one of which is set again. -/
def fickle : List Flagging :=
  [⟨motley.generated, "T001", true⟩, ⟨motley.generated, "T002", true⟩,
    ⟨motley.generated, "T001", false⟩]

/-- The last of these flags, in another order. -/
def settled : List Flagging :=
  [⟨motley.generated, "T001", false⟩, ⟨motley.generated, "T002", true⟩]

/-- Flags for a plan with an id twice: the second task of the id keeps its own. -/
theorem setCompleted_of_load_stuttering :
    (stuttering.withFlags (lastFlag? fickle)).tasks.map (·.completed) =
        [false, true, true, true] ∧
      (∃ s', (Work.setFlags fickle).Leads
            ⟨Store.save stuttering (TasksFile.mk "tasks.json" none), none⟩ s' (.ok ()) ∧
          (Work.setFlags settled).Leads
            ⟨Store.save stuttering (TasksFile.mk "tasks.json" none), none⟩ s' (.ok ()) ∧
          Holds s'.store (some (stuttering.withFlags (lastFlag? fickle)))) ∧
      ∃ s', (Work.setFlags fickle).Leads ⟨Memory.mk (some stuttering), none⟩ s' (.ok ()) ∧
        (Work.setFlags settled).Leads ⟨Memory.mk (some stuttering), none⟩ s' (.ok ()) ∧
        Holds s'.store (some (stuttering.withFlags (lastFlag? fickle))) := by
  have hvalid : ∀ task ∈ stuttering.tasks, isTaskId task.id = true := by
    simp only [stuttering, List.forall_mem_cons]
    decide
  -- Said of any store, so that none is evaluated.
  have hload : ∀ file : TasksFile, (∀ now, Store.load now file = ([], some stuttering)) →
      ∀ now, True → (Store.load now (Session.mk file none).store).2 = some stuttering :=
    fun _ h now _ => congrArg Prod.snd (h now)
  have hfile := hload (Store.save stuttering (TasksFile.mk "tasks.json" none))
    fun now => LawfulStore.load_save stuttering _ now hvalid
  have hmemory : ∀ now, True → (Store.load now
      (Session.mk (Memory.mk (some stuttering)) none).store).2 = some stuttering :=
    fun now _ => rfl
  have hfickle : FlagsFor (fun _ => True) stuttering fickle := ⟨by decide, fun _ _ => trivial⟩
  have hsettled : FlagsFor (fun _ => True) stuttering settled := ⟨by decide, fun _ _ => trivial⟩
  have hlast : ∀ id, lastFlag? fickle id = lastFlag? settled id := by
    intro id
    simp only [fickle, settled, lastFlag?_cons]
    by_cases h : "T001" = id
    · subst h
      decide
    · simp [h, lastFlag?]
  obtain ⟨s, hs, hs', hholds⟩ :=
    (setCompleted_of_load hfile).2.2.2 fickle settled hfickle hsettled hlast
  obtain ⟨t, ht, ht', hholds'⟩ :=
    (setCompleted_of_load hmemory).2.2.2 fickle settled hfickle hsettled hlast
  exact ⟨by decide +kernel, ⟨s, hs, hs', hholds (List.cons_ne_nil _ _)⟩, t, ht, ht',
    hholds' (List.cons_ne_nil _ _)⟩

end Runbook
