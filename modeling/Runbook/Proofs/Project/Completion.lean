import Runbook.Proofs.Plan.Numbering
import Runbook.Proofs.Project.Settings
import Runbook.Proofs.Session.Operation

/-!
# `Proofs/Project/Completion` — what is offered is what is accepted

The ids that are offered to a user who is typing are found by going through the plan, and the command
that completes a task looks its id up. Where no id is there twice, both come to the same: what is
offered is what begins as typed and would be accepted (`Project.mem_openIds_iff`).

Ids are compared in capitals, by the suggestions and by the command alike. No digit of any script has
another case, so an id is its own upper case, and it is also the upper case of its lower case
(`upper_lower_of_isTaskId`). Whoever types an offered id in either case completes the task that has it
(`CommandLine.CompletesBy`).
-/

set_option autoImplicit false

namespace Runbook

open Runbook.Text

/-! ## Ids in either case -/

/-- Ten characters in a row stand apart from others in a row. -/
def apart (start first last : Nat) : Bool := last.blt start || (start + 9).blt first

/-- The digits of every script stand apart from all characters that have another case. -/
theorem digits_apart : ((digitZeros ++ newerDigitZeros).all fun start =>
    (upperRuns.all fun run => apart start run.1 run.2.1) &&
      (upperExpansions.all fun e => apart start e.1 e.1) &&
      (apart start 0x41 0x5A && apart start 0x130 0x130 && apart start 0x212A 0x212A)) = true := by
  decide +kernel

/-- Beyond the digits of the Latin script, all digits are beyond the Latin alphabet. -/
theorem eq_or_le_of_mem_zeros : ∀ start ∈ digitZeros ++ newerDigitZeros,
    start = 0x30 ∨ 0x80 ≤ start := by
  decide

theorem apart_iff {start first last : Nat} :
    apart start first last = true ↔ last < start ∨ start + 9 < first := by
  simp [apart]

/-- A digit of some script is one of ten in a row. -/
theorem exists_zero_of_isIdDigit {c : Char} (h : isIdDigit c = true) :
    ∃ start ∈ digitZeros ++ newerDigitZeros, start ≤ c.toNat ∧ c.toNat ≤ start + 9 := by
  unfold isIdDigit isDigit at h
  simpa [or_and_right, exists_or] using h

/-- No digit has another case. -/
theorem caseless_of_isIdDigit {c : Char} (h : isIdDigit c = true) :
    upperChar c = [c] ∧ lowerChar c = [c] := by
  obtain ⟨start, hstart, hle, hlt⟩ := exists_zero_of_isIdDigit h
  have happart := List.all_eq_true.1 digits_apart start hstart
  simp only [Bool.and_eq_true, List.all_eq_true, apart_iff] at happart
  obtain ⟨⟨hruns, hexpansions⟩, ⟨hletters, hdotted⟩, hkelvin⟩ := happart
  constructor
  · by_cases hascii : c.toNat < 0x80
    · rcases eq_or_le_of_mem_zeros start hstart with rfl | hfar
      · refine upperChar_of_isDigit ?_
        simp only [Char.isDigit, Bool.and_eq_true, decide_eq_true_eq]
        exact ⟨hle, hlt⟩
      · omega
    · have hexpansion : upperExpansions.find? (·.1 == c.toNat) = none := by
        refine List.find?_eq_none.2 fun e he hsame => ?_
        have hat : e.1 = c.toNat := by simpa using hsame
        have hfar := hexpansions e he
        omega
      unfold upperChar
      dsimp only
      rw [if_neg hascii, hexpansion]
      dsimp only
      split
      · next first last step distance hfound =>
        have hfar : last < start ∨ start + 9 < first := hruns _ (List.mem_of_find?_eq_some hfound)
        have hin := List.find?_some hfound
        simp only [Bool.and_eq_true, decide_eq_true_eq] at hin
        omega
      · rfl
  · have hletter : ¬ ('A' ≤ c ∧ c ≤ 'Z') := by
      rintro ⟨hA, hZ⟩
      have hA' : 0x41 ≤ c.toNat := hA
      have hZ' : c.toNat ≤ 0x5A := hZ
      omega
    unfold lowerChar
    rw [if_neg hletter, if_neg (by omega), if_neg (by omega)]

/-- An id is empty, or it is a capital and digits. -/
theorem eq_nil_or_cons_of_isTaskId {s : String} (h : isTaskId s = true) :
    s.toList = [] ∨ ∃ ds, s.toList = 'T' :: ds ∧ ∀ d ∈ ds, isIdDigit d = true := by
  unfold isTaskId at h
  rcases Bool.or_eq_true_iff.1 h with hempty | hnumbered
  · exact .inl (String.toList_eq_nil_iff.2 (String.isEmpty_iff.1 hempty))
  · unfold isNumbered at hnumbered
    split at hnumbered
    · next ds hds =>
      rw [Bool.and_eq_true, List.all_eq_true] at hnumbered
      exact .inr ⟨ds, hds, hnumbered.1⟩
    · cases hnumbered

/-- An id is its own upper case. -/
theorem upper_of_isTaskId {id : String} (h : isTaskId id = true) : upper id = id := by
  refine upper_eq_self fun c hc => ?_
  rcases eq_nil_or_cons_of_isTaskId h with hnil | ⟨ds, hds, hdigits⟩
  · rw [hnil] at hc
    cases hc
  · rw [hds] at hc
    rcases List.mem_cons.1 hc with rfl | hc
    · decide
    · exact (caseless_of_isIdDigit (hdigits c hc)).1

/-- An id is the upper case of its lower case. -/
theorem upper_lower_of_isTaskId {id : String} (h : isTaskId id = true) :
    upper (String.ofList (lower id.toList)) = id := by
  rcases eq_nil_or_cons_of_isTaskId h with hnil | ⟨ds, hds, hdigits⟩
  · obtain rfl := String.toList_eq_nil_iff.1 hnil
    rfl
  · have hlower : lower ('T' :: ds) = 't' :: ds := by
      have hrest : ds.flatMap lowerChar = ds :=
        flatMap_eq_self fun d hd => (caseless_of_isIdDigit (hdigits d hd)).2
      rw [lower, List.flatMap_cons, hrest]
      rfl
    have hupper : ('t' :: ds).flatMap upperChar = 'T' :: ds := by
      have hrest : ds.flatMap upperChar = ds :=
        flatMap_eq_self fun d hd => (caseless_of_isIdDigit (hdigits d hd)).1
      rw [List.flatMap_cons, hrest]
      rfl
    rw [upper, hds, hlower, String.toList_ofList, hupper, ← hds, String.ofList_toList]

/-! ## What is accepted -/

section Accepted

variable {σ : Type} [Store σ] {now : Time.Timestamp} {s : Session σ} {plan : Plan} {id : String}

/-- A task is completed exactly if it is there and open. -/
theorem exists_answer_complete_iff :
    (∃ next, (Session.complete now id s).answer = .ok next) ↔
      ∃ plan task, (Store.load now s.store).2 = some plan ∧ plan.find? id = some task ∧
        task.completed = false := by
  rcases complete_cases_of_load now s id with ⟨e, ⟨-, he⟩, hdone⟩ |
    ⟨plan, task, hload, hfind, hopen, hends⟩
  · rw [he]
    refine ⟨nofun, ?_⟩
    rintro ⟨plan, task, hload, hfind, hopen⟩
    rw [hdone plan task hload hfind] at hopen
    cases hopen
  · refine ⟨fun _ => ⟨plan, task, hload, hfind, hopen⟩, fun _ => ?_⟩
    rcases hends with ⟨-, store, ⟨-, hanswer⟩, -⟩ | ⟨following, -, -, hanswer⟩
    · exact ⟨_, hanswer⟩
    · exact ⟨_, hanswer⟩

/-- What is left of a store when a task is completed: the plan with the flag of the task set, or
nothing if all tasks are done then. -/
def LeftBy (plan : Plan) (id : String) (before after : σ) : Prop :=
  ((plan.setCompleted id true).tasks.all (·.completed) = true → Emptied after) ∧
    ((plan.setCompleted id true).tasks.all (·.completed) = false →
      after = Store.save (plan.setCompleted id true) before)

theorem exists_leads_complete_of_open {task : Task} (hload : (Store.load now s.store).2 = some plan)
    (hids : plan.ids.Nodup) (hfind : plan.find? id = some task) (hopen : task.completed = false) :
    ∃ s' next, (Session.complete now id).Leads s s' (.ok next) ∧
      LeftBy plan id s.store s'.store := by
  rcases complete_cases_of_load now s id with ⟨e, -, hdone⟩ |
    ⟨plan', task', hload', hfind', -, hends⟩
  · rw [hdone plan task hload hfind] at hopen
    cases hopen
  obtain rfl : plan = plan' := Option.some.inj (hload.symm.trans hload')
  have hid : id ∈ (plan.setCompleted id true).ids := by
    have hsame : task.id = id := by simpa using List.find?_some hfind
    rw [plan.ids_setCompleted]
    exact List.mem_map.2 ⟨task, List.mem_of_find?_eq_some hfind, hsame⟩
  have haround := find?_around_eq_none_iff (plan.setCompleted id true) hid
    fun other => Plan.completed_of_mem_setCompleted hids
  rcases hends with ⟨hnone, store, hleads, hstore⟩ | ⟨following, hsome, hleads⟩
  · refine ⟨_, _, hleads, fun _ => hstore, fun hrest => ?_⟩
    rw [haround.1 hnone] at hrest
    cases hrest
  · refine ⟨_, _, hleads, fun hall => ?_, fun _ => rfl⟩
    rw [haround.2 hall] at hsome
    cases hsome

end Accepted

/-! ## What is offered -/

namespace Project

/-- What is offered begins as typed, and is the id of an open task. -/
theorem mem_openIds_iff {plan : Plan} (hids : plan.ids.Nodup) {typed id : String} :
    id ∈ openIds plan typed ↔ startsWith (upper typed) id = true ∧
      ∃ task, plan.find? id = some task ∧ task.completed = false := by
  unfold openIds
  rw [List.mem_map]
  constructor
  · rintro ⟨task, htask, rfl⟩
    obtain ⟨hmem, hkept⟩ := List.mem_filter.1 htask
    obtain ⟨hopen, hstarts⟩ : task.completed = false ∧ startsWith (upper typed) task.id = true := by
      simpa using hkept
    exact ⟨hstarts, task, Plan.find?_of_nodup hids hmem, hopen⟩
  · rintro ⟨hstarts, task, hfind, hopen⟩
    have hid : task.id = id := by simpa using List.find?_some hfind
    refine ⟨task, List.mem_filter.2 ⟨List.mem_of_find?_eq_some hfind, ?_⟩, hid⟩
    rw [hid, hstarts, hopen]
    rfl

/-- Nothing is offered twice, and all is offered in the order of the plan. -/
theorem openIds_sublist (plan : Plan) (typed : String) :
    (openIds plan typed).Sublist plan.ids := List.filter_sublist.map _

theorem outcome_completeTask (host : Host) {p : Project} {overrides : Overrides}
    {settings : Settings} (h : p.settings overrides = .ok settings) (typed : String) :
    (p.completeTask host overrides typed).outcome =
      .ok (((Store.load host.now (p.workspace settings)).2.map (openIds · typed)).getD []) := by
  unfold completeTask suggest
  rw [h]

end Project

/-! ## On the command line -/

namespace CommandLine

/-- A word that stands for an id is no option. -/
theorem isOption_of_isTaskId_upper {word : String} (h : isTaskId (upper word) = true) :
    isOption word = false ∧ word ≠ "--" := by
  have hhead : word.toList.head? ≠ some '-' := by
    intro hhead
    obtain ⟨rest, hrest⟩ := List.head?_eq_some_iff.1 hhead
    have hupper : (upper word).toList = '-' :: rest.flatMap upperChar := by
      rw [upper, hrest, List.flatMap_cons, String.toList_ofList]
      rfl
    rcases eq_nil_or_cons_of_isTaskId h with hnil | ⟨ds, hds, -⟩
    · rw [hupper] at hnil
      cases hnil
    · rw [hupper] at hds
      cases hds
  refine ⟨?_, ?_⟩
  · unfold isOption
    simp [hhead]
  · rintro rfl
    exact hhead rfl

theorem ofCommand_complete {word : String} (h : isTaskId (upper word) = true) (options : Options) :
    Invocation.ofCommand options "complete" [word] = .run options (.complete word) := by
  obtain ⟨hoption, hend⟩ := isOption_of_isTaskId_upper h
  have hoperands : readOperands [word] = some (false, [word]) := by
    rw [readOperands, if_neg hend, hoption]
    rfl
  unfold Invocation.ofCommand
  rw [hoperands]
  rfl

/-- Behind options that ask no question the command is carried out. -/
theorem ofArguments_complete {word : String} (h : isTaskId (upper word) = true)
    {arguments : List String} {opening : Opening}
    (hread : readOptions {} arguments = some (opening, ["complete", word]))
    (hquestion : opening.question = none) :
    Invocation.ofArguments arguments = .run opening.options (.complete word) := by
  cases arguments with
  | nil => cases hread
  | cons first rest =>
    unfold Invocation.ofArguments
    dsimp only
    rw [hread]
    dsimp only
    rw [hquestion]
    exact ofCommand_complete h opening.options

/-- The command that completes a task, with a word for the id. -/
theorem ofInstruction_complete {host : Host} {p : Project} {overrides : Overrides}
    {settings : Settings} (hsettings : p.settings overrides = .ok settings) {word id : String}
    (hword : upper word = id) {s' : Session Workspace} {next : Next}
    (h : (Session.complete host.now id).Leads ⟨p.workspace settings, none⟩ s' (.ok next)) :
    let run := Run.ofInstruction host p overrides (.complete word)
    run.reply = .completed id next ∧ run.project = { p with files := s'.store.files } := by
  obtain ⟨hsession, hanswer⟩ := h
  have hrun : Run.ofInstruction host p overrides (.complete word) =
      Run.withSettings p overrides fun s =>
        Run.ofWork host p s (fun c => Session.complete c.now (upper word))
          (.completed (upper word)) fun e => .failed (Run.completeDetails e) e := rfl
  rw [hrun, Run.withSettings, hsettings, hword]
  have hnow : (p.context host settings).now = host.now := rfl
  simp [Run.ofWork, Project.perform, hnow, hanswer, hsession]

/-- A word on the command line completes the task of a plan that has an id: behind whatever options,
as long as they ask no question, the command succeeds and sets the flag of that task. -/
def CompletesBy (host : Host) (p : Project) (overrides : Overrides) (settings : Settings)
    (plan : Plan) (word id : String) : Prop :=
  ∀ (arguments : List String) (opening : Opening),
    readOptions {} arguments = some (opening, ["complete", word]) → opening.question = none →
      opening.options.overrides = overrides →
        ∃ next after, (Run.ofInstruction host p overrides (.complete word)).reply =
            .completed id next ∧
          ((Invocation.ofArguments arguments).answer host p).exit = 0 ∧
          ((Invocation.ofArguments arguments).answer host p).project =
            { p with files := after.files } ∧
          LeftBy plan id (p.workspace settings) after

theorem completesBy_of_open {host : Host} {p : Project} {overrides : Overrides}
    {settings : Settings} (hsettings : p.settings overrides = .ok settings) {plan : Plan}
    (hload : (Store.load host.now (p.workspace settings)).2 = some plan) (hids : plan.ids.Nodup)
    {id : String} (hid : isTaskId id = true) {task : Task} (hfind : plan.find? id = some task)
    (hopen : task.completed = false) {word : String} (hword : upper word = id) :
    CompletesBy host p overrides settings plan word id := by
  rintro arguments opening hread hquestion rfl
  obtain ⟨s', next, hleads, hleft⟩ := exists_leads_complete_of_open
    (s := ⟨p.workspace settings, none⟩) hload hids hfind hopen
  obtain ⟨hreply, hproject⟩ := ofInstruction_complete hsettings hword hleads
  rw [ofArguments_complete (hword ▸ hid) hread hquestion]
  exact ⟨next, s'.store, hreply, congrArg Reply.exit hreply, hproject, hleft⟩

end CommandLine

/-- **What is offered to a user who types an id is what completing a task accepts**: the ids that begin
as typed and that would be accepted, each of them once and in the order of the plan. Whoever goes on
to type one of them, in upper case or in lower case, completes the task that has it. -/
theorem Project.completeTask_of_settings (host : Host) {p : Project} {overrides : Overrides}
    {settings : Settings} (hsettings : p.settings overrides = .ok settings)
    (hids : ∀ plan, (Store.load host.now (p.workspace settings)).2 = some plan → plan.ids.Nodup)
    (typed : String) :
    ∃ offered, (p.completeTask host overrides typed).outcome = .ok offered ∧
      offered.Nodup ∧
      (∀ plan, (Store.load host.now (p.workspace settings)).2 = some plan →
        offered.Sublist plan.ids) ∧
      (∀ id finished, id ∈ offered ↔ (upper typed).toList <+: id.toList ∧
        ∃ next, (Session.complete host.now id ⟨p.workspace settings, finished⟩).answer =
          .ok next) ∧
      ∀ id ∈ offered, upper id = id ∧ upper (String.ofList (lower id.toList)) = id ∧
        ∃ plan task, (Store.load host.now (p.workspace settings)).2 = some plan ∧
          plan.find? id = some task ∧ task.completed = false ∧
          ∀ word, upper word = id →
            CommandLine.CompletesBy host p overrides settings plan word id := by
  refine ⟨_, outcome_completeTask host hsettings typed, ?_⟩
  cases hload : (Store.load host.now (p.workspace settings)).2 with
  | none =>
    refine ⟨.nil, nofun, fun id finished => ⟨nofun, ?_⟩, nofun⟩
    rintro ⟨-, hnext⟩
    obtain ⟨plan, task, hplan, -⟩ := exists_answer_complete_iff.1 hnext
    rw [hload] at hplan
    cases hplan
  | some plan =>
    have hnodup : plan.ids.Nodup := hids plan hload
    have hmem : ∀ id, id ∈ openIds plan typed ↔ startsWith (upper typed) id = true ∧
        ∃ task, plan.find? id = some task ∧ task.completed = false :=
      fun id => mem_openIds_iff hnodup
    refine ⟨(openIds_sublist plan typed).nodup hnodup, ?_, fun id finished => ?_, fun id hid => ?_⟩
    · rintro _ ⟨⟩
      exact openIds_sublist plan typed
    · have hstarts : startsWith (upper typed) id = true ↔ (upper typed).toList <+: id.toList :=
        List.isPrefixOf_iff_prefix
      rw [exists_answer_complete_iff, ← hstarts]
      refine (hmem id).trans (and_congr_right fun _ => ⟨?_, ?_⟩)
      · rintro ⟨task, hfind, hopen⟩
        exact ⟨plan, task, hload, hfind, hopen⟩
      · rintro ⟨plan', task, hload', hfind, hopen⟩
        obtain rfl : plan = plan' := Option.some.inj (hload.symm.trans hload')
        exact ⟨task, hfind, hopen⟩
    · obtain ⟨-, task, hfind, hopen⟩ := (hmem id).1 hid
      have hvalid : isTaskId id = true := by
        have hsame : task.id = id := by simpa using List.find?_some hfind
        rw [← hsame]
        exact (TasksFile.load_of_plan hload).2 task (List.mem_of_find?_eq_some hfind)
      exact ⟨upper_of_isTaskId hvalid, upper_lower_of_isTaskId hvalid, plan, task, rfl, hfind,
        hopen, fun word hword =>
          CommandLine.completesBy_of_open hsettings hload hnodup hvalid hfind hopen hword⟩

/-- A plan with one task done, one whose id is in other digits, and one without a number. -/
def scribbled : Plan where
  workflow := "w"
  generated := motley.generated
  tasks :=
    [{ id := "T001", name := "a", description := "", source := "w", step := "a",
       completed := true },
      { id := "T٠٠٢", name := "b", description := "", source := "w", step := "b" },
      { id := "", name := "c", description := "", source := "w", step := "c" },
      { id := "T003", name := "d", description := "", source := "w", step := "d" }]

/-- A project with the plan in its tasks file. -/
def underWay : Project where
  files :=
    ⟨[(["home"], .folder), (["home", ".plait"], .folder),
      (["home", ".plait", "tasks.json"], .file (TasksFile.contents scribbled))]⟩
  root := .ofString "/home"

/-- The settings of the project; it has no settings file. -/
def underWaySettings : Settings := ({} : Settings).resolve {} underWay.root

theorem load_underWay :
    (Store.load Project.idleHost.now (underWay.workspace underWaySettings)).2 = some scribbled := by
  have hfile : (underWay.workspace underWaySettings).tasksFile =
      Store.save scribbled ⟨"/home/.plait/tasks.json", none⟩ := by
    rfl
  have hvalid : ∀ task ∈ scribbled.tasks, isTaskId task.id = true := by decide +kernel
  -- Said of any place, so that no file is evaluated.
  have hplace : ∀ w : Workspace, Store.load Project.idleHost.now w =
      Store.load Project.idleHost.now w.tasksFile := fun _ => rfl
  rw [hplace, hfile, LawfulStore.load_save scribbled _ _ hvalid]

/-- Two ids are offered; the one with other digits is accepted in lower case. -/
theorem completeTask_underWay :
    underWay.settings {} = .ok underWaySettings ∧ scribbled.ids.Nodup ∧
      (underWay.completeTask Project.idleHost {} "t").outcome = .ok ["T٠٠٢", "T003"] ∧
      CommandLine.CompletesBy Project.idleHost underWay {} underWaySettings scribbled
        "t٠٠٢" "T٠٠٢" := by
  have hsettings : underWay.settings {} = .ok underWaySettings := by rfl
  have hnodup : scribbled.ids.Nodup := by decide
  have hids : ∀ plan, (Store.load Project.idleHost.now
      (underWay.workspace underWaySettings)).2 = some plan → plan.ids.Nodup := by
    intro plan hplan
    obtain rfl := Option.some.inj (load_underWay.symm.trans hplan)
    exact hnodup
  have houtcome : (underWay.completeTask Project.idleHost {} "t").outcome =
      .ok ["T٠٠٢", "T003"] := by
    have hopen : Project.openIds scribbled "t" = ["T٠٠٢", "T003"] := by decide +kernel
    rw [Project.outcome_completeTask _ hsettings, load_underWay, Option.map_some, hopen]
    rfl
  obtain ⟨offered, hoffered, -, -, -, haccepted⟩ :=
    Project.completeTask_of_settings Project.idleHost hsettings hids "t"
  obtain rfl : ["T٠٠٢", "T003"] = offered := Except.ok.inj (houtcome.symm.trans hoffered)
  obtain ⟨-, -, plan, task, hplan, -, -, hword⟩ := haccepted "T٠٠٢" List.mem_cons_self
  obtain rfl := Option.some.inj (load_underWay.symm.trans hplan)
  exact ⟨hsettings, hnodup, houtcome, hword "t٠٠٢" (by decide +kernel)⟩

end Runbook
