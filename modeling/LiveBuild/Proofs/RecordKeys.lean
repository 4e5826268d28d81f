import LiveBuild.Proofs.Ownership
import LiveBuild.Proofs.Refusals
import LiveBuild.Proofs.Subscribers
import Mathlib.Logic.Relation

/-!
# The two keys of a record

A record is found under its destination and under the source that it was made for, and a call may
claim it by either to build it again. What is built then is the path of the claim: that path is read
and transformed, its imports are looked up from where it is, and the events name it. It is the
source of the record only if the claim was made by that key. With the other one the output is built
from itself.
-/

namespace LiveBuild.BuildSession

section Work

variable {σ : Type} [FileStore σ] {s t : BuildSession σ} {task u : BuildTask} {turn : Turn σ}
  {job : BuildJob} {past : History σ} {move : Move σ} {p d : Path} {id : Nat}

/-- A step of a task that carries out a job. -/
structure Works (s : BuildSession σ) (task : BuildTask) (job : BuildJob) (t : BuildSession σ) :
    Prop where
  stage : task.stage.job? = some job
  reads : t.transformed = s.transformed ∨
    task.stage = .read job ∧ t.transformed = s.transformed ++ [job.source]
  /-- What is transformed is what the source of the job holds. -/
  transforms : ∀ u ∈ t.tasks, u.id = task.id → ∀ other text, u.stage = .transform other text →
    other = job ∧ task.stage = .read job ∧ FileStore.readText s.store job.source = .ok text
  /-- Imports are those that the transform has found in the source of the job. -/
  answers : ∀ u ∈ t.tasks, u.id = task.id → ∀ other output, u.stage = .lookUp other output →
    other = job ∧ ∃ text, task.stage = .transform job text ∧
      s.sourceTransform job.source text (.ofSource s.store s.options job.source) = .output output
  /-- They are looked up from the source of the job. -/
  starts : ∀ u ∈ t.tasks, s.nextTask ≤ u.id → ∃ output files, task.stage = .lookUp job output ∧
    s.dependencies job.source output.imports = .ok files ∧
    ∃ q ∈ files, u.stage = .visit q (some job.dest)
  writes : t.store = s.store ∨ ∃ code locals, task.stage = .write job code locals ∧
    t.store = (FileStore.write s.store job.dest code.toUTF8).1
  tells : t.sent = s.sent ∨ ∃ result, task.stage = .finish job result ∧
    t.sent = s.sent ++ (s.register.subscribersAt job.dest).map fun addressee =>
      (addressee, job.completion (s.register.importersOf job.dest) result)

theorem works_perform (horderly : s.Orderly) (htask : task ∈ s.tasks) (hturn : Turns s task turn)
    (hcontains : s.register.targets.contains job.dest = true)
    (hjob : task.stage.job? = some job) : Works s task job (s.perform task turn) := by
  have hsame : ∀ u ∈ (s.perform task turn).tasks, u.id = task.id → u.stage = turn.stage := by
    intro u hu hid
    rw [(horderly.perform htask hturn).eq_of_id hu (after_mem_perform horderly htask turn) hid]
    rfl
  have hstarted : ∀ u ∈ (s.perform task turn).tasks, s.nextTask ≤ u.id →
      u.stage ∈ turn.spawned := by
    intro u hu hle
    rcases (mem_tasks_perform horderly htask turn).1 hu with ⟨hu, -⟩ | rfl | hu
    · exact absurd hle (Nat.not_le.2 (horderly.bound u hu))
    · exact absurd hle (Nat.not_le.2 (horderly.bound task htask))
    · exact (mem_started hu).2.2.2.2.2.2
  refine ⟨hjob, ?_, fun u hu hid other text hstage => ?_, fun u hu hid other output hstage => ?_,
    fun u hu hle => ?_, ?_, ?_⟩
  · cases hturn with
    | read hread =>
        rw [hread] at hjob ⊢
        obtain rfl := Option.some.inj hjob
        exact .inr ⟨rfl, rfl⟩
    | _ => exact .inl (List.append_nil _)
  · rw [hsame u hu hid] at hstage
    cases hturn with
    | read hread htext =>
        rw [hread] at hjob ⊢
        obtain rfl := Option.some.inj hjob
        obtain ⟨rfl, rfl⟩ := BuildTask.Stage.transform.inj hstage
        exact ⟨rfl, rfl, htext⟩
    | _ => exact BuildTask.Stage.noConfusion hstage
  · rw [hsame u hu hid] at hstage
    cases hturn with
    | transform htransform hanswer =>
        rw [htransform] at hjob ⊢
        obtain rfl := Option.some.inj hjob
        obtain ⟨rfl, rfl⟩ := BuildTask.Stage.lookUp.inj hstage
        exact ⟨rfl, _, rfl, hanswer⟩
    | _ => exact BuildTask.Stage.noConfusion hstage
  · rcases hturn.spawned_cases (hstarted u hu hle) with
      ⟨directory, requester, files, file, hstage, -⟩ |
      ⟨other, output, files, file, hstage, hfiles, hfile, -, hvisit⟩
    · rw [hstage] at hjob
      contradiction
    · rw [hstage] at hjob
      obtain rfl := Option.some.inj hjob
      exact ⟨output, files, hstage, hfiles, file, hfile, hvisit⟩
  · cases hturn with
    | asset hstage | assetFailed hstage =>
        rw [hstage] at hjob
        contradiction
    | write hstage =>
        rw [hstage] at hjob
        obtain rfl := Option.some.inj hjob
        exact .inr ⟨_, _, hstage, rfl⟩
    | _ => exact .inl rfl
  · by_cases hfinish : ∃ other result, task.stage = .finish other result
    · obtain ⟨other, result, hstage⟩ := hfinish
      rw [hstage] at hjob
      obtain rfl := Option.some.inj hjob
      refine .inr ⟨result, hstage, ?_⟩
      change s.sent ++ turn.told = _
      rw [hturn.told_finish hstage hcontains]
    · left
      suffices htold : turn.told = [] by
        change s.sent ++ turn.told = s.sent
        rw [htold, List.append_nil]
      cases hturn with
      | finish hstage | finishFailed hstage => exact absurd ⟨_, _, hstage⟩ hfinish
      | refuse e hstage | assetFailed hstage | report hstage =>
          rw [hstage] at hjob
          contradiction
      | _ => rfl

/-- A task that is through takes no turn. -/
theorem Turns.not_done (hturn : Turns s task turn) (hagenda : task.agenda = .single)
    (hstage : (∃ count, task.stage = .done count) ∨ task.stage = .crashed) : False := by
  rcases hstage with ⟨count, hstage⟩ | hstage <;> cases hturn <;> simp_all

/-- What is true of the claims of a session, and of the names under which its records are found. -/
structure Keyed (s : BuildSession σ) : Prop where
  called : s.Called
  /-- Whoever has a claim before it is the one task of its call. -/
  claims : ∀ task ∈ s.tasks, ∀ path, task.stage = .claim path →
    task.parent = none ∧ task.agenda = .single
  aliased : ∀ p d, s.register.aliases.get? p = some d → s.register.Records p d

omit [FileStore σ] in
/-- A path finds a record as its destination or as its source. -/
theorem Keyed.recordedAs_cases (h : s.Keyed) (hrecorded : s.register.recordedAs? p = some d) :
    p = d ∨ s.register.Records p d := by
  rw [Register.recordedAs?] at hrecorded
  split at hrecorded
  · exact .inl (Option.some.inj hrecorded)
  · exact .inr (h.aliased p d hrecorded)

theorem Keyed.next (h : s.Keyed) (hnext : s.make? move = some t) : t.Keyed where
  called := h.called.next hnext
  claims := by
    cases move with
    | call addressee request =>
        rw [← Option.some.inj hnext]
        intro u hu path hclaim
        rcases List.mem_append.1 hu with hu | hu
        · exact h.claims u hu path hclaim
        · rw [List.mem_singleton.1 hu] at hclaim ⊢
          refine ⟨rfl, ?_⟩
          cases request with
          | compile entries => contradiction
          | _ => rfl
    | step id =>
        obtain ⟨task, turn, hid, hturn, rfl⟩ := exists_turn hnext
        intro u hu path hclaim
        rcases (mem_tasks_perform h.called.orderly (mem_of_task? hid).1 turn).1 hu with
          ⟨hu, -⟩ | rfl | hu
        · exact h.claims u hu path hclaim
        · exact absurd hclaim (hturn.stage_ne_claim path)
        · obtain ⟨path', requester, hvisit⟩ :=
            hturn.spawned_visits _ (mem_started hu).2.2.2.2.2.2
          exact BuildTask.Stage.noConfusion (hvisit.symm.trans hclaim)
    | edit store =>
        rw [← Option.some.inj hnext]
        exact h.claims
    | collect =>
        rw [← Option.some.inj hnext]
        exact fun u hu => h.claims u (List.mem_filter.1 hu).1
  aliased := by
    cases move with
    | step id =>
        obtain ⟨task, turn, -, hturn, rfl⟩ := exists_turn hnext
        exact hturn.aliased h.aliased
    | _ =>
        rw [← Option.some.inj hnext]
        exact h.aliased

theorem Runs.keyed {store : σ} {options : BuildOptions} {sourceTransform : SourceTransform}
    (hrun : Runs (BuildSession.start store options sourceTransform) past s) : s.Keyed := by
  induction hrun with
  | start =>
      exact ⟨.start store options sourceTransform, fun _ h => (nomatch h), fun _ _ h => nomatch h⟩
  | next _ hnext ih => exact ih.next hnext

end Work

section Claimed

variable {σ : Type} [FileStore σ] {s t : BuildSession σ} {task u : BuildTask} {turn : Turn σ}
  {past later : History σ} {moment : BuildSession σ × Move σ} {move : Move σ}
  {p q d source : Path} {job : BuildJob} {id call : Nat}

/-- A task of a call comes from one path to another: it finds the second as an import of the first,
or in the first, if that is a directory. -/
def Finds (moment : BuildSession σ × Move σ) (call : Nat) (origin q : Path) : Prop :=
  ∃ task files, HasTurn moment task ∧ task.call = call ∧ q ∈ files ∧
    ((∃ job output, task.stage = .lookUp job output ∧ job.source = origin ∧
        moment.1.dependencies origin output.imports = .ok files) ∨
      ∃ requester, task.stage = .visit origin requester ∧
        moment.1.options.IsWalked moment.1.store origin ∧
        Walk.files moment.1.store moment.1.options origin = .ok files)

/-- The tasks of a call have come from one path to another in some steps. -/
def Leads (past : History σ) (call : Nat) : Path → Path → Prop :=
  Relation.TransGen fun origin q => ∃ moment ∈ past, Finds moment call origin q

theorem Leads.append (h : Leads past call p q) (later : History σ) :
    Leads (past ++ later) call p q :=
  Relation.TransGen.mono (r := fun origin q => ∃ moment ∈ past, Finds moment call origin q)
    (fun _ _ ⟨moment, hmoment, hfinds⟩ => ⟨moment, List.mem_append_left _ hmoment, hfinds⟩) _ _ h

/-- A task was at a stage when its turn came, and something was true of the session then. -/
def Passed (past : History σ) (id : Nat) (stage : BuildTask.Stage) (P : BuildSession σ → Prop) :
    Prop :=
  ∃ moment ∈ past, P moment.1 ∧ ∃ task, HasTurn moment task ∧ task.id = id ∧ task.stage = stage

/-- A task has read and transformed the source of a job, and has found its imports. -/
def Made (past : History σ) (id : Nat) (job : BuildJob) (code : String) : Prop :=
  ∃ text output files,
    Passed past id (.read job) (fun s => FileStore.readText s.store job.source = .ok text) ∧
    Passed past id (.transform job text) (fun s =>
      s.sourceTransform job.source text (.ofSource s.store s.options job.source) =
        .output output) ∧
    Passed past id (.lookUp job output) (fun s =>
      s.dependencies job.source output.imports = .ok files) ∧
    output.code = code

/-- A task has written to the destination of a job what it has made of the source. -/
def Written (past : History σ) (id : Nat) (job : BuildJob) : Prop :=
  ∃ code locals, Made past id job code ∧ Passed past id (.write job code locals) fun s =>
    (FileStore.write s.store job.dest code.toUTF8).2 = .ok ()

/-- What a task has done for a job before it has come to a stage. -/
def Trail (past : History σ) (id : Nat) (job : BuildJob) : BuildTask.Stage → Prop
  | .transform _ text =>
      Passed past id (.read job) fun s => FileStore.readText s.store job.source = .ok text
  | .lookUp _ output => ∃ text,
      Passed past id (.read job) (fun s => FileStore.readText s.store job.source = .ok text) ∧
      Passed past id (.transform job text) fun s =>
        s.sourceTransform job.source text (.ofSource s.store s.options job.source) = .output output
  | .gather (some (_, code)) => Made past id job code
  | .write _ code _ => Made past id job code
  | .finish _ (.ok _) => Written past id job
  | _ => True

/-- A task has ended a build, and has told those who are told of its destination. -/
def Ends (past : History σ) (id : Nat) (job : BuildJob) : Prop :=
  ∃ moment ∈ past, ∃ task result after, HasTurn moment task ∧ task.id = id ∧
    task.stage = .finish job result ∧ (∀ locals, result = .ok locals → Written past id job) ∧
    moment.1.make? moment.2 = some after ∧ after.sent = moment.1.sent ++
      (moment.1.register.subscribersAt job.dest).map fun addressee =>
        (addressee, job.completion (moment.1.register.importersOf job.dest) result)

/-- The transform has broken down over the source that a task builds. -/
def Breaks (past : History σ) (id : Nat) (job : BuildJob) : Prop :=
  ∃ text, Passed past id (.transform job text) fun s =>
    s.sourceTransform job.source text (.ofSource s.store s.options job.source) = .crash

omit [FileStore σ] in
theorem Passed.append {stage : BuildTask.Stage} {P : BuildSession σ → Prop}
    (h : Passed past id stage P) (later : History σ) : Passed (past ++ later) id stage P := by
  obtain ⟨moment, hmem, hpassed⟩ := h
  exact ⟨moment, List.mem_append_left _ hmem, hpassed⟩

theorem Made.append {code : String} (h : Made past id job code) (later : History σ) :
    Made (past ++ later) id job code := by
  obtain ⟨text, output, files, hread, htransform, hresolve, hcode⟩ := h
  exact ⟨text, output, files, hread.append _, htransform.append _, hresolve.append _, hcode⟩

theorem Written.append (h : Written past id job) (later : History σ) :
    Written (past ++ later) id job := by
  obtain ⟨code, locals, hmade, hwrite⟩ := h
  exact ⟨code, locals, hmade.append _, hwrite.append _⟩

theorem Trail.append {stage : BuildTask.Stage} (h : Trail past id job stage)
    (later : History σ) : Trail (past ++ later) id job stage := by
  unfold Trail at h ⊢
  split at h
  · exact h.append _
  · obtain ⟨text, hread, htransform⟩ := h
    exact ⟨text, hread.append _, htransform.append _⟩
  · exact h.append _
  · exact h.append _
  · exact h.append _
  · exact h

theorem Ends.append (h : Ends past id job) (later : History σ) : Ends (past ++ later) id job := by
  obtain ⟨moment, hmem, task, result, after, hturn, hid, hstage, hwritten, hends⟩ := h
  exact ⟨moment, List.mem_append_left _ hmem, task, result, after, hturn, hid, hstage,
    fun locals hok => (hwritten locals hok).append _, hends⟩

theorem Breaks.append (h : Breaks past id job) (later : History σ) :
    Breaks (past ++ later) id job := by
  obtain ⟨text, hpassed⟩ := h
  exact ⟨text, hpassed.append _⟩

/-- A turn adds to what its task has done. -/
theorem Trail.after (h : Trail past task.id job task.stage) (hid : s.task? task.id = some task)
    (hturn : Turns s task turn) (hjob : task.stage.job? = some job) :
    Trail (past ++ [(s, .step task.id)]) task.id job turn.stage := by
  have hnow : ∀ P : BuildSession σ → Prop, P s →
      Passed (past ++ [(s, .step task.id)]) task.id task.stage P := fun P hP =>
    ⟨_, List.mem_append_right _ (List.mem_singleton.2 rfl), hP, task, ⟨rfl, hid⟩, rfl, rfl⟩
  cases hturn with
  | @read _ text hstage htext =>
      rw [hstage] at hjob hnow
      obtain rfl := Option.some.inj hjob
      exact hnow (fun s => FileStore.readText s.store _ = .ok text) htext
  | @transform target text output hstage houtput =>
      rw [hstage] at hjob hnow h
      obtain rfl := Option.some.inj hjob
      have hread : Passed past task.id (.read target) fun s =>
        FileStore.readText s.store target.source = .ok text := h
      exact ⟨text, hread.append _, hnow (fun s => s.sourceTransform _ text _ = .output output)
        houtput⟩
  | @resolve _ output files hstage hfiles =>
      rw [hstage] at hjob hnow h
      obtain rfl := Option.some.inj hjob
      obtain ⟨text, hread, htransform⟩ := h
      exact ⟨text, output, files, hread.append _, htransform.append _,
        hnow (fun s => s.dependencies _ output.imports = .ok files) hfiles, rfl⟩
  | gatherFile hstage =>
      rw [hstage] at h
      exact Made.append h _
  | @write target code locals result hstage hresult =>
      rw [hstage] at hjob hnow h
      obtain rfl := Option.some.inj hjob
      change Trail _ _ _ (.finish target result)
      cases hwrite : (FileStore.write s.store target.dest code.toUTF8).2 with
      | error f =>
          rw [hresult, hwrite]
          exact trivial
      | ok _ =>
          rw [hresult, hwrite]
          exact ⟨code, locals, Made.append h _,
            hnow (fun s => (FileStore.write s.store _ code.toUTF8).2 = .ok ()) hwrite⟩
  | _ => exact trivial

/-- What a task of a call is about: a path that the call has come to. -/
structure Follows (past : History σ) (call : Nat) (p : Path) (task : BuildTask) : Prop where
  agenda : task.agenda = .single
  claim : ∀ path, task.stage ≠ .claim path
  visit : ∀ path requester, task.stage = .visit path requester → Leads past call p path
  job : ∀ job, task.stage.job? = some job → Leads past call p job.source

/-- What is true of a session since a call has claimed a record. -/
structure Carrying (past : History σ) (id call : Nat) (job : BuildJob) (source : Path)
    (s : BuildSession σ) : Prop where
  called : s.Called
  id_lt : id < s.nextTask
  call_lt : call < s.nextCall
  recorded : s.register.sourceAt job.dest = some source
  root : ∀ u ∈ s.tasks, u.id = id → u.agenda = .single ∧ (u.stage.job? = some job ∨
    (∃ count, u.stage = .done count) ∨ u.stage = .crashed)
  trail : ∀ u ∈ s.tasks, u.id = id → Trail past id job u.stage
  others : ∀ u ∈ s.tasks, u.call = call → u.id ≠ id → Follows past call job.source u
  progress : (∃ u ∈ s.tasks, u.id = id ∧ u.stage.job? = some job) ∨ Ends past id job ∨
    Breaks past id job

theorem Follows.append (h : Follows past call p task) (later : History σ) :
    Follows (past ++ later) call p task where
  agenda := h.agenda
  claim := h.claim
  visit path requester hvisit := (h.visit path requester hvisit).append later
  job job hjob := (h.job job hjob).append later

namespace Carrying

section Turn

variable (h : Carrying past id call job source s) (hu : u ∈ s.tasks) (hturn : Turns s u turn)
include h hu hturn

/-- What a task of the call starts with was found by it. -/
theorem follows_started {v : BuildTask} (hcall : u.call = call)
    (hv : v ∈ s.started u turn.spawned) :
    Follows (past ++ [(s, .step u.id)]) call job.source v := by
  obtain ⟨-, -, -, hagenda, -, -, hspawned⟩ := mem_started hv
  have hmoment : HasTurn (s, .step u.id) u := ⟨rfl, h.called.orderly.task?_eq hu⟩
  suffices hleads : ∀ file requester, v.stage = .visit file requester →
      Leads (past ++ [(s, .step u.id)]) call job.source file by
    obtain ⟨file, requester, hvisit⟩ := hturn.spawned_visits _ hspawned
    refine ⟨hagenda, fun path hclaim => ?_, hleads, fun other hjob => ?_⟩
    · exact BuildTask.Stage.noConfusion (hvisit.symm.trans hclaim)
    · rw [hvisit] at hjob
      contradiction
  intro file requester hvisit
  rcases hturn.spawned_cases hspawned with
    ⟨directory, _, files, other, hstage, hwalked, hfiles, hfile, -, hother⟩ |
    ⟨other, output, files, file', hstage, hfiles, hfile, -, hother⟩
  · obtain ⟨rfl, -⟩ := BuildTask.Stage.visit.inj (hvisit.symm.trans hother)
    have hne : u.id ≠ id := by
      intro hid
      obtain ⟨-, hroot⟩ := h.root u hu hid
      rw [hstage] at hroot
      simp [BuildTask.Stage.job?] at hroot
    exact (((h.others u hu hcall hne).visit _ _ hstage).append _).tail
      ⟨_, List.mem_append_right _ (List.mem_singleton.2 rfl), u, files, hmoment, hcall, hfile,
        .inr ⟨_, hstage, hwalked, hfiles⟩⟩
  · obtain ⟨rfl, -⟩ := BuildTask.Stage.visit.inj (hvisit.symm.trans hother)
    have hfinds : ∃ moment ∈ past ++ [(s, .step u.id)], Finds moment call other.source file :=
      ⟨_, List.mem_append_right _ (List.mem_singleton.2 rfl), u, files, hmoment, hcall, hfile,
        .inl ⟨other, output, hstage, rfl, hfiles⟩⟩
    by_cases hid : u.id = id
    · obtain ⟨-, hroot⟩ := h.root u hu hid
      rw [hstage] at hroot
      obtain rfl : other = job := by simpa [BuildTask.Stage.job?] using hroot
      exact .single hfinds
    · have hjob : u.stage.job? = some other := by rw [hstage]; rfl
      exact (((h.others u hu hcall hid).job _ hjob).append _).tail hfinds

/-- A task that the call has started goes on with what the call has come to. -/
theorem follows_after (hcall : u.call = call) (hne : u.id ≠ id) :
    Follows (past ++ [(s, .step u.id)]) call job.source (turn.after u) := by
  have hfollows := h.others u hu hcall hne
  refine ⟨hturn.agenda_eq hfollows.agenda, hturn.stage_ne_claim, fun path requester hvisit => ?_,
    fun other hjob => ?_⟩
  · rcases hturn.visit_cases hvisit with hclaim | ⟨_, _, _, _, -, hagenda, -⟩
    · exact absurd hclaim (hfollows.claim path)
    · rw [hfollows.agenda] at hagenda
      contradiction
  · rcases hturn.job?_cases hjob with ⟨hgrants, -⟩ | ⟨hjob, -⟩
    · cases hgrants with
      | first hvisit => exact (hfollows.visit _ _ hvisit).append _
      | again hclaim => exact absurd hclaim (hfollows.claim _)
    · exact (hfollows.job other hjob).append _

theorem progress_turn (hstep : s.step? u.id = some (s.perform u turn)) :
    (∃ v ∈ (s.perform u turn).tasks, v.id = id ∧ v.stage.job? = some job) ∨
      Ends (past ++ [(s, .step u.id)]) id job ∨ Breaks (past ++ [(s, .step u.id)]) id job := by
  have hmoment : HasTurn (s, .step u.id) u := ⟨rfl, h.called.orderly.task?_eq hu⟩
  rcases h.progress with ⟨v, hv, hid, hjob⟩ | hends | hbreaks
  · by_cases hvu : v = u
    · subst hvu
      rcases hturn.job?_next hjob with hnext | ⟨result, count, hfinish, -⟩ |
        ⟨text, htransform, -, hcrash⟩
      · exact .inl ⟨_, after_mem_perform h.called.orderly hu turn, hid, hnext⟩
      · refine .inr (.inl ⟨_, List.mem_append_right _ (List.mem_singleton.2 rfl), v, result, _,
          hmoment, hid, hfinish, fun locals hok => ?_, hstep, ?_⟩)
        · have htrail := h.trail v hv hid
          rw [hfinish, hok] at htrail
          exact Written.append htrail _
        · change s.sent ++ turn.told = _
          rw [hturn.told_finish hfinish (Register.contains_iff_sourceAt.2 ⟨source, h.recorded⟩)]
      · exact .inr (.inr ⟨text, _, List.mem_append_right _ (List.mem_singleton.2 rfl), hcrash, v,
          hmoment, hid, htransform⟩)
    · exact .inl ⟨v, mem_perform_of_job? h.called.orderly hu hturn hv hvu hjob, hid, hjob⟩
  · exact .inr (.inl (hends.append _))
  · exact .inr (.inr (hbreaks.append _))

theorem perform (hstep : s.step? u.id = some (s.perform u turn)) :
    Carrying (past ++ [(s, .step u.id)]) id call job source (s.perform u turn) where
  called := h.called.perform hu hturn
  id_lt := Nat.lt_add_right _ h.id_lt
  call_lt := h.call_lt
  recorded := hturn.sourceAt_eq h.recorded
  root v hv hid := by
    rcases (mem_tasks_perform h.called.orderly hu turn).1 hv with ⟨hv, -⟩ | rfl | hv
    · exact h.root v hv hid
    · obtain ⟨hagenda, hjob | hthrough⟩ := h.root u hu hid
      · refine ⟨hturn.agenda_eq hagenda, ?_⟩
        rcases hturn.job?_next hjob with hnext | ⟨-, count, -, hdone⟩ | ⟨-, -, hcrashed, -⟩
        · exact .inl hnext
        · exact .inr (.inl ⟨count, hdone⟩)
        · exact .inr (.inr hcrashed)
      · exact (hturn.not_done hagenda hthrough).elim
    · have hle := (mem_started hv).2.2.2.2.1
      rw [hid] at hle
      exact absurd h.id_lt (Nat.not_lt.2 hle)
  trail v hv hid := by
    rcases (mem_tasks_perform h.called.orderly hu turn).1 hv with ⟨hv, -⟩ | rfl | hv
    · exact (h.trail v hv hid).append _
    · obtain rfl : u.id = id := hid
      obtain ⟨-, hjob | hthrough⟩ := h.root u hu rfl
      · exact Trail.after (h.trail u hu rfl) (h.called.orderly.task?_eq hu) hturn hjob
      · exact (hturn.not_done (h.root u hu rfl).1 hthrough).elim
    · have hle := (mem_started hv).2.2.2.2.1
      rw [hid] at hle
      exact absurd h.id_lt (Nat.not_lt.2 hle)
  others v hv hcall hne := by
    rcases (mem_tasks_perform h.called.orderly hu turn).1 hv with ⟨hv, -⟩ | rfl | hv
    · exact (h.others v hv hcall hne).append _
    · exact h.follows_after hu hturn hcall hne
    · exact h.follows_started hu hturn ((mem_started hv).2.2.1.symm.trans hcall) hv
  progress := h.progress_turn hu hturn hstep

end Turn

theorem next (h : Carrying past id call job source s) (hnext : s.make? move = some t) :
    Carrying (past ++ [(s, move)]) id call job source t := by
  have hcalled := h.called.next hnext
  have hpast : Ends past id job ∨ Breaks past id job →
      Ends (past ++ [(s, move)]) id job ∨ Breaks (past ++ [(s, move)]) id job :=
    Or.imp (·.append _) (·.append _)
  cases move with
  | call addressee request =>
      rw [← Option.some.inj hnext] at hcalled ⊢
      have hmem : ∀ u ∈ (s.call addressee request).1.tasks, u ∈ s.tasks ∨
          u.id = s.nextTask ∧ u.call = s.nextCall := by
        intro u hu
        refine (List.mem_append.1 hu).imp_right fun hu => ?_
        rw [List.mem_singleton.1 hu]
        exact ⟨rfl, rfl⟩
      refine ⟨hcalled, Nat.lt_succ_of_lt h.id_lt, Nat.lt_succ_of_lt h.call_lt, h.recorded,
        fun u hu hid => ?_, fun u hu hid => ?_, fun u hu hcall hne => ?_, ?_⟩
      · rcases hmem u hu with hu | ⟨hu, -⟩
        · exact h.root u hu hid
        · exact absurd (hid.symm.trans hu) (Nat.ne_of_lt h.id_lt)
      · rcases hmem u hu with hu | ⟨hu, -⟩
        · exact (h.trail u hu hid).append _
        · exact absurd (hid.symm.trans hu) (Nat.ne_of_lt h.id_lt)
      · rcases hmem u hu with hu | ⟨-, hu⟩
        · exact (h.others u hu hcall hne).append _
        · exact absurd (hcall.symm.trans hu) (Nat.ne_of_lt h.call_lt)
      · exact h.progress.imp (fun ⟨u, hu, hjob⟩ => ⟨u, List.mem_append_left _ hu, hjob⟩) hpast
  | step other =>
      obtain ⟨u, turn, hid, hturn, rfl⟩ := exists_turn hnext
      obtain ⟨hu, rfl⟩ := mem_of_task? hid
      exact h.perform hu hturn hnext
  | edit store =>
      rw [← Option.some.inj hnext] at hcalled ⊢
      exact ⟨hcalled, h.id_lt, h.call_lt, h.recorded, h.root,
        fun u hu hid => (h.trail u hu hid).append _,
        fun u hu hcall hne => (h.others u hu hcall hne).append _,
        h.progress.imp (fun hjob => hjob) hpast⟩
  | collect =>
      rw [← Option.some.inj hnext] at hcalled ⊢
      have hmem : ∀ u ∈ s.collect.1.tasks, u ∈ s.tasks := fun u hu => (List.mem_filter.1 hu).1
      exact ⟨hcalled, h.id_lt, h.call_lt, h.recorded, fun u hu => h.root u (hmem u hu),
        fun u hu hid => (h.trail u (hmem u hu) hid).append _,
        fun u hu hcall hne => (h.others u (hmem u hu) hcall hne).append _,
        h.progress.imp (fun ⟨u, hu, hid, hjob⟩ => ⟨u, mem_collect_of_job? hu hjob, hid, hjob⟩)
          hpast⟩

end Carrying

theorem Carrying.run {first : BuildSession σ} (h : Carrying [] id call job source first)
    (hrun : Runs first later t) : Carrying later id call job source t := by
  induction hrun with
  | start => exact h
  | next _ hnext ih => exact ih.next hnext

theorem Carrying.works (h : Carrying past id call job source s) (hu : u ∈ s.tasks)
    (hid : u.id = id) (hstep : s.step? u.id = some t) : Works s u job t := by
  obtain ⟨v, turn, hv, hturn, rfl⟩ := exists_turn hstep
  obtain rfl : u = v := Option.some.inj ((h.called.orderly.task?_eq hu).symm.trans hv)
  obtain ⟨hagenda, hjob | hthrough⟩ := h.root u hu hid
  · exact works_perform h.called.orderly hu hturn
      (Register.contains_iff_sourceAt.2 ⟨source, h.recorded⟩) hjob
  · exact (hturn.not_done hagenda hthrough).elim

/-- Whatever else the call builds was found by it. -/
theorem Carrying.leads {other : BuildJob} (h : Carrying past id call job source s)
    (hu : u ∈ s.tasks) (hcall : u.call = call) (hgrants : s.Grants u other) :
    Leads past call job.source other.source := by
  have hjob := hgrants.job?_eq_none
  have hne : u.id ≠ id := by
    intro hid
    obtain ⟨-, hroot⟩ := h.root u hu hid
    cases hgrants <;> simp_all
  have hfollows := h.others u hu hcall hne
  cases hgrants with
  | first hvisit => exact hfollows.visit _ _ hvisit
  | again hclaim => exact absurd hclaim (hfollows.claim _)

/-- A claim of a record that is not being built is granted. -/
theorem Keyed.carrying (h : s.Keyed) (htask : s.task? id = some task)
    (hclaim : task.stage = .claim p) (hrecorded : s.register.recordedAs? p = some d)
    (hsource : s.register.sourceAt d = some source)
    (hidle : s.register.statusAt d ≠ some .building) (hstep : s.step? id = some t) :
    Carrying [] id task.call ⟨p, d⟩ source t := by
  obtain ⟨u, turn, hu, hturn, rfl⟩ := exists_turn hstep
  obtain rfl : task = u := Option.some.inj (htask.symm.trans hu)
  obtain ⟨hmem, rfl⟩ := mem_of_task? htask
  obtain ⟨hparent, hagenda⟩ := h.claims task hmem p hclaim
  have hgrants : s.Grants task ⟨p, d⟩ := by
    refine .again hclaim ?_
    rw [Register.reopen_answer hrecorded (Register.contains_iff_sourceAt.2 ⟨source, hsource⟩),
      if_neg hidle]
  have hafter := hturn.stage_of_grants hgrants
  have htasks : ∀ u ∈ (s.perform task turn).tasks, u = turn.after task ∨
      u ∈ s.tasks ∧ u.id ≠ task.id := by
    intro u hu
    rcases (mem_tasks_perform h.called.orderly hmem turn).1 hu with ⟨hu, hne, -⟩ | rfl | hu
    · exact .inr ⟨hu, hne⟩
    · exact .inl rfl
    · rcases hturn.spawned_cases (mem_started hu).2.2.2.2.2.2 with
        ⟨_, _, _, _, hstage, -⟩ | ⟨_, _, _, _, hstage, -⟩
      · exact BuildTask.Stage.noConfusion (hclaim.symm.trans hstage)
      · exact BuildTask.Stage.noConfusion (hclaim.symm.trans hstage)
  refine ⟨h.called.perform hmem hturn, ?_, h.called.calls task hmem, hturn.sourceAt_eq hsource,
    fun u hu hid => ?_, fun u hu hid => ?_, fun u hu hcall hne => ?_,
    .inl ⟨_, after_mem_perform h.called.orderly hmem turn, rfl, ?_⟩⟩
  · exact Nat.lt_add_right _ (h.called.orderly.bound task hmem)
  · rcases htasks u hu with rfl | ⟨-, hne⟩
    · exact ⟨hturn.agenda_eq hagenda, .inl (congrArg BuildTask.Stage.job? hafter)⟩
    · exact absurd hid hne
  · rcases htasks u hu with rfl | ⟨-, hne⟩
    · change Trail _ _ _ turn.stage
      rw [hafter]
      exact trivial
    · exact absurd hid hne
  · rcases htasks u hu with rfl | ⟨hu, -⟩
    · exact absurd rfl hne
    · have hidle : ¬ task.IsWaiting := by
        rintro ⟨pending, hwaiting⟩
        exact BuildTask.Stage.noConfusion (hclaim.symm.trans hwaiting)
      exact absurd (congrArg BuildTask.id (h.called.eq_root hmem hparent hidle hu hcall)) hne
  · exact congrArg BuildTask.Stage.job? hafter

/-- A record that is claimed by one of its keys is built from the path of the claim: that path is
read and transformed, its imports are looked up from where it is, and the end of the build names it
to all who are told of the destination, unless the transform breaks down over it. So the source of
the record is built again if it was claimed by that key, and its output is built from itself if it
was claimed by the other. The source of the record stays what it was, and whatever else the call
builds was found by it as an import, from the path of the claim on. -/
theorem claimed_path_is_built {store : σ} {options : BuildOptions}
    {sourceTransform : SourceTransform} {earlier : History σ}
    (hrun : Runs (BuildSession.start store options sourceTransform) past t)
    (hpast : past = earlier ++ (s, .step id) :: later) (htask : s.task? id = some task)
    (hclaim : task.stage = .claim p) (hrecorded : s.register.recordedAs? p = some d)
    (hsource : s.register.sourceAt d = some source)
    (hidle : s.register.statusAt d ≠ some .building) :
    (p = d ∨ p.components = source.components) ∧
    (∀ moment ∈ later, ∀ u after, HasTurn moment u → u.id = id →
      moment.1.make? moment.2 = some after → Works moment.1 u ⟨p, d⟩ after) ∧
    ((∃ u ∈ t.tasks, u.id = id ∧ u.stage.job? = some ⟨p, d⟩) ∨ Ends later id ⟨p, d⟩ ∨
      Breaks later id ⟨p, d⟩) ∧
    t.register.sourceAt d = some source ∧
    ∀ moment ∈ later, ∀ u job, HasTurn moment u → u.call = task.call → moment.1.Grants u job →
      Leads later task.call p job.source := by
  obtain ⟨hearlier, after, hstep, hlater⟩ := hrun.at_moment hpast
  have hkeyed := hearlier.keyed
  have hcarrying := hkeyed.carrying htask hclaim hrecorded hsource hidle hstep
  have hmoment : ∀ moment ∈ later, ∃ before rest, later = before ++ moment :: rest ∧
      Carrying before id task.call ⟨p, d⟩ source moment.1 := by
    intro moment hmem
    obtain ⟨before, rest, hsplit⟩ := List.append_of_mem hmem
    exact ⟨before, rest, hsplit, hcarrying.run (hlater.at_moment hsplit).1⟩
  refine ⟨?_, fun moment hmem u after hturn hid hafter => ?_, (hcarrying.run hlater).progress,
    (hcarrying.run hlater).recorded, fun moment hmem u job hturn hcall hgrants => ?_⟩
  · refine (hkeyed.recordedAs_cases hrecorded).imp_right fun ⟨other, hother, hcomponents⟩ => ?_
    obtain rfl := Option.some.inj (hsource.symm.trans hother)
    exact hcomponents.symm
  · obtain ⟨before, rest, -, hthen⟩ := hmoment moment hmem
    rw [hturn.1] at hafter
    exact hthen.works (mem_of_task? hturn.2).1 hid hafter
  · obtain ⟨before, rest, rfl, hthen⟩ := hmoment moment hmem
    exact (hthen.leads (mem_of_task? hturn.2).1 hcall hgrants).append _

end Claimed

/-! ### A record that is claimed by its destination -/

section Output

def pairTree : FileTree :=
  (FileTree.empty.putFile "/p/a.js" "import \"./b.js\"".toUTF8).putFile "/p/b.js" "b".toUTF8

def pairOptions : BuildOptions :=
  { baseDir := "/p", outDir := "/p/out", extensions := [".js"], resolveExtensions := [".js"],
    exclude := [], assets := ⟨[], [], "", ""⟩, extra := {} }

/-- A file and its import are built. Then the output of the file is claimed, and built with all that
it imports. -/
def outputMoves : List (Move FileTree) × List (Move FileTree) :=
  (Move.call ⟨1, 0⟩ (.compile ["a.js"]) :: List.replicate 5 (Move.step 0) ++
      List.replicate 7 (Move.step 1) ++ List.replicate 4 (Move.step 0) ++
      [Move.call ⟨1, 0⟩ (.rebuild "/p/out/a.js")],
    List.replicate 4 (Move.step 2) ++ List.replicate 7 (Move.step 3) ++
      List.replicate 3 (Move.step 2))

def isClaimed (s : BuildSession FileTree) : Bool :=
  (s.task? 2).any (fun task => decide (task.call = 1) && match task.stage with
    | .claim path => decide (path = "/p/out/a.js")
    | _ => false) &&
  decide (s.register.recordedAs? "/p/out/a.js" = some (.ofString "/p/out/a.js")) &&
  decide (s.register.sourceAt "/p/out/a.js" = some (.ofString "/p/a.js")) &&
  decide (s.register.statusAt "/p/out/a.js" ≠ some .building) &&
  decide (s.register.sourceAt "/p/out/out/b.js" = none)

def isBuiltFromOutput (s t : BuildSession FileTree) : Bool :=
  decide (t.transformed = s.transformed ++ (["/p/out/a.js", "/p/out/b.js"] : List Path)) &&
  decide (t.sent = s.sent ++ [(⟨1, 0⟩, .fileBuilt "/p/out/b.js" "/p/out/out/b.js" 0
    ["/p/out/a.js"]), (⟨1, 0⟩, .fileBuilt "/p/out/a.js" "/p/out/a.js" 1 [])]) &&
  decide (t.register.sourceAt "/p/out/out/b.js" = some (.ofString "/p/out/b.js"))

theorem exists_output : ∃ earlier later s t task,
    Runs (start pairTree pairOptions .scan) (earlier ++ (s, .step 2) :: later) t ∧
      s.task? 2 = some task ∧ task.call = 1 ∧ task.stage = .claim "/p/out/a.js" ∧
      isClaimed s = true ∧ isBuiltFromOutput s t = true := by
  have houtput : ((start pairTree pairOptions .scan).replay? outputMoves.1).any
      (fun before => (before.2.replay? outputMoves.2).any fun after =>
        isClaimed before.2 && isBuiltFromOutput before.2 after.2) = true := by
    decide +kernel
  obtain ⟨⟨earlier, s⟩, hearlier, houtput⟩ := (Option.any_eq_true _ _).1 houtput
  obtain ⟨⟨later, t⟩, hlater, hcheck⟩ := (Option.any_eq_true _ _).1 houtput
  have hrun := (Runs.start.replay hearlier).replay hlater
  obtain ⟨rest, rfl⟩ := exists_cons_of_replay? hlater
  obtain ⟨hclaimed, hbuilt⟩ := Bool.and_eq_true_iff.1 hcheck
  have hclaim := hclaimed
  simp only [isClaimed, Bool.and_eq_true, decide_eq_true_eq, Option.any_eq_true] at hclaim
  obtain ⟨⟨⟨⟨⟨task, htask, hcall, hstage⟩, -⟩, -⟩, -⟩, -⟩ := hclaim
  refine ⟨earlier, rest, s, t, task, hrun, htask, hcall, ?_, hclaimed, hbuilt⟩
  split at hstage
  · rw [← of_decide_eq_true hstage]
    assumption
  · exact absurd hstage Bool.false_ne_true

/-- The output of a file is built from itself, and the output of its import, which it finds next to
it, is built too. -/
theorem claimed_path_is_built_output : ∃ earlier later s t,
    Runs (start pairTree pairOptions .scan) (earlier ++ (s, .step 2) :: later) t ∧
      s.register.recordedAs? "/p/out/a.js" = some (.ofString "/p/out/a.js") ∧
      s.register.sourceAt "/p/out/a.js" = some (.ofString "/p/a.js") ∧
      s.register.statusAt "/p/out/a.js" ≠ some .building ∧
      ((∃ u ∈ t.tasks, u.id = 2 ∧ u.stage.job? = some ⟨"/p/out/a.js", "/p/out/a.js"⟩) ∨
        Ends later 2 ⟨"/p/out/a.js", "/p/out/a.js"⟩ ∨
        Breaks later 2 ⟨"/p/out/a.js", "/p/out/a.js"⟩) ∧
      t.register.sourceAt "/p/out/a.js" = some (.ofString "/p/a.js") := by
  obtain ⟨earlier, later, s, t, task, hrun, htask, -, hclaim, hclaimed, -⟩ := exists_output
  simp only [isClaimed, Bool.and_eq_true, decide_eq_true_eq] at hclaimed
  obtain ⟨⟨⟨⟨-, hrecorded⟩, hsource⟩, hidle⟩, -⟩ := hclaimed
  obtain ⟨-, -, hprogress, hkept, -⟩ :=
    claimed_path_is_built hrun rfl htask hclaim hrecorded hsource hidle
  exact ⟨earlier, later, s, t, hrun, hrecorded, hsource, hidle, hprogress, hkept⟩

/-- The source of the record is not built again, and a record is made for an output that no source
imports. -/
theorem not_source_built_output : ∃ earlier later s t,
    Runs (start pairTree pairOptions .scan) (earlier ++ (s, .step 2) :: later) t ∧
      (∃ task, s.task? 2 = some task ∧ task.stage = .claim "/p/out/a.js") ∧
      s.register.recordedAs? "/p/out/a.js" = some (.ofString "/p/out/a.js") ∧
      s.register.sourceAt "/p/out/a.js" = some (.ofString "/p/a.js") ∧
      s.register.statusAt "/p/out/a.js" ≠ some .building ∧
      t.transformed = s.transformed ++ (["/p/out/a.js", "/p/out/b.js"] : List Path) ∧
      t.sent = s.sent ++ [(⟨1, 0⟩, .fileBuilt "/p/out/b.js" "/p/out/out/b.js" 0 ["/p/out/a.js"]),
        (⟨1, 0⟩, .fileBuilt "/p/out/a.js" "/p/out/a.js" 1 [])] ∧
      s.register.sourceAt "/p/out/out/b.js" = none ∧
      t.register.sourceAt "/p/out/out/b.js" = some (.ofString "/p/out/b.js") := by
  obtain ⟨earlier, later, s, t, task, hrun, htask, -, hclaim, hclaimed, hbuilt⟩ := exists_output
  simp only [isClaimed, Bool.and_eq_true, decide_eq_true_eq] at hclaimed
  obtain ⟨⟨⟨⟨-, hrecorded⟩, hsource⟩, hidle⟩, hnone⟩ := hclaimed
  simp only [isBuiltFromOutput, Bool.and_eq_true, decide_eq_true_eq] at hbuilt
  obtain ⟨⟨htransformed, hsent⟩, hsome⟩ := hbuilt
  exact ⟨earlier, later, s, t, hrun, ⟨task, htask, hclaim⟩, hrecorded, hsource, hidle,
    htransformed, hsent, hnone, hsome⟩

end Output

end LiveBuild.BuildSession
