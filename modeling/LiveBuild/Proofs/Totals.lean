import LiveBuild.Proofs.RecordKeys
import LiveBuild.Proofs.Reports
import LiveBuild.Proofs.Tally
import Mathlib.Tactic.IntervalCases

/-!
# Totals of concurrent calls

A build of a target is granted to one task, and counts for the call of that task if it succeeds;
whoever only joins it counts nothing. So every call returns the number of targets that were built
for it and of assets that it has put out. No target is counted twice, unless a call to rebuild it
has claimed it again.
-/

namespace LiveBuild.BuildSession

variable {σ : Type} {s t : BuildSession σ} {past later : History σ}
  {moment : BuildSession σ × Move σ} {move : Move σ} {task u : BuildTask} {turn : Turn σ}
  {job : BuildJob} {call id : Nat} {d : Path}

/-- A call was made to build a changed file again. -/
def IsRebuild (past : History σ) (call : Nat) : Prop :=
  ∃ moment ∈ past, ∃ addressee path, moment.2 = .call addressee (.rebuild path) ∧
    moment.1.nextCall = call

theorem IsRebuild.append (h : IsRebuild past call) (later : History σ) :
    IsRebuild (past ++ later) call := by
  obtain ⟨moment, hmoment, hrebuild⟩ := h
  exact ⟨moment, List.mem_append_left _ hmoment, hrebuild⟩

/-- The destinations that were built for a call. -/
def builtFor (past : History σ) (call : Nat) : List Path :=
  (ofCalls (fun other => other == call) (completed past)).map BuildJob.dest

theorem mem_builtFor : d ∈ builtFor past call ↔
    ∃ job, (call, job) ∈ completed past ∧ job.dest = d := by
  simp [builtFor, mem_ofCalls]

theorem completed_snoc (past : History σ) (moment : BuildSession σ × Move σ) :
    completed (past ++ [moment]) = completed past ++ completed [moment] := noted_snoc _ _ _

theorem mem_completed_step (hid : s.task? id = some task) {entry : Nat × BuildJob} :
    entry ∈ completed [(s, .step id)] ↔
      entry.1 = task.call ∧ task.stage.completed? = some entry.2 := by
  obtain ⟨call, job⟩ := entry
  rw [completed, noted_step _ hid, Option.mem_toList, Option.map_eq_some_iff]
  simp [and_comm, eq_comm]

theorem completed?_eq_some {stage : BuildTask.Stage} :
    stage.completed? = some job ↔ ∃ locals, stage = .finish job (.ok locals) := by
  unfold BuildTask.Stage.completed?
  split <;> simp_all

theorem mem_completed : (call, job) ∈ completed past ↔ ∃ moment ∈ past, ∃ task locals,
    HasTurn moment task ∧ task.call = call ∧ task.stage = .finish job (.ok locals) := by
  rw [completed, mem_noted]
  simp only [completed?_eq_some]
  constructor
  · rintro ⟨moment, hmoment, task, hturn, hcall, locals, hstage⟩
    exact ⟨moment, hmoment, task, locals, hturn, hcall, hstage⟩
  · rintro ⟨moment, hmoment, task, locals, hturn, hcall, hstage⟩
    exact ⟨moment, hmoment, task, hturn, hcall, locals, hstage⟩

variable [FileStore σ]

/-- The assets that were put out for a call. -/
def emittedFor (past : History σ) (call : Nat) : List Path :=
  ofCalls (fun other => other == call) (emitted past)

/-- A task was granted a build before. -/
def WasGranted (past : History σ) (task : BuildTask) (job : BuildJob) : Prop :=
  ∃ grant ∈ past, ∃ u, HasTurn grant u ∧ u.id = task.id ∧ u.call = task.call ∧
    grant.1.Grants u job

/-- A task has written the output of a build before. -/
def HasWritten (past : History σ) (task : BuildTask) (job : BuildJob) : Prop :=
  ∃ code locals, Passed past task.id (.write job code locals) fun s =>
    (FileStore.write s.store job.dest code.toUTF8).2 = .ok ()

/-- The build of a destination was granted to a task of a call, which has written the output and has
ended the build with success. -/
def Accomplished (past : History σ) (call : Nat) (d : Path) : Prop :=
  ∃ earlier moment later task job locals, past = earlier ++ moment :: later ∧
    HasTurn moment task ∧ task.call = call ∧ task.stage = .finish job (.ok locals) ∧
    job.dest.components = d.components ∧ WasGranted earlier task job ∧ HasWritten earlier task job

theorem WasGranted.append (h : WasGranted past task job) (later : History σ) :
    WasGranted (past ++ later) task job := by
  obtain ⟨grant, hgrant, hu⟩ := h
  exact ⟨grant, List.mem_append_left _ hgrant, hu⟩

theorem HasWritten.append (h : HasWritten past task job) (later : History σ) :
    HasWritten (past ++ later) task job := by
  obtain ⟨code, locals, hpassed⟩ := h
  exact ⟨code, locals, hpassed.append later⟩

/-- What is true of a session whose calls were credited with what was built for them. -/
structure Credited (past : History σ) (s : BuildSession σ) : Prop where
  keyed : s.Keyed
  owned : s.Owned
  below : ∀ entry ∈ completed past, entry.1 < s.nextCall
  recorded : ∀ entry ∈ completed past, s.register.targets.contains entry.2.dest = true
  /-- Nothing was built for a call yet that still has its claim before it. -/
  fresh : ∀ task ∈ s.tasks, ∀ path, task.stage = .claim path →
    IsRebuild past task.call ∧ ∀ entry ∈ completed past, entry.1 ≠ task.call
  /-- Whoever builds a target again has claimed it. -/
  again : ∀ entry ∈ completed past, ∀ task ∈ s.tasks, ∀ job, task.stage.job? = some job →
    job.dest.components = entry.2.dest.components →
    entry.1 ≠ task.call ∧ IsRebuild past task.call
  granted : ∀ task ∈ s.tasks, ∀ job, task.stage.job? = some job → WasGranted past task job
  written : ∀ task ∈ s.tasks, ∀ job locals, task.stage = .finish job (.ok locals) →
    HasWritten past task job
  once : (completed past).Pairwise fun a b => b.2.dest.components = a.2.dest.components →
    a.1 ≠ b.1 ∧ IsRebuild past b.1

namespace Credited

theorem start (store : σ) (options : BuildOptions) (sourceTransform : SourceTransform) :
    Credited [] (BuildSession.start store options sourceTransform) where
  keyed := Runs.keyed .start
  owned _ := Nat.zero_le _
  below _ h := nomatch h
  recorded _ h := nomatch h
  fresh _ h := nomatch h
  again _ h := nomatch h
  granted _ h := nomatch h
  written _ h := nomatch h
  once := .nil

/-- Moves other than steps build nothing. -/
theorem other (h : Credited past s) (hmove : ∀ id, move ≠ .step id) (hkeyed : t.Keyed)
    (howned : t.Owned) (hcalls : s.nextCall ≤ t.nextCall) (hregister : t.register = s.register)
    (htasks : ∀ u ∈ t.tasks, u ∈ s.tasks ∨ u.stage.job? = none ∧ ∀ path, u.stage = .claim path →
      IsRebuild (past ++ [(s, move)]) u.call ∧ ∀ call < s.nextCall, call ≠ u.call) :
    Credited (past ++ [(s, move)]) t := by
  have hnone : completed [(s, move)] = [] := noted_other _ hmove
  have hsame : completed (past ++ [(s, move)]) = completed past := by
    rw [completed_snoc, hnone, List.append_nil]
  refine ⟨hkeyed, howned, ?_, ?_, fun u hu path hstage => ?_, ?_, fun u hu job hjob => ?_,
    fun u hu job locals hstage => ?_, ?_⟩
  · rw [hsame]
    exact fun entry hentry => Nat.lt_of_lt_of_le (h.below entry hentry) hcalls
  · rw [hsame, hregister]
    exact h.recorded
  · rw [hsame]
    rcases htasks u hu with hu | ⟨-, hnew⟩
    · obtain ⟨hrebuild, hnone⟩ := h.fresh u hu path hstage
      exact ⟨hrebuild.append _, hnone⟩
    · obtain ⟨hrebuild, hne⟩ := hnew path hstage
      exact ⟨hrebuild, fun entry hentry => hne _ (h.below entry hentry)⟩
  · rw [hsame]
    intro entry hentry u hu job hjob hdest
    rcases htasks u hu with hu | ⟨hnone, -⟩
    · obtain ⟨hne, hrebuild⟩ := h.again entry hentry u hu job hjob hdest
      exact ⟨hne, hrebuild.append _⟩
    · simp [hnone] at hjob
  · rcases htasks u hu with hu | ⟨hnone, -⟩
    · exact (h.granted u hu job hjob).append _
    · simp [hnone] at hjob
  · rcases htasks u hu with hu | ⟨hnone, -⟩
    · exact (h.written u hu job locals hstage).append _
    · simp [hstage, BuildTask.Stage.job?] at hnone
  · rw [hsame]
    exact h.once.imp fun hboth hdest => ⟨(hboth hdest).1, (hboth hdest).2.append _⟩

section Turn

variable (h : Credited past s) (hid : s.task? id = some task)

include h hid

/-- Whoever has a build to do was granted it, also after the turn of some task. -/
theorem granted_turn (hturn : Turns s task turn) (hu : u ∈ (s.perform task turn).tasks)
    (hjob : u.stage.job? = some job) : WasGranted (past ++ [(s, .step id)]) u job := by
  obtain ⟨htask, -⟩ := mem_of_task? hid
  rcases (mem_tasks_perform h.keyed.called.orderly htask turn).1 hu with ⟨hu, -⟩ | rfl | hu
  · exact (h.granted u hu job hjob).append _
  · rcases hturn.job?_cases hjob with ⟨hgrants, -⟩ | ⟨hbefore, -⟩
    · exact ⟨(s, .step id), by simp, task, hasTurn_of_task? hid, rfl, rfl, hgrants⟩
    · exact (h.granted task htask job hbefore).append _
  · simp [hturn.job?_of_started hu] at hjob

theorem written_turn {locals : Nat} (hturn : Turns s task turn)
    (hu : u ∈ (s.perform task turn).tasks) (hstage : u.stage = .finish job (.ok locals)) :
    HasWritten (past ++ [(s, .step id)]) u job := by
  obtain ⟨htask, -⟩ := mem_of_task? hid
  rcases (mem_tasks_perform h.keyed.called.orderly htask turn).1 hu with ⟨hu, -⟩ | rfl | hu
  · exact (h.written u hu job locals hstage).append _
  · change turn.stage = _ at hstage
    cases hturn with
    | @write job' code locals' result hwrite hresult =>
        obtain ⟨rfl, rfl⟩ := BuildTask.Stage.finish.inj hstage
        refine ⟨code, locals', (s, .step id), by simp, ?_, task, hasTurn_of_task? hid, rfl, hwrite⟩
        dsimp only
        generalize (FileStore.write s.store job'.dest code.toUTF8).2 = answer at hresult
        cases answer with
        | ok => rfl
        | error f => simp [Except.map, Except.mapError] at hresult
    | _ => simp [turnTo] at hstage
  · obtain ⟨path, requester, hvisit⟩ := hturn.spawned_visits _ (mem_started hu).2.2.2.2.2.2
    simp [hvisit] at hstage

/-- A task that builds a target after a turn that was built before claims it now, or has. -/
theorem again_turn (hturn : Turns s task turn) {entry : Nat × BuildJob}
    (hentry : entry ∈ completed (past ++ [(s, .step id)])) (hu : u ∈ (s.perform task turn).tasks)
    (hjob : u.stage.job? = some job) (hdest : job.dest.components = entry.2.dest.components) :
    entry.1 ≠ u.call ∧ IsRebuild past u.call := by
  obtain ⟨htask, -⟩ := mem_of_task? hid
  rw [completed_snoc, List.mem_append, mem_completed_step hid] at hentry
  rcases (mem_tasks_perform h.keyed.called.orderly htask turn).1 hu with ⟨hu, hne, -⟩ | rfl | hu
  · rcases hentry with hentry | ⟨-, hcompleted⟩
    · exact h.again entry hentry u hu job hjob hdest
    · obtain ⟨locals, hstage⟩ := completed?_eq_some.1 hcompleted
      have hsame := h.owned.unique hu htask hjob (by rw [hstage]; rfl) hdest
      exact absurd (congrArg BuildTask.id hsame) hne
  · change turn.stage.job? = some job at hjob
    rcases hentry with hentry | ⟨-, hcompleted⟩
    · rcases hturn.job?_cases hjob with ⟨hgrants, -⟩ | ⟨hbefore, -⟩
      · cases hgrants with
        | first hvisit hcode hcontains =>
            rw [PathMap.contains_congr hdest, h.recorded entry hentry] at hcontains
            contradiction
        | again hclaim =>
            obtain ⟨hrebuild, hnone⟩ := h.fresh task htask _ hclaim
            exact ⟨hnone entry hentry, hrebuild⟩
      · exact h.again entry hentry task htask job hbefore hdest
    · obtain ⟨locals, hstage⟩ := completed?_eq_some.1 hcompleted
      cases hturn <;> simp_all [turnTo, BuildTask.Stage.job?]
  · simp [hturn.job?_of_started hu] at hjob

theorem step (hturn : Turns s task turn) (hkeyed : (s.perform task turn).Keyed) :
    Credited (past ++ [(s, .step id)]) (s.perform task turn) := by
  obtain ⟨htask, -⟩ := mem_of_task? hid
  have horderly := h.keyed.called.orderly
  have hrecorded : ∀ {d : Path}, s.register.targets.contains d = true →
      turn.register.targets.contains d = true := by
    intro d hd
    obtain ⟨source, hsource⟩ := Register.contains_iff_sourceAt.1 hd
    exact Register.contains_iff_sourceAt.2 ⟨source, hturn.sourceAt_eq hsource⟩
  have hnow : ∀ entry ∈ completed [(s, .step id)], entry.1 = task.call ∧
      ∃ locals, task.stage = .finish entry.2 (.ok locals) := by
    intro entry hentry
    obtain ⟨hcall, hcompleted⟩ := (mem_completed_step hid).1 hentry
    exact ⟨hcall, completed?_eq_some.1 hcompleted⟩
  refine ⟨hkeyed, h.owned.perform horderly htask hturn, ?_, ?_, fun u hu path hclaim => ?_, ?_,
    fun u hu job hjob => h.granted_turn hid hturn hu hjob,
    fun u hu job locals hstage => h.written_turn hid hturn hu hstage, ?_⟩
  · intro entry hentry
    rw [completed_snoc, List.mem_append] at hentry
    rcases hentry with hentry | hentry
    · exact h.below entry hentry
    · rw [(hnow entry hentry).1]
      exact h.keyed.called.calls task htask
  · intro entry hentry
    rw [completed_snoc, List.mem_append] at hentry
    rcases hentry with hentry | hentry
    · exact hrecorded (h.recorded entry hentry)
    · obtain ⟨-, locals, hstage⟩ := hnow entry hentry
      exact hrecorded (Register.contains_iff_statusAt.2
        ⟨_, h.owned.building htask (show task.stage.job? = some entry.2 by rw [hstage]; rfl)⟩)
  · rcases (mem_tasks_perform horderly htask turn).1 hu with ⟨hu, hne, -⟩ | rfl | hu
    · obtain ⟨hrebuild, hnone⟩ := h.fresh u hu path hclaim
      refine ⟨hrebuild.append _, fun entry hentry hcall => ?_⟩
      rw [completed_snoc, List.mem_append] at hentry
      rcases hentry with hentry | hentry
      · exact hnone entry hentry hcall
      · -- The one task of the call has its claim before it, so no other one works for it.
        have hidle : ¬ u.IsWaiting := by
          rintro ⟨pending, hwaiting⟩
          simp [hclaim] at hwaiting
        have hsame := h.keyed.called.eq_root hu (h.keyed.claims u hu path hclaim).1 hidle htask
          ((hnow entry hentry).1.symm.trans hcall)
        exact hne (congrArg BuildTask.id hsame).symm
    · exact absurd hclaim (hturn.stage_ne_claim path)
    · obtain ⟨path', requester, hvisit⟩ := hturn.spawned_visits _ (mem_started hu).2.2.2.2.2.2
      simp [hvisit] at hclaim
  · intro entry hentry u hu job hjob hdest
    obtain ⟨hne, hrebuild⟩ := h.again_turn hid hturn hentry hu hjob hdest
    exact ⟨hne, hrebuild.append _⟩
  · rw [completed_snoc]
    refine List.pairwise_append.2 ⟨?_, ?_, ?_⟩
    · exact h.once.imp fun hboth hdest => ⟨(hboth hdest).1, (hboth hdest).2.append _⟩
    · rw [completed, noted_step _ hid]
      cases task.stage.completed? <;> simp
    · intro entry hentry last hlast hdest
      obtain ⟨hcall, locals, hstage⟩ := hnow last hlast
      have hjob : task.stage.job? = some last.2 := by
        rw [hstage]
        rfl
      obtain ⟨hne, hrebuild⟩ := h.again entry hentry task htask last.2 hjob hdest
      rw [hcall]
      exact ⟨hne, hrebuild.append _⟩

end Turn

theorem next (h : Credited past s) (hnext : s.make? move = some t) :
    Credited (past ++ [(s, move)]) t := by
  have hkeyed := h.keyed.next hnext
  cases move with
  | call addressee request =>
      obtain rfl := Option.some.inj hnext
      refine h.other (fun _ => nofun) hkeyed
        (fun d => by rw [owners_call]; exact h.owned d) (Nat.le_succ _) rfl fun u hu => ?_
      rcases List.mem_append.1 hu with hu | hu
      · exact .inl hu
      · rw [List.mem_singleton.1 hu]
        refine .inr ⟨by cases request <;> rfl, fun path hclaim => ⟨?_, fun call hcall =>
          Nat.ne_of_lt hcall⟩⟩
        cases request with
        | rebuild path' =>
            exact ⟨(s, .call addressee (.rebuild path')), by simp, addressee, path', rfl, rfl⟩
        | _ => contradiction
  | step id =>
      obtain ⟨task, turn, hid, hturn, rfl⟩ := exists_turn hnext
      exact h.step hid hturn hkeyed
  | edit store =>
      obtain rfl := Option.some.inj hnext
      exact h.other (fun _ => nofun) hkeyed h.owned (Nat.le_refl _) rfl fun u hu => .inl hu
  | collect =>
      obtain rfl := Option.some.inj hnext
      exact h.other (fun _ => nofun) hkeyed
        (fun d => Nat.le_trans (owners_collect_le s d) (h.owned d)) (Nat.le_refl _) rfl
        fun u hu => .inl (List.mem_filter.1 hu).1

end Credited

theorem Runs.credited {store : σ} {options : BuildOptions} {sourceTransform : SourceTransform}
    (hrun : Runs (BuildSession.start store options sourceTransform) past s) : Credited past s := by
  induction hrun with
  | start => exact .start store options sourceTransform
  | next _ hnext ih => exact ih.next hnext

/-- Every build can write its output. -/
def WritesSucceed (past : History σ) : Prop :=
  ∀ moment ∈ past, ∀ task job code locals, HasTurn moment task →
    task.stage = .write job code locals →
    (FileStore.write moment.1.store job.dest code.toUTF8).2 = .ok ()

theorem lost_eq_nil_iff : lost past = [] ↔ WritesSucceed past := by
  have hmem : lost past = [] ↔ ∀ call locals, (call, locals) ∉ lost past := by
    rw [List.eq_nil_iff_forall_not_mem]
    exact Prod.forall
  rw [hmem]
  constructor
  · intro hnone moment hmoment task job code locals hturn hstage
    have hlost := hnone task.call locals
    rw [lost, mem_noted] at hlost
    cases hwrite : (FileStore.write moment.1.store job.dest code.toUTF8).2 with
    | ok => rfl
    | error f =>
        have hsome := lost?_eq_some.2 ⟨job, code, f, hstage, hwrite⟩
        exact absurd ⟨moment, hmoment, task, hturn, rfl, hsome⟩ hlost
  · intro h call locals hlost
    rw [lost, mem_noted] at hlost
    obtain ⟨moment, hmoment, task, hturn, -, hlost⟩ := hlost
    obtain ⟨job, code, f, hstage, hwrite⟩ := lost?_eq_some.1 hlost
    rw [h moment hmoment task job code locals hturn hstage] at hwrite
    contradiction

/-- What is true of the calls to compile: one that has no more entries before it has told its
total. -/
structure Announced (past : History σ) (s : BuildSession σ) : Prop where
  kept : Kept past s
  below : ∀ moment ∈ past, ∀ addressee request, moment.2 = .call addressee request →
    moment.1.nextCall < s.nextCall
  announced : ∀ moment ∈ past, ∀ addressee entries,
    moment.2 = .call addressee (.compile entries) → ∀ root ∈ (uncollected past s).tasks,
    root.parent = none → root.call = moment.1.nextCall → root.addressee = addressee ∧
      (root.agenda = .single → ∃ total, root.stage = .done total ∧
        (addressee, BuildEvent.built total) ∈ s.sent)

namespace Announced

theorem step (h : Announced past s) (hid : s.task? id = some task) (hturn : Turns s task turn)
    (hnext : s.make? (.step id) = some (s.perform task turn)) :
    Announced (past ++ [(s, .step id)]) (s.perform task turn) := by
  obtain ⟨htask, -⟩ := mem_of_task? hid
  refine ⟨h.kept.next hnext, fun moment hmoment addressee request hmove => ?_,
    fun moment hmoment addressee entries hmove root hroot hparent hcall => ?_⟩
  · rcases List.mem_append.1 hmoment with hmoment | hmoment
    · exact h.below moment hmoment addressee request hmove
    · rw [List.mem_singleton.1 hmoment] at hmove
      contradiction
  · rcases List.mem_append.1 hmoment with hmoment | hmoment
    · rw [h.kept.perform_eq htask] at hroot
      rcases (mem_tasks_perform h.kept.called.orderly (Kept.mem htask) turn).1 hroot with
        ⟨hroot, -⟩ | rfl | hroot
      · obtain ⟨haddressee, htold⟩ :=
          h.announced moment hmoment addressee entries hmove root hroot hparent hcall
        refine ⟨haddressee, fun hagenda => ?_⟩
        obtain ⟨total, hstage, hsent⟩ := htold hagenda
        exact ⟨total, hstage, List.mem_append_left _ hsent⟩
      · obtain ⟨haddressee, htold⟩ :=
          h.announced moment hmoment addressee entries hmove task (Kept.mem htask) hparent hcall
        have hgoing : task.agenda ≠ .single := by
          intro hagenda
          obtain ⟨total, hstage, -⟩ := htold hagenda
          exact hturn.not_idle ⟨total, hstage, hagenda⟩
        refine ⟨haddressee, fun hagenda => ?_⟩
        change turn.agenda = .single at hagenda
        cases hturn with
        | report hstage =>
            exact ⟨_, rfl, List.mem_append_right _ (by simp [← haddressee])⟩
        | next => contradiction
        | _ => exact absurd hagenda hgoing
      · simp [(mem_started hroot).1] at hparent
    · rw [List.mem_singleton.1 hmoment] at hmove
      contradiction

theorem next (h : Announced past s) (hnext : s.make? move = some t) :
    Announced (past ++ [(s, move)]) t := by
  have hkept := h.kept.next hnext
  have hother : (∀ addressee request, move ≠ .call addressee request) →
      s.nextCall ≤ t.nextCall → t.sent = s.sent →
      (∀ root ∈ (uncollected (past ++ [(s, move)]) t).tasks,
        root ∈ (uncollected past s).tasks) → Announced (past ++ [(s, move)]) t := by
    intro hmove hcalls hsent htasks
    refine ⟨hkept, fun moment hmoment addressee request hrequest => ?_,
      fun moment hmoment addressee entries hrequest root hroot => ?_⟩ <;>
    rcases List.mem_append.1 hmoment with hmoment | hmoment
    · exact Nat.lt_of_lt_of_le (h.below moment hmoment addressee request hrequest) hcalls
    · rw [List.mem_singleton.1 hmoment] at hrequest
      exact absurd hrequest (hmove _ _)
    · rw [hsent]
      exact h.announced moment hmoment addressee entries hrequest root (htasks root hroot)
    · rw [List.mem_singleton.1 hmoment] at hrequest
      exact absurd hrequest (hmove _ _)
  cases move with
  | call addressee request =>
      obtain rfl := Option.some.inj hnext
      refine ⟨hkept, fun moment hmoment other request' hrequest => ?_,
        fun moment hmoment other entries hrequest root hroot hparent hcall => ?_⟩
      · rcases List.mem_append.1 hmoment with hmoment | hmoment
        · exact Nat.lt_succ_of_lt (h.below moment hmoment other request' hrequest)
        · rw [List.mem_singleton.1 hmoment]
          exact Nat.lt_succ_self _
      · rw [uncollected, retired_call] at hroot
        have hcases : root ∈ (uncollected past s).tasks ∨ root =
            ⟨s.nextTask, none, s.nextCall, addressee, request.agenda, request.stage⟩ := by
          rcases List.mem_append.1 hroot with hroot | hroot
          · exact .inl (List.mem_append_left _ hroot)
          · rcases List.mem_append.1 hroot with hroot | hroot
            · exact .inl (List.mem_append_right _ hroot)
            · exact .inr (List.mem_singleton.1 hroot)
        rcases hcases with hroot | rfl
        · rcases List.mem_append.1 hmoment with hmoment | hmoment
          · exact h.announced moment hmoment other entries hrequest root hroot hparent hcall
          · rw [List.mem_singleton.1 hmoment] at hcall
            exact absurd hcall (Nat.ne_of_lt (h.kept.called.calls root hroot))
        · rcases List.mem_append.1 hmoment with hmoment | hmoment
          · exact absurd hcall.symm (Nat.ne_of_lt (h.below moment hmoment _ _ hrequest))
          · rw [List.mem_singleton.1 hmoment] at hrequest
            obtain ⟨rfl, rfl⟩ := Move.call.inj hrequest
            refine ⟨rfl, fun hagenda => ?_⟩
            contradiction
  | step id =>
      obtain ⟨task, turn, hid, hturn, rfl⟩ := exists_turn hnext
      exact h.step hid hturn hnext
  | edit store =>
      obtain rfl := Option.some.inj hnext
      refine hother (by simp) (Nat.le_refl _) rfl fun root hroot => ?_
      rwa [uncollected, retired_edit] at hroot
  | collect =>
      obtain rfl := Option.some.inj hnext
      exact hother (by simp) (Nat.le_refl _) rfl
        fun root hroot => (perm_uncollected past s).mem_iff.1 hroot

end Announced

section Totals

variable {store : σ} {options : BuildOptions} {sourceTransform : SourceTransform} {total : Nat}
  {addressee : Addressee} {entries : List Path}

theorem Runs.announced
    (hrun : Runs (BuildSession.start store options sourceTransform) past s) :
    Announced past s := by
  induction hrun with
  | start => exact ⟨.start store options sourceTransform, nofun, nofun⟩
  | next _ hnext ih => exact ih.next hnext

/-- What is told in the end is what the call returns. -/
theorem Runs.returned_of_built
    (hrun : Runs (BuildSession.start store options sourceTransform) past t)
    (hmoment : moment ∈ past) (hnext : moment.1.make? moment.2 = some s)
    (hsent : s.sent = moment.1.sent ++ [(addressee, .built total)]) :
    ∃ task, HasTurn moment task ∧ task.addressee = addressee ∧
      (⟨task.call, some total⟩ : Outcome) ∈ outcomes past t := by
  obtain ⟨earlier, later, rfl⟩ := List.append_of_mem hmoment
  obtain ⟨hearlier, s', hnext', hlater⟩ := hrun.at_moment rfl
  obtain rfl := Option.some.inj (hnext.symm.trans hnext')
  obtain ⟨x, move⟩ := moment
  have hsilent : s.sent ≠ x.sent := fun hsame => by simp [hsame] at hsent
  cases move with
  | step id =>
      obtain ⟨task, turn, hid, hturn, rfl⟩ := exists_turn hnext
      have htask := (mem_of_task? hid).1
      have htold : turn.told = [(addressee, .built total)] := List.append_cancel_left hsent
      obtain ⟨count, sum, hstage, hagenda, hafter, hsingle, hbuilt⟩ :=
        hturn.reports ⟨_, by rw [htold]; exact List.mem_singleton.2 rfl, rfl⟩
      obtain ⟨rfl, htotal⟩ := Prod.mk.inj (List.singleton_inj.1 (htold.symm.trans hbuilt))
      obtain rfl := BuildEvent.built.inj htotal
      have hkept := hearlier.kept
      have hparent : task.parent = none := by
        by_contra hparent
        rw [hkept.called.orderly.single task (Kept.mem htask) hparent] at hagenda
        contradiction
      have houtcome : outcome? (turn.after task) = some ⟨task.call, some (sum + count)⟩ := by
        rw [outcome?, Turn.after, hparent, hafter, hsingle]
      refine ⟨task, hasTurn_of_task? hid, rfl, mem_outcomes.2 ⟨turn.after task, ?_, houtcome⟩⟩
      rw [List.append_cons]
      refine hlater.mem_uncollected (hkept.next hnext) ?_ (by simp [houtcome])
      rw [hkept.perform_eq htask]
      exact after_mem_perform hkept.called.orderly (Kept.mem htask) turn
  | call | edit | collect => exact absurd (congrArg sent (Option.some.inj hnext)).symm hsilent

/-- A call to compile that returns has told what it returns. -/
theorem Runs.built_of_returned
    (hrun : Runs (BuildSession.start store options sourceTransform) past t)
    (hcall : (s, .call addressee (.compile entries)) ∈ past)
    (hreturned : (⟨s.nextCall, some total⟩ : Outcome) ∈ outcomes past t) :
    (addressee, BuildEvent.built total) ∈ t.sent := by
  obtain ⟨root, hroot, houtcome⟩ := mem_outcomes.1 hreturned
  obtain ⟨hrootcall, hholding⟩ := holding_of_outcome? houtcome
  have hsome : (outcome? root).isSome = true := by simp [houtcome]
  obtain ⟨hparent, hfinished⟩ := finished_of_outcome? hsome
  obtain ⟨-, htold⟩ := hrun.announced.announced _ hcall addressee entries rfl root hroot hparent
    hrootcall
  rcases hfinished with ⟨hagenda, count, hstage⟩ | hcrashed
  · obtain ⟨count', hstage', hsent⟩ := htold hagenda
    rw [BuildTask.holding, hagenda, hstage'] at hholding
    have hcount : count' = total := (Nat.zero_add _).symm.trans hholding
    rwa [← hcount]
  · simp [outcome?, hcrashed, hparent] at houtcome

/-- What counts as built for a call was granted to one of its tasks, written and ended by it. -/
theorem Runs.mem_builtFor_iff
    (hrun : Runs (BuildSession.start store options sourceTransform) past t) :
    (∃ other ∈ builtFor past call, other.components = d.components) ↔
      Accomplished past call d := by
  simp only [mem_builtFor]
  constructor
  · rintro ⟨other, ⟨job, hcompleted, rfl⟩, hdest⟩
    obtain ⟨moment, hmoment, task, locals, hturn, hcall, hstage⟩ := mem_completed.1 hcompleted
    obtain ⟨earlier, later, rfl⟩ := List.append_of_mem hmoment
    have hcredited := (hrun.at_moment rfl).1.credited
    have htask := (mem_of_task? hturn.2).1
    exact ⟨earlier, moment, later, task, job, locals, rfl, hturn, hcall, hstage, hdest,
      hcredited.granted task htask job (by rw [hstage]; rfl),
      hcredited.written task htask job locals hstage⟩
  · rintro ⟨earlier, moment, later, task, job, locals, rfl, hturn, hcall, hstage, hdest, -⟩
    exact ⟨job.dest, ⟨job, mem_completed.2
      ⟨moment, by simp, task, locals, hturn, hcall, hstage⟩, rfl⟩, hdest⟩

theorem Runs.pairwise_builtFor
    (hrun : Runs (BuildSession.start store options sourceTransform) past t) (call : Nat) :
    (builtFor past call).Pairwise fun p q => p.components ≠ q.components := by
  rw [builtFor, List.pairwise_map, ofCalls, List.pairwise_filterMap]
  refine hrun.credited.once.imp fun {a b} hboth job hjob job' hjob' hdest => ?_
  by_cases ha : a.1 == call <;> by_cases hb : b.1 == call <;> simp_all

theorem Runs.not_built_twice
    (hrun : Runs (BuildSession.start store options sourceTransform) past t) {other : Nat}
    {e : Path} (hne : call ≠ other) (hcall : ¬ IsRebuild past call)
    (hother : ¬ IsRebuild past other) (hd : d ∈ builtFor past call)
    (he : e ∈ builtFor past other) : d.components ≠ e.components := by
  obtain ⟨job, hjob, rfl⟩ := mem_builtFor.1 hd
  obtain ⟨job', hjob', rfl⟩ := mem_builtFor.1 he
  intro hdest
  obtain ⟨i, hi, hget⟩ := List.getElem_of_mem hjob
  obtain ⟨j, hj, hget'⟩ := List.getElem_of_mem hjob'
  have honce := List.pairwise_iff_getElem.1 hrun.credited.once
  rcases Nat.lt_trichotomy i j with hlt | rfl | hlt
  · have hboth := honce i j hi hj hlt
    rw [hget, hget'] at hboth
    exact hother (hboth hdest.symm).2
  · exact hne (congrArg Prod.fst (hget.symm.trans hget'))
  · have hboth := honce j i hj hi hlt
    rw [hget, hget'] at hboth
    exact hcall (hboth hdest).2

/-- **Counts are conserved.** Whatever calls are made on a session and in whatever order their
tasks go on, as long as outputs can be written: a call returns the number of targets that were
built for it and of assets that it has put out, and a call to compile tells just that. What was
built for a call was granted to a task of it, written and ended with success, and is counted once;
no two calls count one target, unless a call to rebuild has claimed it. Once all calls have
returned, what they return adds up to all builds that succeeded and all assets that were put out. -/
theorem totals_conserved
    (hrun : Runs (BuildSession.start store options sourceTransform) past t)
    (hwrites : WritesSucceed past) :
    (∀ call total, (⟨call, some total⟩ : Outcome) ∈ outcomes past t →
      total = (builtFor past call).length + (emittedFor past call).length) ∧
    (∀ moment ∈ past, ∀ after addressee total, moment.1.make? moment.2 = some after →
      after.sent = moment.1.sent ++ [(addressee, .built total)] →
      ∃ task, HasTurn moment task ∧ task.addressee = addressee ∧
        (⟨task.call, some total⟩ : Outcome) ∈ outcomes past t) ∧
    (∀ s addressee entries total, (s, .call addressee (.compile entries)) ∈ past →
      (⟨s.nextCall, some total⟩ : Outcome) ∈ outcomes past t →
      (addressee, BuildEvent.built total) ∈ t.sent) ∧
    (∀ call, ((builtFor past call).Pairwise fun p q => p.components ≠ q.components) ∧
      ∀ d, (∃ other ∈ builtFor past call, other.components = d.components) ↔
        Accomplished past call d) ∧
    (∀ call other, call ≠ other → ¬ IsRebuild past call → ¬ IsRebuild past other →
      ∀ d ∈ builtFor past call, ∀ e ∈ builtFor past other, d.components ≠ e.components) ∧
    ((∀ call < t.nextCall, ∃ total, (⟨call, some total⟩ : Outcome) ∈ outcomes past t) →
      ((outcomes past t).map fun outcome => outcome.count.getD 0).sum =
        (completed past).length + (emitted past).length) := by
  have hlost := lost_eq_nil_iff.2 hwrites
  refine ⟨fun call total hmem => ?_,
    fun moment hmoment after addressee total hnext hsent =>
      hrun.returned_of_built hmoment hnext hsent,
    fun s addressee entries total hcall hreturned => hrun.built_of_returned hcall hreturned,
    fun call => ⟨hrun.pairwise_builtFor call, fun d => hrun.mem_builtFor_iff⟩,
    fun call other hne hcall hother d hd e he => hrun.not_built_twice hne hcall hother hd he,
    fun hall => ?_⟩
  · have htotal := hrun.total_add_lost hmem
    rw [hlost] at htotal
    rw [builtFor, List.length_map]
    exact htotal
  · have hsum := hrun.sum_totals_add_lost hall
    rwa [hlost] at hsum

end Totals

/-! ### Two requests that share an import, and a rebuild -/

section Shared

/-- Two files that import a third one, and a text that is put out as it is. -/
def sharedSession : BuildSession FileTree :=
  start (((((FileTree.empty.putFile "/p/a.js" "import \"./c.js\"".toUTF8).putFile
      "/p/b.js" "import \"./c.js\"".toUTF8).putFile "/p/c.js" "c".toUTF8)).putFile
      "/p/d.txt" "d".toUTF8)
    { baseDir := "/p", outDir := "/p/out", extensions := [".js", ".txt"],
      resolveExtensions := [".js"], exclude := [], assets := ⟨[".txt"], [], "", ""⟩, extra := {} }
    .scan

/-- Both requests come to their imports before the shared one is built, for the first of them. The
second request has returned by then. In the end the file of the first one is built again. -/
def sharedSteps : List (Move FileTree) :=
  [Move.call ⟨1, 0⟩ (.compile ["a.js"]), .call ⟨2, 1⟩ (.compile ["b.js", "d.txt"])] ++
    List.replicate 5 (Move.step 0) ++ List.replicate 5 (Move.step 1) ++ [Move.step 2, .step 3] ++
    List.replicate 6 (Move.step 1) ++ [Move.collect] ++ List.replicate 6 (Move.step 2) ++
    List.replicate 4 (Move.step 0) ++ [Move.collect, .call ⟨1, 0⟩ (.rebuild "/p/a.js")] ++
    List.replicate 4 (Move.step 4) ++ [Move.step 5] ++ List.replicate 3 (Move.step 4)

def isSharedRun (past : History FileTree) (t : BuildSession FileTree) : Bool :=
  decide (outcomes past t = [⟨1, some 2⟩, ⟨0, some 2⟩, ⟨2, some 1⟩]) && (lost past).isEmpty &&
    decide (t.nextCall = 3)

theorem totals_conserved_shared : ∃ past t, Runs sharedSession past t ∧ WritesSucceed past ∧
    (builtFor past 0).length + (emittedFor past 0).length = 2 ∧
    (builtFor past 1).length + (emittedFor past 1).length = 2 ∧
    (builtFor past 2).length + (emittedFor past 2).length = 1 ∧
    (completed past).length + (emitted past).length = 5 := by
  have hshared : (sharedSession.replay? sharedSteps).any
      (fun found => isSharedRun found.1 found.2) = true := by
    decide +kernel
  obtain ⟨⟨past, t⟩, hreplay, hcheck⟩ := (Option.any_eq_true _ _).1 hshared
  simp only [isSharedRun, Bool.and_eq_true, decide_eq_true_eq, List.isEmpty_iff] at hcheck
  obtain ⟨⟨houtcomes, hlost⟩, hcalls⟩ := hcheck
  have hrun : Runs sharedSession past t := Runs.start.replay hreplay
  have hwrites := lost_eq_nil_iff.1 hlost
  obtain ⟨htotal, -, -, -, -, hsum⟩ := totals_conserved hrun hwrites
  have hall : ∀ call < t.nextCall, ∃ total, (⟨call, some total⟩ : Outcome) ∈ outcomes past t := by
    rw [houtcomes, hcalls]
    intro call hcall
    interval_cases call
    exacts [⟨2, by simp⟩, ⟨2, by simp⟩, ⟨1, by simp⟩]
  refine ⟨past, t, hrun, hwrites, (htotal 0 2 ?_).symm, (htotal 1 2 ?_).symm, (htotal 2 1 ?_).symm,
    (hsum hall).symm.trans ?_⟩
  all_goals simp [houtcomes]

end Shared

end LiveBuild.BuildSession
