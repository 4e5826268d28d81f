import LiveBuild.Proofs.Rest
import LiveBuild.Proofs.Subscribers

/-!
# Building a source again

A finished request leaves a record for each member of its closure. Whatever happens to the files
then, a member can be built again. One task does this. It starts others for the imports, and these
are through at once, because the code files among the imports have records. So the register keeps
its records, and nothing else is built.
-/

namespace LiveBuild.FreshBuild

open BuildSession (Turns)

/-- A source is built again on a session at rest, after its files have become another tree. -/
structure Rebuild (b : FreshBuild) where
  rested : BuildSession FileTree
  tree : FileTree
  addressee : Addressee
  source : Path

namespace Rebuild

variable {b : FreshBuild}

/-- The request as it would be for the present tree. -/
def after (r : b.Rebuild) : FreshBuild := { b with tree := r.tree }

def session (r : b.Rebuild) : BuildSession FileTree :=
  (({ r.rested with store := r.tree } : BuildSession FileTree).call r.addressee
    (.rebuild r.source)).1

/-- The source can be read and transformed, and its imports are all found. -/
def Succeeds (r : b.Rebuild) : Prop := ∃ files, r.after.Resolves r.source files

/-- What the source imports now. -/
def Requires (r : b.Rebuild) (q : Path) : Prop :=
  ∃ files, r.after.Resolves r.source files ∧ q ∈ files

/-- The source is a member of the closure, and it imports no code file without a record. -/
structure Proper (r : b.Rebuild) : Prop where
  sound : r.tree.Sound
  directory : FileStore.isFile r.tree b.options.baseDir = false
  member : b.Member r.source
  recorded : ∀ q, r.Requires q → r.after.Eligible q → b.Member q

/-- The sessions that a rebuild leads to while no task looks into the output directory. -/
inductive Reaches (r : b.Rebuild) : BuildSession FileTree → Prop
  | start : Reaches r r.session
  | step {s t : BuildSession FileTree} : Reaches r s → s.Steps t → t.Clear → Reaches r t

variable {r : b.Rebuild} {s t : BuildSession FileTree} {task u : BuildTask}
  {turn : BuildSession.Turn FileTree} {p q d path rest : Path} {job : BuildJob}
  {before : List (Path × Path)}

/-- A job is about the source and its output. -/
def Target (r : b.Rebuild) (job : BuildJob) : Prop :=
  job.source = r.source ∧ b.IsOutput r.source job.dest

/-- What is true of the task of the rebuild in each stage. -/
def Serves (r : b.Rebuild) : BuildTask.Stage → Prop
  | .claim path => path = r.source
  | .read job => r.Target job
  | .transform job _ => r.Target job
  | .lookUp job _ => r.Target job
  | .gather (some (job, _)) => r.Target job
  | .write job _ _ => r.Target job
  | .finish job _ => r.Target job
  | .done _ => True
  | .visit _ _ | .gather none | .crashed => False

/-- What is true of the tasks that are started for the imports. -/
def Fetches (r : b.Rebuild) : BuildTask.Stage → Prop
  | .visit path (some d) => r.Requires path ∧ b.IsOutput r.source d
  | .done _ => True
  | _ => False

/-- What is true of a session during a rebuild. -/
structure Underway (r : b.Rebuild) (s : BuildSession FileTree) : Prop where
  options : s.options = b.options
  sourceTransform : s.sourceTransform = b.sourceTransform
  held : s.held = false
  confined : s.Confined r.tree
  clear : s.Clear
  manned : s.Manned
  rooted : s.Rooted r.rested.nextCall
  sole : ∀ u ∈ s.tasks, ∀ v ∈ s.tasks, u.parent = none → v.parent = none → u = v
  addressee : ∀ task ∈ s.tasks, task.addressee = r.addressee
  single : ∀ task ∈ s.tasks, task.agenda = .single
  serves : ∀ task ∈ s.tasks, task.parent = none → r.Serves task.stage
  fetches : ∀ task ∈ s.tasks, task.parent ≠ none → r.Fetches task.stage
  tracks : ∀ task ∈ s.tasks, r.after.Tracks task.stage
  sources : ∀ d, s.register.sourceAt d = r.rested.register.sourceAt d
  aliases : s.register.aliases = r.rested.register.aliases
  subscribed : ∀ task ∈ s.tasks, ∀ job, task.stage.job? = some job →
    r.addressee ∈ s.register.subscribersAt job.dest

theorem job?_of_fetches {stage : BuildTask.Stage} (h : r.Fetches stage) : stage.job? = none := by
  cases stage with
  | visit | done => rfl
  | _ => contradiction

theorem Underway.sees (h : r.Underway s) : r.after.Sees s where
  options := h.options
  sourceTransform := h.sourceTransform
  kept := h.options ▸ h.confined.kept

/-- No new record is needed if the imports of the source have not changed. -/
theorem recorded_of_imports (himports : ∀ q, r.Requires q → b.Imports r.source q) :
    ∀ q, r.Requires q → r.after.Eligible q → b.Member q := by
  rintro q hq ⟨rest, hcode⟩
  obtain ⟨hmember, files, hfiles, hmem⟩ := himports q hq
  obtain ⟨text, output, -, -, hfound⟩ := id hfiles
  exact hmember.imported hfiles hmem
    ⟨rest, isFile_of_findAll hfound q hmem, hcode.below, hcode.kept, hcode.suffix⟩

section Turn

variable (hb : b.Proper) (hrested : b.Rested before r.rested) (hr : r.Proper)
  (h : r.Underway s) (htask : task ∈ s.tasks) (hturn : Turns s task turn)
  (hclear : (s.perform task turn).Clear)

include hrested h

theorem contains_output (hp : b.Member p) (hd : b.IsOutput p d) :
    s.register.targets.contains d = true :=
  Register.contains_iff_sourceAt.2 ⟨p, by rw [h.sources, hrested.recorded p d hp hd]⟩

include hr in
/-- The source is recorded under its output. -/
theorem exists_recordedAs? :
    ∃ d, s.register.recordedAs? r.source = some d ∧ b.IsOutput r.source d := by
  rw [Register.recordedAs?, if_neg, h.aliases]
  · exact hrested.aliased r.source hr.member
  · intro hcontains
    have hinside := h.confined.recorded r.source hcontains
    rw [h.options, hrested.outside hr.member] at hinside
    contradiction

omit hrested

include htask

/-- Nobody builds the source before the rebuild has begun. -/
theorem not_underway {addressee : Addressee} (hstage : task.stage = .claim path) :
    (s.register.reopen path addressee).2 ≠ .underway := by
  intro hclaim
  obtain ⟨d, -, hbuilding⟩ := Register.reopen_underway hclaim
  refine h.manned.not_building (fun u hu => ?_) hbuilding
  by_cases hparent : u.parent = none
  · have hroot : task.parent = none := by
      by_contra hchild
      have hfetches := h.fetches task htask hchild
      rwa [hstage] at hfetches
    rw [h.sole u hu task htask hparent hroot, hstage]
    rfl
  · exact job?_of_fetches (h.fetches u hu hparent)

/-- Only imports of the source are looked at. -/
theorem visit_cases {requester : Option Path} (hstage : task.stage = .visit path requester) :
    r.Requires path ∧ ∃ d, requester = some d ∧ b.IsOutput r.source d := by
  by_cases hparent : task.parent = none
  · have hserves := h.serves task htask hparent
    rw [hstage] at hserves
    exact hserves.elim
  · have hfetches := h.fetches task htask hparent
    rw [hstage] at hfetches
    cases requester with
    | none => exact hfetches.elim
    | some d => exact ⟨hfetches.1, d, rfl, hfetches.2⟩

include hr in
/-- A code file that is looked at has a record. -/
theorem isOutput_of_visit {requester : Option Path} (hstage : task.stage = .visit path requester)
    (hcode : s.options.IsCode s.store path rest) :
    b.Member path ∧ b.IsOutput path (s.options.codeOutput rest) := by
  have hbefore := (h.confined.isCode_iff (h.clear task htask path requester hstage)).1 hcode
  rw [h.options] at hbefore ⊢
  have hmember := hr.recorded path (visit_cases h htask hstage).1 ⟨rest, hbefore⟩
  obtain ⟨rest', hcode'⟩ := hmember.eligible
  obtain rfl := Except.ok.inj (hbefore.below.symm.trans hcode'.below)
  exact ⟨hmember, rest, hcode', rfl⟩

theorem not_walked_of_visit {requester : Option Path}
    (hstage : task.stage = .visit path requester) : ¬ s.options.IsWalked s.store path := by
  intro hwalked
  obtain ⟨⟨files, ⟨text, output, -, -, hfiles⟩, hmem⟩, -⟩ := visit_cases h htask hstage
  have hfile : FileStore.isFile r.tree path = true := isFile_of_findAll hfiles path hmem
  rw [← isFile_iff h.confined.kept (h.clear task htask path requester hstage),
    Walk.isFile_eq_false_of_isDirectory hwalked.1] at hfile
  contradiction

/-- Only the task of the rebuild works on anything, and that is the source. -/
theorem target_of_job? (hjob : task.stage.job? = some job) : r.Target job := by
  have hroot : task.parent = none := by
    by_contra hchild
    rw [job?_of_fetches (h.fetches task htask hchild)] at hjob
    contradiction
  have hserves := h.serves task htask hroot
  cases hstage : task.stage with
  | gather pending =>
      rw [hstage] at hserves hjob
      cases pending with
      | none => contradiction
      | some pending =>
          obtain rfl := Option.some.inj hjob
          exact hserves
  | read | transform | lookUp | write | finish =>
      rw [hstage] at hserves hjob
      obtain rfl := Option.some.inj hjob
      exact hserves
  | _ =>
      rw [hstage] at hjob
      contradiction

/-- A build that comes to its end has succeeded if and only if the source can be built. -/
theorem succeeds_iff {result : Except BuildError Nat} (hstage : task.stage = .finish job result) :
    (∃ locals, result = .ok locals) ↔ r.Succeeds := by
  have htracks := h.tracks task htask
  rw [hstage] at htracks
  have hjob : task.stage.job? = some job := by
    rw [hstage]
    rfl
  rw [Succeeds, ← (target_of_job? h htask hjob).1]
  exact htracks

include hrested hr hturn

include hb in
/-- What the task of the rebuild does. -/
theorem serves_turn (hroot : task.parent = none) : r.Serves turn.stage := by
  have hserves := h.serves task htask hroot
  have hsingle := h.single task htask
  cases hturn with
  | @claim path dest hstage hclaim =>
      rw [hstage] at hserves
      obtain rfl := hserves
      obtain ⟨d, hrecorded, hd⟩ := exists_recordedAs? hrested hr h
      obtain rfl := Option.some.inj
        (hrecorded.symm.trans (Register.reopen_started hclaim).1)
      exact ⟨rfl, hd⟩
  | attach hstage hclaim => exact absurd hclaim (not_underway h htask hstage)
  | meet hstage hclaim =>
      rw [hstage] at hserves
      obtain rfl := hserves
      obtain ⟨d, hrecorded, hd⟩ := exists_recordedAs? hrested hr h
      have hcontains := contains_output hrested h hr.member hd
      rw [Register.not_recorded_of_unknown hclaim d hrecorded] at hcontains
      contradiction
  | crash hstage hcrash =>
      rw [h.sees.transform_eq] at hcrash
      exact absurd hcrash (hb.answers _ _ _)
  | gather => trivial
  | finish => trivial
  | finishFailed => trivial
  | next hstage hagenda =>
      rw [hsingle] at hagenda
      contradiction
  | report => trivial
  | _ => simp_all [Serves, BuildSession.turnTo]

include hclear in
theorem tracks_turn : r.after.Tracks turn.stage := by
  refine h.sees.tracks_turn hturn (fun job hjob => ?_) (fun path requester hspawned => ?_)
    (h.tracks task htask)
  · rw [(target_of_job? h htask hjob).1]
    exact hrested.outside hr.member
  · have houtside := h.confined.outside_of_spawned htask hclear hspawned
    rwa [h.options] at houtside

/-- A task that looks at an import is through at once. -/
theorem fetches_turn (hchild : task.parent ≠ none) : ∃ count, turn.stage = .done count := by
  have hfetches := h.fetches task htask hchild
  have hsingle := h.single task htask
  cases hturn with
  | pass => exact ⟨0, rfl⟩
  | refuse => exact ⟨0, rfl⟩
  | asset => exact ⟨1, rfl⟩
  | assetFailed => exact ⟨0, rfl⟩
  | join => exact ⟨0, rfl⟩
  | walk hstage hwalked => exact absurd hwalked (not_walked_of_visit h htask hstage)
  | begin hstage hcode hnew =>
      obtain ⟨hmember, houtput⟩ := isOutput_of_visit hr h htask hstage hcode
      rw [contains_output hrested h hmember houtput] at hnew
      contradiction
  | next hstage hagenda =>
      rw [hsingle] at hagenda
      contradiction
  | report hstage hagenda =>
      rw [hsingle] at hagenda
      contradiction
  | _ => simp_all [Fetches]

include hclear in
omit hrested hr in
/-- What is started is to look at the imports of the source. -/
theorem fetches_spawned {stage : BuildTask.Stage} (hspawned : stage ∈ turn.spawned) :
    r.Fetches stage := by
  cases hturn with
  | walk hstage hwalked => exact absurd hwalked (not_walked_of_visit h htask hstage)
  | @resolve job output files hstage hfiles =>
      have hjob : task.stage.job? = some job := by
        rw [hstage]
        rfl
      obtain ⟨hsource, houtput⟩ := target_of_job? h htask hjob
      have htracks := h.tracks task htask
      rw [hstage] at htracks
      have hresolves := h.sees.resolves htracks hfiles fun q hq => by
        have houtside := h.confined.outside_of_spawned htask hclear
          (List.mem_map_of_mem (f := fun file => BuildTask.Stage.visit file (some job.dest)) hq)
        rwa [h.options] at houtside
      rw [hsource] at hresolves
      obtain ⟨file, hfile, rfl⟩ := List.mem_map.1 hspawned
      exact ⟨⟨files, hresolves, hfile⟩, houtput⟩
  | _ => simp [BuildSession.turnTo] at hspawned

/-- No record is made, and all are found where they were. -/
theorem register_turn : (∀ d, turn.register.sourceAt d = s.register.sourceAt d) ∧
    turn.register.aliases = s.register.aliases := by
  cases hturn.filing with
  | keep hsources haliases => exact ⟨hsources, haliases⟩
  | make hstage hcode hnew =>
      obtain ⟨hmember, houtput⟩ := isOutput_of_visit hr h htask hstage hcode
      rw [contains_output hrested h hmember houtput] at hnew
      contradiction

omit hrested hr in
theorem subscribed_turn (hjob : turn.stage.job? = some job) :
    r.addressee ∈ turn.register.subscribersAt job.dest := by
  rw [← h.addressee task htask]
  rcases hturn.job?_cases hjob with ⟨hgrants, -⟩ | ⟨hbefore, -⟩
  · exact hturn.mem_subscribersAt hgrants.attaches
  · apply hturn.mem_subscribersAt_of_mem
    rw [h.addressee task htask]
    exact h.subscribed task htask job hbefore

omit hrested hr in
/-- The task of the rebuild comes to its end with the end of a build. -/
theorem exists_finish (hroot : task.parent = none) {count : Nat}
    (hdone : turn.stage = .done count) : ∃ job result, task.stage = .finish job result := by
  have hserves := h.serves task htask hroot
  have hsingle := h.single task htask
  cases hturn with
  | attach hstage hclaim => exact absurd hclaim (not_underway h htask hstage)
  | finish hstage => exact ⟨_, _, hstage⟩
  | finishFailed hstage => exact ⟨_, _, hstage⟩
  | report hstage hagenda =>
      rw [hsingle] at hagenda
      contradiction
  | _ => simp_all [Serves, BuildSession.turnTo]

include hb hclear

theorem Underway.perform : r.Underway (s.perform task turn) := by
  obtain ⟨hsources, haliases⟩ := register_turn hrested hr h htask hturn
  have hcases := fun u => BuildSession.mem_tasks_perform (u := u) h.confined.orderly htask turn
  exact
    { options := h.options
      sourceTransform := h.sourceTransform
      held := h.held
      confined := h.confined.perform htask hturn h.clear
      clear := hclear
      manned := by
        refine h.manned.perform h.confined.orderly htask hturn fun hcrashed => ?_
        by_cases hparent : task.parent = none
        · have hserves := serves_turn hb hrested hr h htask hturn hparent
          rwa [hcrashed] at hserves
        · obtain ⟨count, hstage⟩ := fetches_turn hrested hr h htask hturn hparent
          exact BuildTask.Stage.noConfusion (hstage.symm.trans hcrashed)
      rooted := BuildSession.exists_root_perform h.confined.orderly htask turn h.rooted
      sole := by
        have hsole := BuildSession.eq_of_roots_perform (f := fun _ => ()) h.confined.orderly htask
          turn rfl fun u hu v hv hup hvp _ => h.sole u hu v hv hup hvp
        exact fun u hu v hv hup hvp => hsole u hu v hv hup hvp rfl
      addressee := fun u hu => by
        rcases (hcases u).1 hu with ⟨hu, -⟩ | rfl | hu
        · exact h.addressee u hu
        · exact h.addressee task htask
        · rw [(BuildSession.mem_started hu).2.1, h.addressee task htask]
      single := fun u hu => by
        rcases (hcases u).1 hu with ⟨hu, -⟩ | rfl | hu
        · exact h.single u hu
        · exact hturn.agenda_eq (h.single task htask)
        · exact (BuildSession.mem_started hu).2.2.2.1
      serves := fun u hu hroot => by
        rcases (hcases u).1 hu with ⟨hu, -⟩ | rfl | hu
        · exact h.serves u hu hroot
        · exact serves_turn hb hrested hr h htask hturn hroot
        · simp [(BuildSession.mem_started hu).1] at hroot
      fetches := fun u hu hchild => by
        rcases (hcases u).1 hu with ⟨hu, -⟩ | rfl | hu
        · exact h.fetches u hu hchild
        · obtain ⟨count, hstage⟩ := fetches_turn hrested hr h htask hturn hchild
          change r.Fetches turn.stage
          rw [hstage]
          trivial
        · exact fetches_spawned h htask hturn hclear (BuildSession.mem_started hu).2.2.2.2.2.2
      tracks := fun u hu => by
        rcases (hcases u).1 hu with ⟨hu, -⟩ | rfl | hu
        · exact h.tracks u hu
        · exact tracks_turn hrested hr h htask hturn hclear
        · obtain ⟨path, requester, hstage⟩ :=
            hturn.spawned_visits _ (BuildSession.mem_started hu).2.2.2.2.2.2
          rw [hstage]
          trivial
      sources := fun d => (hsources d).trans (h.sources d)
      aliases := haliases.trans h.aliases
      subscribed := fun u hu job hjob => by
        rcases (hcases u).1 hu with ⟨hu, -⟩ | rfl | hu
        · change r.addressee ∈ turn.register.subscribersAt job.dest
          rw [← h.addressee task htask]
          apply hturn.mem_subscribersAt_of_mem
          rw [h.addressee task htask]
          exact h.subscribed u hu job hjob
        · exact subscribed_turn h htask hturn hjob
        · rw [hturn.job?_of_started hu] at hjob
          contradiction }

end Turn

theorem tasks_session (hrested : b.Rested before r.rested) :
    r.session.tasks = [⟨r.rested.nextTask, none, r.rested.nextCall, r.addressee, .single,
      .claim r.source⟩] := by
  change r.rested.tasks ++ [_] = _
  rw [hrested.idle]
  rfl

/-- The first moment of a rebuild. -/
theorem underway_session (hb : b.Proper) (hrested : b.Rested before r.rested) (hr : r.Proper) :
    r.Underway r.session := by
  have hconfined : ({ r.rested with store := r.tree } : BuildSession FileTree).Confined r.tree :=
    { orderly := by
        constructor <;> simp [hrested.idle]
      base := by
        change r.rested.options.baseDir.isAbsolute = true
        rw [hrested.options, hb.base]
      out := by
        change r.rested.options.outDir.isAbsolute = true
        rw [hrested.options, hb.out]
      directory := by
        change FileStore.isFile r.tree r.rested.options.baseDir = false
        rw [hrested.options, hr.directory]
      sound := hr.sound
      kept := .refl _ _
      jobs := by simp [hrested.idle]
      recorded := fun d hd => by
        obtain ⟨p, hp⟩ := Register.contains_iff_sourceAt.1 hd
        obtain ⟨e, htarget, hsame⟩ := hrested.targets d p hp
        change d.startsWith r.rested.options.outDir = true
        rw [hrested.options, ← FileTree.startsWith_congr hsame]
        exact hb.startsWith_output htarget.output }
  have htasks := tasks_session hrested
  exact
    { options := hrested.options
      sourceTransform := hrested.sourceTransform
      held := hrested.held
      confined := hconfined.call r.addressee (.rebuild r.source)
      clear := by simp [BuildSession.Clear, htasks]
      manned := fun d hbuilding => absurd hbuilding (hrested.settled d)
      rooted := by simp [BuildSession.Rooted, htasks]
      sole := by simp [htasks]
      addressee := by simp [htasks]
      single := by simp [htasks]
      serves := by simp [htasks, Serves]
      fetches := by simp [htasks]
      tracks := by simp [htasks, Tracks]
      sources := fun _ => rfl
      aliases := rfl
      subscribed := by simp [htasks, BuildTask.Stage.job?] }

theorem Reaches.underway (hb : b.Proper) (hrested : b.Rested before r.rested) (hr : r.Proper)
    (h : r.Reaches s) : r.Underway s := by
  induction h with
  | start => exact underway_session hb hrested hr
  | step _ hstep hclear ih =>
      obtain ⟨id, hid⟩ := hstep
      obtain ⟨task, turn, hfound, hturn, rfl⟩ := BuildSession.exists_turn hid
      exact ih.perform hb hrested hr (BuildSession.mem_of_task? hfound).1 hturn hclear

theorem Underway.finished (h : r.Underway s) (hstuck : ∀ id, s.step? id = none)
    (htask : task ∈ s.tasks) :
    task.parent = none ∧ ∃ count, task.stage = .done count ∧ task.agenda = .single := by
  obtain ⟨hparent, hcrashed | hdone⟩ := h.confined.orderly.finished h.held hstuck htask
  · have hserves := h.serves task htask hparent
    rw [hcrashed] at hserves
    exact hserves.elim
  · exact ⟨hparent, hdone⟩

end Rebuild

end LiveBuild.FreshBuild
