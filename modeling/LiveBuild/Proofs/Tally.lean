import LiveBuild.Proofs.Refusals

/-!
# What the tasks of a call have counted

A task hands the number of what it has built to the task that waits for it, which adds its own. A
build that has succeeded counts one, and so does an asset that is put out. So what the tasks of a
call hold, and what they have held when their call returned, is what was counted for the call, less
what was held by builds whose output could not be written in the end.
-/

namespace LiveBuild

namespace BuildTask

/-- What a stage holds for whoever waits for the task. -/
def Stage.holding : Stage → Nat
  | .write _ _ locals => locals
  | .finish _ (.ok locals) => locals
  | .done count => count
  | _ => 0

def Agenda.holding : Agenda → Nat
  | .single => 0
  | .entries _ total => total

def holding (task : BuildTask) : Nat := task.agenda.holding + task.stage.holding

theorem holding_of_count? {task : BuildTask} {count : Nat} (hagenda : task.agenda = .single)
    (h : task.count? = some count) : task.holding = count := by
  unfold count? at h
  split at h
  · rename_i hstage
    rw [holding, hagenda, hstage]
    simpa [Agenda.holding, Stage.holding] using h
  · rename_i hstage
    rw [holding, hagenda, hstage]
    simpa [Agenda.holding, Stage.holding] using h
  · contradiction

/-- The build that a task is about to end with success. -/
def Stage.completed? : Stage → Option BuildJob
  | .finish job (.ok _) => some job
  | _ => none

end BuildTask

/-- How a file is treated that is put out as it is, or under another name, and what is left of its
path behind the base directory. -/
def BuildOptions.treatment? {σ : Type} [FileStore σ] (o : BuildOptions) (store : σ) (p : Path) :
    Option (AssetTreatment × Path) :=
  match o.belowBase p, p.suffix? with
  | .ok rest, some extension =>
      if FileStore.isFile store p && !o.excludes rest && o.extensions.contains extension then
        (o.assets.treatmentOf? extension).map fun kind => (kind, rest)
      else none
  | _, _ => none

namespace BuildSession

variable {σ : Type} {s t first : BuildSession σ} {past : History σ}
  {moment : BuildSession σ × Move σ} {move : Move σ} {task u : BuildTask} {turn : Turn σ}
  {path : Path} {requester : Option Path} {id : Nat} {keeps : Nat → Bool}

/-- The task that goes on in a moment. -/
def active? (moment : BuildSession σ × Move σ) : Option BuildTask :=
  match moment.2 with
  | .step id => moment.1.task? id
  | _ => none

theorem active?_eq_some : active? moment = some task ↔ HasTurn moment task := by
  obtain ⟨s, move⟩ := moment
  cases move with
  | step id =>
      refine ⟨fun h => hasTurn_of_task? h, fun h => h.task?_eq⟩
  | _ => exact ⟨fun h => (nomatch h), fun h => (nomatch h.1)⟩

/-- What the turns of a history come to, each with the call that the task works for. -/
def noted {α : Type} (f : BuildSession σ → BuildTask.Stage → Option α) (past : History σ) :
    List (Nat × α) :=
  past.filterMap fun moment => (active? moment).bind fun task =>
    (f moment.1 task.stage).map fun a => (task.call, a)

theorem noted_snoc {α : Type} (f : BuildSession σ → BuildTask.Stage → Option α)
    (past : History σ) (moment : BuildSession σ × Move σ) :
    noted f (past ++ [moment]) = noted f past ++ noted f [moment] := List.filterMap_append

theorem mem_noted {α : Type} {f : BuildSession σ → BuildTask.Stage → Option α} {call : Nat}
    {a : α} : (call, a) ∈ noted f past ↔
      ∃ moment ∈ past, ∃ task, HasTurn moment task ∧ task.call = call ∧
        f moment.1 task.stage = some a := by
  simp only [noted, List.mem_filterMap, Option.bind_eq_some_iff, active?_eq_some,
    Option.map_eq_some_iff, Prod.mk.injEq]
  constructor
  · rintro ⟨moment, hmoment, task, hturn, b, hb, rfl, rfl⟩
    exact ⟨moment, hmoment, task, hturn, rfl, hb⟩
  · rintro ⟨moment, hmoment, task, hturn, rfl, hb⟩
    exact ⟨moment, hmoment, task, hturn, a, hb, rfl, rfl⟩

theorem noted_step {α : Type} (f : BuildSession σ → BuildTask.Stage → Option α)
    (htask : s.task? id = some task) :
    noted f [(s, .step id)] = ((f s task.stage).map fun a => (task.call, a)).toList := by
  simp only [noted, active?, List.filterMap_cons, htask, Option.bind_some, List.filterMap_nil]
  cases f s task.stage <;> rfl

theorem noted_other {α : Type} (f : BuildSession σ → BuildTask.Stage → Option α)
    (h : ∀ id, move ≠ .step id) : noted f [(s, move)] = [] := by
  cases move with
  | step id => exact absurd rfl (h id)
  | _ => rfl

/-- What was noted for some calls. -/
def ofCalls {α : Type} (keeps : Nat → Bool) (entries : List (Nat × α)) : List α :=
  entries.filterMap fun entry => if keeps entry.1 then some entry.2 else none

@[simp]
theorem ofCalls_append {α : Type} (keeps : Nat → Bool) (l r : List (Nat × α)) :
    ofCalls keeps (l ++ r) = ofCalls keeps l ++ ofCalls keeps r := List.filterMap_append

theorem mem_ofCalls {α : Type} {entries : List (Nat × α)} {a : α} :
    a ∈ ofCalls keeps entries ↔ ∃ call, (call, a) ∈ entries ∧ keeps call = true := by
  simp [ofCalls]

/-- The builds that have succeeded. -/
def completed (past : History σ) : List (Nat × BuildJob) :=
  noted (fun _ stage => stage.completed?) past

section Store

variable [FileStore σ]

/-- A path is an asset, and it is put out. -/
def emits (s : BuildSession σ) (path : Path) : Bool :=
  (s.options.treatment? s.store path).any fun plan =>
    (emit s.store s.options plan.1 path plan.2).2.isOk

def emitted? (s : BuildSession σ) : BuildTask.Stage → Option Path
  | .visit path _ => if s.emits path then some path else none
  | _ => none

/-- What is held by a build whose output cannot be written. -/
def lost? (s : BuildSession σ) : BuildTask.Stage → Option Nat
  | .write job code locals =>
      match (FileStore.write s.store job.dest code.toUTF8).2 with
      | .ok () => none
      | .error _ => some locals
  | _ => none

theorem lost?_eq_some {stage : BuildTask.Stage} {locals : Nat} :
    lost? s stage = some locals ↔ ∃ job code f, stage = .write job code locals ∧
      (FileStore.write s.store job.dest code.toUTF8).2 = .error f := by
  constructor
  · intro h
    unfold lost? at h
    split at h
    · rename_i job code locals'
      split at h
      · contradiction
      · rename_i f hwrite
        obtain rfl := Option.some.inj h
        exact ⟨job, code, f, rfl, hwrite⟩
    · contradiction
  · rintro ⟨job, code, f, rfl, hwrite⟩
    rw [lost?, hwrite]

/-- The assets that were put out. -/
def emitted (past : History σ) : List (Nat × Path) := noted emitted? past

/-- What was held by the builds whose output could not be written. -/
def lost (past : History σ) : List (Nat × Nat) := noted lost? past

omit [FileStore σ] in
theorem stage_of_setStage {stage : BuildTask.Stage} (hu : u ∈ (s.setStage task stage).tasks)
    (hid : u.id = task.id) : u.stage = stage := by
  obtain ⟨old, -, rfl⟩ := List.mem_map.1 hu
  split at hid
  · rename_i hold
    rw [if_pos hold]
  · rename_i hold
    exact absurd hid hold

theorem emits_of_not_isFile (h : FileStore.isFile s.store path = false) : s.emits path = false := by
  rw [emits, BuildOptions.treatment?]
  split <;> simp [h]

omit [FileStore σ] in
theorem holding_setStage {stage : BuildTask.Stage} (hu : u ∈ (s.setStage task stage).tasks)
    (hid : u.id = task.id) : u.stage.holding = stage.holding := by
  rw [stage_of_setStage hu hid]

theorem holding_visitDirectory (hu : u ∈ (s.visitDirectory task path).tasks)
    (hid : u.id = task.id) : u.stage.holding = 0 := by
  rw [visitDirectory] at hu
  split at hu
  · exact holding_setStage hu hid
  · rcases List.mem_append.1 hu with hu | hu
    · exact holding_setStage hu hid
    · obtain ⟨i, hi, rfl⟩ := List.mem_mapIdx.1 hu
      rw [List.getElem_map]
      rfl

theorem holding_visitAsset {kind : AssetTreatment} {rest : Path}
    (hu : u ∈ (s.visitAsset task kind path rest).tasks) (hid : u.id = task.id) :
    u.stage.holding = if (emit s.store s.options kind path rest).2.isOk then 1 else 0 := by
  rw [visitAsset_eq] at hu
  split at hu
  · rename_i hok
    rw [hok]
    exact holding_setStage hu hid
  · rename_i e herror
    rw [herror]
    exact holding_setStage hu hid

omit [FileStore σ] in
theorem holding_visitCode {rest : Path} (hu : u ∈ (s.visitCode task path rest requester).tasks)
    (hid : u.id = task.id) : u.stage.holding = 0 := by
  rw [visitCode] at hu
  dsimp only at hu
  split at hu <;> exact holding_setStage hu hid

/-- Whoever looks at a path has counted it if it is put out as an asset, and nothing otherwise. -/
theorem holding_visit (hu : u ∈ (s.visit task path requester).tasks) (hid : u.id = task.id) :
    u.stage.holding = if s.emits path then 1 else 0 := by
  have hzero : s.emits path = false → u.stage.holding = 0 →
      u.stage.holding = if s.emits path then 1 else 0 := by
    intro hemits hholding
    rw [hholding, hemits]
    rfl
  rw [visit] at hu
  split at hu
  · rename_i hmissing
    refine hzero (emits_of_not_isFile ?_) (holding_setStage hu hid)
    simp_all [FileStore.exists?, FileStore.isFile]
  · rename_i hexists
    split at hu
    · rename_i e hbelow
      refine hzero ?_ (holding_setStage hu hid)
      simp [emits, BuildOptions.treatment?, hbelow]
    · rename_i rest hbelow
      split at hu
      · rename_i hexcluded
        refine hzero ?_ (holding_setStage hu hid)
        rw [emits, BuildOptions.treatment?, hbelow]
        cases path.suffix? <;> simp [hexcluded]
      · rename_i hkept
        split at hu
        · rename_i hdirectory
          refine hzero (emits_of_not_isFile ?_) (holding_visitDirectory hu hid)
          simp_all [FileStore.isFile, FileStore.isDirectory]
        · rename_i hdirectory
          split at hu
          · rename_i hsuffix
            refine hzero ?_ (holding_setStage hu hid)
            rw [emits, BuildOptions.treatment?, hbelow, hsuffix]
            rfl
          · rename_i extension hsuffix
            split at hu
            · rename_i hallowed
              refine hzero ?_ (holding_setStage hu hid)
              rw [emits, BuildOptions.treatment?, hbelow, hsuffix]
              simp_all
            · rename_i hallowed
              have hfile : FileStore.isFile s.store path = true := by
                obtain ⟨kind, hkind⟩ := Option.isSome_iff_exists.1
                  (show FileStore.exists? s.store path = true by simpa using hexists)
                cases kind with
                | file => simp [FileStore.isFile, hkind]
                | directory => simp [FileStore.isDirectory, hkind] at hdirectory
              have htreatment : s.options.treatment? s.store path =
                  (s.options.assets.treatmentOf? extension).map fun kind => (kind, rest) := by
                simp_all [BuildOptions.treatment?]
              split at hu
              · rename_i kind hkind
                rw [emits, htreatment, hkind]
                exact holding_visitAsset hu hid
              · rename_i hnone
                refine hzero ?_ (holding_visitCode hu hid)
                rw [emits, htreatment, hnone]
                rfl

end Store

section Ledger

/-- The tasks that were collected when their calls had come to an end. -/
def retired (past : History σ) : List BuildTask :=
  past.flatMap fun moment =>
    match moment.2 with
    | .collect => moment.1.tasks.filter fun task => (outcome? task).isSome
    | _ => []

/-- What the calls of a history have come to, those included that are not collected yet. -/
def outcomes (past : History σ) (t : BuildSession σ) : List Outcome :=
  past.flatMap (fun moment =>
    match moment.2 with
    | .collect => moment.1.collect.2
    | _ => []) ++ t.collect.2

/-- The session as it were if no task had been collected. -/
def uncollected (past : History σ) (s : BuildSession σ) : BuildSession σ :=
  { s with tasks := retired past ++ s.tasks }

theorem retired_other (h : move ≠ .collect) : retired (past ++ [(s, move)]) = retired past := by
  rw [retired, List.flatMap_append, List.flatMap_singleton, retired]
  cases move with
  | collect => exact absurd rfl h
  | _ => exact List.append_nil _

theorem retired_call (past : History σ) (s : BuildSession σ) (addressee : Addressee)
    (request : Request) : retired (past ++ [(s, .call addressee request)]) = retired past :=
  retired_other nofun

theorem retired_step (past : History σ) (s : BuildSession σ) (id : Nat) :
    retired (past ++ [(s, .step id)]) = retired past :=
  retired_other nofun

theorem retired_edit (past : History σ) (s : BuildSession σ) (store : σ) :
    retired (past ++ [(s, .edit store)]) = retired past :=
  retired_other nofun

theorem retired_collect (past : History σ) (s : BuildSession σ) :
    retired (past ++ [(s, .collect)]) =
      retired past ++ s.tasks.filter fun task => (outcome? task).isSome := by
  rw [retired, List.flatMap_append, List.flatMap_singleton, retired]

theorem outcomes_eq (past : History σ) (t : BuildSession σ) :
    outcomes past t = (uncollected past t).tasks.filterMap outcome? := by
  have hfilter : ∀ tasks : List BuildTask,
      (tasks.filter fun task => (outcome? task).isSome).filterMap outcome? =
        tasks.filterMap outcome? := by
    intro tasks
    rw [List.filterMap_filter]
    congr 1
    funext task
    cases outcome? task <;> rfl
  rw [uncollected, List.filterMap_append, outcomes]
  congr 1
  induction past with
  | nil => rfl
  | cons moment past ih =>
      obtain ⟨s, move⟩ := moment
      rw [List.flatMap_cons, ih, retired, retired, List.flatMap_cons, List.filterMap_append]
      cases move with
      | collect => rw [hfilter]; rfl
      | _ => rfl

/-- A task comes to an end on its own. -/
theorem finished_of_outcome? (h : (outcome? task).isSome = true) :
    task.parent = none ∧
      ((task.agenda = .single ∧ ∃ count, task.stage = .done count) ∨ task.stage = .crashed) := by
  unfold outcome? at h
  split at h
  · rename_i hparent hagenda hstage
    exact ⟨hparent, .inl ⟨hagenda, _, hstage⟩⟩
  · rename_i hparent hstage
    exact ⟨hparent, .inr hstage⟩
  · contradiction

theorem perm_uncollected (past : History σ) (s : BuildSession σ) :
    (uncollected (past ++ [(s, .collect)]) s.collect.1).tasks.Perm (uncollected past s).tasks := by
  rw [uncollected, retired_collect, uncollected, collect, List.append_assoc]
  refine List.Perm.append_left _ ?_
  have hperm := List.filter_append_perm (fun task => (outcome? task).isSome) s.tasks
  simpa using hperm

/-- What is true of a session together with the tasks that were collected. -/
structure Kept (past : History σ) (s : BuildSession σ) : Prop where
  called : (uncollected past s).Called
  retired : ∀ task ∈ retired past, (outcome? task).isSome = true

namespace Kept

theorem start (store : σ) (options : BuildOptions) (sourceTransform : SourceTransform) :
    Kept [] (BuildSession.start store options sourceTransform) where
  called := .start store options sourceTransform
  retired _ h := nomatch h

theorem mem (htask : task ∈ s.tasks) : task ∈ (uncollected past s).tasks :=
  List.mem_append_right _ htask

theorem ne_of_retired (h : Kept past s) (htask : task ∈ s.tasks)
    (hu : u ∈ BuildSession.retired past) : u.id ≠ task.id :=
  (List.pairwise_append.1 h.called.orderly.ids).2.2 u hu task htask

theorem children_eq (h : Kept past s) (task : BuildTask) :
    (uncollected past s).children task = s.children task := by
  rw [children, uncollected, List.filter_append]
  refine List.append_left_eq_self.2 (List.filter_eq_nil_iff.2 fun u hu => ?_)
  simp [(finished_of_outcome? (h.retired u hu)).1]

/-- What was collected does not matter to the turns of the tasks that are left. -/
theorem perform_eq (h : Kept past s) (htask : task ∈ s.tasks) (id : Nat) (turn : Turn σ) :
    uncollected (past ++ [(s, .step id)]) (s.perform task turn) =
      (uncollected past s).perform task turn := by
  have hremaining : (uncollected past s).remaining task turn.gathers =
      BuildSession.retired past ++ s.remaining task turn.gathers := by
    rw [remaining, remaining]
    split
    · rw [uncollected, List.filter_append]
      congr 1
      refine List.filter_eq_self.2 fun u hu => ?_
      simp [(finished_of_outcome? (h.retired u hu)).1]
    · rfl
  have hsame : (BuildSession.retired past).map (fun old => if old.id = task.id then
      { task with stage := turn.stage, agenda := turn.agenda } else old) =
        BuildSession.retired past := by
    rw [List.map_congr_left fun u hu => if_neg (h.ne_of_retired htask hu), List.map_id']
  have htasks : ((uncollected past s).perform task turn).tasks =
      BuildSession.retired past ++ (s.perform task turn).tasks := by
    rw [perform, hremaining, List.map_append, hsame, List.append_assoc]
    rfl
  rw [uncollected, retired_step, ← htasks]
  rfl

variable [FileStore σ]

theorem turns (h : Kept past s) (hturn : Turns s task turn) :
    Turns (uncollected past s) task turn :=
  hturn.congr rfl rfl rfl rfl (h.children_eq task)

theorem next (h : Kept past s) (hnext : s.make? move = some t) : Kept (past ++ [(s, move)]) t := by
  cases move with
  | call addressee request =>
      obtain rfl := Option.some.inj hnext
      have hsame : uncollected (past ++ [(s, .call addressee request)])
          (s.call addressee request).1 = ((uncollected past s).call addressee request).1 := by
        simp [uncollected, retired_call, BuildSession.call]
      refine ⟨hsame ▸ h.called.request addressee request, ?_⟩
      rw [retired_call]
      exact h.retired
  | step id =>
      obtain ⟨task, turn, hid, hturn, rfl⟩ := exists_turn hnext
      have htask := (mem_of_task? hid).1
      constructor
      · rw [h.perform_eq htask]
        exact h.called.perform (mem htask) (h.turns hturn)
      · rw [retired_step]
        exact h.retired
  | edit store =>
      obtain rfl := Option.some.inj hnext
      constructor
      · rw [uncollected, retired_edit]
        exact h.called.of_subset (h.called.orderly.of_perm (.refl _) rfl) (fun _ hu => hu) rfl
      · rw [retired_edit]
        exact h.retired
  | collect =>
      obtain rfl := Option.some.inj hnext
      have hperm := perm_uncollected past s
      refine ⟨h.called.of_subset (h.called.orderly.of_perm hperm rfl)
        (fun u hu => hperm.mem_iff.1 hu) rfl, fun u hu => ?_⟩
      rw [retired_collect] at hu
      rcases List.mem_append.1 hu with hu | hu
      · exact h.retired u hu
      · exact (List.mem_filter.1 hu).2

end Kept

variable [FileStore σ]

theorem Runs.kept {store : σ} {options : BuildOptions} {sourceTransform : SourceTransform}
    (hrun : Runs (BuildSession.start store options sourceTransform) past s) : Kept past s := by
  induction hrun with
  | start => exact .start store options sourceTransform
  | next _ hnext ih => exact ih.next hnext

end Ledger

section Balance

/-- What a task holds that works for one of some calls. -/
def share (keeps : Nat → Bool) (task : BuildTask) : Nat :=
  if keeps task.call then task.holding else 0

theorem sum_share_eq_zero {tasks : List BuildTask} (h : ∀ u ∈ tasks, share keeps u = 0) :
    (tasks.map (share keeps)).sum = 0 := by
  refine List.sum_eq_zero_iff_forall_eq_nat.2 fun n hn => ?_
  obtain ⟨u, hu, rfl⟩ := List.mem_map.1 hn
  exact h u hu

theorem counts_eq {tasks : List BuildTask} {counts : List Nat}
    (h : tasks.mapM BuildTask.count? = some counts)
    (hsingle : ∀ u ∈ tasks, u.agenda = .single) : counts = tasks.map BuildTask.holding := by
  induction tasks generalizing counts with
  | nil => exact (Option.some.inj h).symm
  | cons u tasks ih =>
      rw [List.mapM_cons] at h
      obtain ⟨count, hcount, h⟩ := Option.bind_eq_some_iff.1 h
      obtain ⟨rest, hrest, h⟩ := Option.bind_eq_some_iff.1 h
      obtain ⟨hu, htasks⟩ := List.forall_mem_cons.1 hsingle
      rw [← Option.some.inj h, List.map_cons, BuildTask.holding_of_count? hu hcount,
        ih hrest htasks]

/-- Only the task of a call goes through entries, so what is taken in is what is held. -/
theorem Orderly.foldl_counts (h : s.Orderly) {counts : List Nat}
    (hcounts : (s.children task).mapM BuildTask.count? = some counts) :
    counts.foldl Nat.add 0 = ((s.children task).map BuildTask.holding).sum := by
  rw [← counts_eq hcounts fun u hu => ?_]
  · exact List.sum_eq_foldl.symm
  · obtain ⟨hmem, hparent⟩ := mem_children.1 hu
    exact h.single u hmem (by simp [hparent])

variable [FileStore σ]

/-- A task holds after its turn what it has held, what it takes in, and one more for what was built
or put out, unless its output could not be written. -/
theorem Turns.holding_after (hturn : Turns s task turn) (h : s.Orderly)
    (hvisit : ∀ path requester, task.stage = .visit path requester →
      turn.stage.holding = if s.emits path then 1 else 0) :
    (turn.after task).holding + (lost? s task.stage).getD 0 =
      task.holding + ((s.gathered task turn.gathers).map BuildTask.holding).sum +
        task.stage.completed?.toList.length + (emitted? s task.stage).toList.length := by
  by_cases hvisits : ∃ path requester, task.stage = .visit path requester
  · obtain ⟨path, requester, hstage⟩ := hvisits
    have hagenda : turn.agenda = task.agenda ∧ turn.gathers = false := by
      cases hturn <;> simp_all [turnTo]
    rw [Turn.after, BuildTask.holding, BuildTask.holding, hagenda.1, gathered, hagenda.2,
      hvisit path requester hstage, hstage]
    cases hemits : s.emits path <;>
      simp [BuildTask.Stage.holding, BuildTask.Stage.completed?, emitted?, lost?, hemits]
  · have hemitted : emitted? s task.stage = none := by
      unfold emitted?
      split
      · exact absurd ⟨_, _, ‹_›⟩ hvisits
      · rfl
    rw [hemitted, Turn.after, BuildTask.holding, BuildTask.holding, gathered]
    cases hturn with
    | pass hstage | refuse e hstage | walk hstage | asset hstage | assetFailed hstage | join hstage
    | begin hstage => exact absurd ⟨_, _, hstage⟩ hvisits
    | gather hstage hcounts | gatherFile hstage hcounts =>
        rw [hstage, h.foldl_counts hcounts]
        simp [turnTo, BuildTask.Stage.holding, BuildTask.Stage.completed?, lost?]
    | @write job code locals result hstage hresult =>
        rw [hstage, hresult, lost?]
        generalize (FileStore.write s.store job.dest code.toUTF8).2 = answer
        cases answer <;>
          simp [turnTo, BuildTask.Stage.holding, BuildTask.Stage.completed?, Except.map,
            Except.mapError]
    | next hstage hagenda | report hstage hagenda =>
        rw [hstage, hagenda]
        simp [turnTo, BuildTask.Stage.holding, BuildTask.Stage.completed?, lost?,
          BuildTask.Agenda.holding]
    | claim hstage | attach hstage | meet hstage | unreadable hstage | read hstage
    | transform hstage | fail hstage | crash hstage | unresolved hstage | resolve hstage
    | finish hstage | finishFailed hstage =>
        rw [hstage]
        simp [turnTo, BuildTask.Stage.holding, BuildTask.Stage.completed?, lost?, Nat.add_assoc]

theorem share_started (hturn : Turns s task turn) (hu : u ∈ s.started task turn.spawned) :
    share keeps u = 0 := by
  obtain ⟨-, -, -, hagenda, -, -, hstage⟩ := mem_started hu
  obtain ⟨path, requester, hvisit⟩ := hturn.spawned_visits _ hstage
  simp [share, BuildTask.holding, hagenda, hvisit, BuildTask.Agenda.holding,
    BuildTask.Stage.holding]

omit [FileStore σ] in
theorem ofCalls_step {α : Type} (f : BuildSession σ → BuildTask.Stage → Option α)
    (keeps : Nat → Bool) (htask : s.task? id = some task) :
    ofCalls keeps (noted f [(s, .step id)]) =
      if keeps task.call then (f s task.stage).toList else [] := by
  rw [noted_step f htask]
  cases f s task.stage <;> cases hkeeps : keeps task.call <;> simp [ofCalls, hkeeps]

theorem stage_of_visit (h : s.Orderly) (hid : s.task? id = some task)
    (hstep : s.step? id = some (s.perform task turn))
    (hstage : task.stage = .visit path requester) :
    turn.stage.holding = if s.emits path then 1 else 0 := by
  have hvisit := Option.some.inj (hstep.symm.trans (step?_visit hid hstage))
  have hmem := after_mem_perform h (mem_of_task? hid).1 turn
  rw [hvisit] at hmem
  exact holding_visit hmem rfl

/-- A step changes what some calls hold by what is noted of it. -/
theorem share_step (keeps : Nat → Bool) (h : Kept past s) (hs : s.Orderly)
    (hid : s.task? id = some task) (hturn : Turns s task turn)
    (hstep : s.step? id = some (s.perform task turn)) :
    (((uncollected past s).perform task turn).tasks.map (share keeps)).sum +
        (ofCalls keeps (lost [(s, .step id)])).sum =
      ((uncollected past s).tasks.map (share keeps)).sum +
        (ofCalls keeps (completed [(s, .step id)])).length +
        (ofCalls keeps (emitted [(s, .step id)])).length := by
  have htask : task ∈ (uncollected past s).tasks := Kept.mem (mem_of_task? hid).1
  have horderly := h.called.orderly
  have hsum := sum_perform horderly htask turn (share keeps)
  have hstarted : (((uncollected past s).started task turn.spawned).map (share keeps)).sum = 0 :=
    sum_share_eq_zero fun u hu => share_started (h.turns hturn) hu
  have hcall : ∀ u ∈ (uncollected past s).gathered task turn.gathers, u.call = task.call := by
    intro u hu
    obtain ⟨-, hu, hparent⟩ := mem_gathered.1 hu
    exact h.called.kindred u hu task htask hparent
  rw [hstarted] at hsum
  rw [lost, completed, emitted, ofCalls_step _ _ hid, ofCalls_step _ _ hid, ofCalls_step _ _ hid]
  cases hkeeps : keeps task.call with
  | false =>
      have hgathered :
          (((uncollected past s).gathered task turn.gathers).map (share keeps)).sum = 0 :=
        sum_share_eq_zero fun u hu => by
          rw [share, hcall u hu, hkeeps]
          rfl
      rw [hgathered] at hsum
      simpa [share, Turn.after, hkeeps] using hsum
  | true =>
      have hgathered : ((uncollected past s).gathered task turn.gathers).map (share keeps) =
          ((uncollected past s).gathered task turn.gathers).map BuildTask.holding :=
        List.map_congr_left fun u hu => by rw [share, hcall u hu, hkeeps, if_pos rfl]
      have hafter := (h.turns hturn).holding_after horderly
        fun _ _ hstage => stage_of_visit (s := s) hs hid hstep hstage
      have hcalled : share keeps (turn.after task) = (turn.after task).holding := if_pos hkeeps
      have hlost : (lost? s task.stage).toList.sum = (lost? s task.stage).getD 0 := by
        cases lost? s task.stage <;> simp
      rw [hgathered, hcalled, show share keeps task = task.holding from if_pos hkeeps] at hsum
      rw [if_pos rfl, if_pos rfl, if_pos rfl, hlost]
      change _ + (lost? s task.stage).getD 0 = _ at hafter
      change _ = _ + (emitted? s task.stage).toList.length at hafter
      omega

/-- What was counted for some calls is held by their tasks, by those that were collected too, but
for what was held by builds whose output could not be written. -/
def Balanced (keeps : Nat → Bool) (past : History σ) (s : BuildSession σ) : Prop :=
  ((uncollected past s).tasks.map (share keeps)).sum + (ofCalls keeps (lost past)).sum =
    (ofCalls keeps (completed past)).length + (ofCalls keeps (emitted past)).length

theorem Balanced.other (h : Balanced keeps past s) (hmove : ∀ id, move ≠ .step id)
    (hsame : ((uncollected (past ++ [(s, move)]) t).tasks.map (share keeps)).sum =
      ((uncollected past s).tasks.map (share keeps)).sum) :
    Balanced keeps (past ++ [(s, move)]) t := by
  rw [Balanced, lost, completed, emitted] at h ⊢
  rw [noted_snoc, noted_snoc, noted_snoc, noted_other _ hmove, noted_other _ hmove,
    noted_other _ hmove, List.append_nil, List.append_nil, List.append_nil, hsame, h]

theorem Balanced.step (h : Balanced keeps past s) (hkept : Kept past s) (hs : s.Orderly)
    (hstep : s.step? id = some t) : Balanced keeps (past ++ [(s, .step id)]) t := by
  obtain ⟨task, turn, hid, hturn, rfl⟩ := exists_turn hstep
  have hshare := share_step keeps hkept hs hid hturn hstep
  rw [← hkept.perform_eq (mem_of_task? hid).1 id, lost, completed, emitted] at hshare
  rw [Balanced, lost, completed, emitted] at h ⊢
  rw [noted_snoc, noted_snoc, noted_snoc, ofCalls_append, ofCalls_append, ofCalls_append,
    List.sum_append, List.length_append, List.length_append]
  omega

theorem Runs.balanced {store : σ} {options : BuildOptions} {sourceTransform : SourceTransform}
    (hrun : Runs (BuildSession.start store options sourceTransform) past t)
    (keeps : Nat → Bool) : Balanced keeps past t := by
  induction hrun with
  | start => rfl
  | @next past s t move hrun hnext ih =>
      cases move with
      | call addressee request =>
          obtain rfl := Option.some.inj hnext
          refine ih.other (by simp) ?_
          have hnew : share keeps
              ⟨s.nextTask, none, s.nextCall, addressee, request.agenda, request.stage⟩ = 0 := by
            cases request <;>
              simp [share, BuildTask.holding, Request.agenda, Request.stage,
                BuildTask.Agenda.holding, BuildTask.Stage.holding]
          simp [uncollected, retired_call, BuildSession.call, hnew]
      | step id => exact ih.step hrun.kept (hrun.called (.start _ _ _)).orderly hnext
      | edit store =>
          obtain rfl := Option.some.inj hnext
          refine ih.other (by simp) ?_
          rw [uncollected, retired_edit]
          rfl
      | collect =>
          obtain rfl := Option.some.inj hnext
          exact ih.other (by simp) ((perm_uncollected past s).map _).sum_nat

end Balance

section Answers

variable {root : BuildTask} {call total : Nat}

theorem mem_outcomes {outcome : Outcome} : outcome ∈ outcomes past t ↔
    ∃ root ∈ (uncollected past t).tasks, outcome? root = some outcome := by
  rw [outcomes_eq, List.mem_filterMap]

theorem holding_of_outcome? (h : outcome? root = some ⟨call, some total⟩) :
    root.call = call ∧ root.holding = total := by
  unfold outcome? at h
  split at h
  · rename_i hagenda hstage
    obtain ⟨rfl, htotal⟩ := Outcome.mk.inj (Option.some.inj h)
    refine ⟨rfl, ?_⟩
    rw [BuildTask.holding, hagenda, hstage, ← Option.some.inj htotal]
    exact Nat.zero_add _
  · simp at h
  · contradiction

theorem not_isWaiting_of_outcome? (h : (outcome? root).isSome = true) : ¬ root.IsWaiting := by
  rintro ⟨pending, hwaiting⟩
  rcases (finished_of_outcome? h).2 with ⟨-, count, hstage⟩ | hstage <;> simp [hwaiting] at hstage

namespace Kept

/-- A call that has come to an end has one task, be it collected or not. -/
theorem eq_root (h : Kept past s) (hroot : root ∈ (uncollected past s).tasks)
    (houtcome : (outcome? root).isSome = true) (hu : u ∈ (uncollected past s).tasks)
    (hcall : u.call = root.call) : u = root :=
  h.called.eq_root hroot (finished_of_outcome? houtcome).1 (not_isWaiting_of_outcome? houtcome) hu
    hcall

theorem sum_share (h : Kept past s) (hroot : root ∈ (uncollected past s).tasks)
    (houtcome : (outcome? root).isSome = true) :
    ((uncollected past s).tasks.map (share fun call => call == root.call)).sum = root.holding := by
  have hothers : ∀ u ∈ (uncollected past s).tasks, u.id ≠ root.id →
      share (fun call => call == root.call) u = 0 := by
    intro u hu hid
    rw [share, if_neg]
    intro hcall
    exact hid (congrArg BuildTask.id (h.eq_root hroot houtcome hu (by simpa using hcall)))
  obtain ⟨left, right, hsplit⟩ := List.append_of_mem hroot
  have hids := h.called.orderly.ids
  rw [hsplit, List.pairwise_append, List.pairwise_cons] at hids
  obtain ⟨-, ⟨hright, -⟩, hleft⟩ := hids
  rw [hsplit] at hothers ⊢
  rw [List.map_append, List.sum_append, List.map_cons, List.sum_cons,
    sum_share_eq_zero fun u hu => hothers u (by simp [hu]) (hleft u hu root (by simp)),
    sum_share_eq_zero fun u hu => hothers u (by simp [hu]) (hright u hu).symm]
  simp [share]

variable [FileStore σ]

/-- What a call has come to is there for good. -/
theorem mem_next (h : Kept past s) (hnext : s.make? move = some t)
    (hroot : root ∈ (uncollected past s).tasks) (houtcome : (outcome? root).isSome = true) :
    root ∈ (uncollected (past ++ [(s, move)]) t).tasks := by
  cases move with
  | call addressee request =>
      obtain rfl := Option.some.inj hnext
      rw [uncollected, retired_call]
      rcases List.mem_append.1 hroot with hroot | hroot
      · exact List.mem_append_left _ hroot
      · exact List.mem_append_right _ (List.mem_append_left _ hroot)
  | step id =>
      obtain ⟨task, turn, hid, hturn, rfl⟩ := exists_turn hnext
      obtain ⟨hparent, hfinished⟩ := finished_of_outcome? houtcome
      rw [h.perform_eq (mem_of_task? hid).1]
      refine (mem_tasks_perform h.called.orderly (mem (mem_of_task? hid).1) turn).2
        (.inl ⟨hroot, fun hsame => ?_, fun _ => by simp [hparent]⟩)
      obtain rfl := h.called.orderly.eq_of_id hroot (mem (mem_of_task? hid).1) hsame
      rcases hfinished with ⟨hagenda, count, hstage⟩ | hstage <;> cases hturn <;> simp_all
  | edit store =>
      obtain rfl := Option.some.inj hnext
      rwa [uncollected, retired_edit]
  | collect =>
      obtain rfl := Option.some.inj hnext
      exact (perm_uncollected past s).mem_iff.2 hroot

end Kept

variable [FileStore σ] {store : σ} {options : BuildOptions} {sourceTransform : SourceTransform}

theorem Runs.mem_uncollected {later : History σ} (hrun : Runs s later t) (h : Kept past s)
    (hroot : root ∈ (uncollected past s).tasks) (houtcome : (outcome? root).isSome = true) :
    root ∈ (uncollected (past ++ later) t).tasks := by
  suffices hboth : Kept (past ++ later) t ∧ root ∈ (uncollected (past ++ later) t).tasks from
    hboth.2
  induction hrun with
  | start => simpa using ⟨h, hroot⟩
  | next _ hnext ih =>
      rw [← List.append_assoc]
      exact ⟨ih.1.next hnext, ih.1.mem_next hnext ih.2 houtcome⟩

/-- What a call returns is what was counted for it, but for what was lost with builds whose output
could not be written. -/
theorem Runs.total_add_lost (hrun : Runs (BuildSession.start store options sourceTransform) past t)
    (hmem : (⟨call, some total⟩ : Outcome) ∈ outcomes past t) :
    total + (ofCalls (fun other => other == call) (lost past)).sum =
      (ofCalls (fun other => other == call) (completed past)).length +
        (ofCalls (fun other => other == call) (emitted past)).length := by
  obtain ⟨root, hroot, houtcome⟩ := mem_outcomes.1 hmem
  obtain ⟨rfl, rfl⟩ := holding_of_outcome? houtcome
  have hbalanced := hrun.balanced fun other => other == root.call
  rwa [Balanced, hrun.kept.sum_share hroot (by simp [houtcome])] at hbalanced

/-- Once all calls have returned, what they return adds up to all that was counted. -/
theorem Runs.sum_totals_add_lost
    (hrun : Runs (BuildSession.start store options sourceTransform) past t)
    (hall : ∀ call < t.nextCall, ∃ total, (⟨call, some total⟩ : Outcome) ∈ outcomes past t) :
    ((outcomes past t).map fun outcome => outcome.count.getD 0).sum +
        ((lost past).map Prod.snd).sum =
      (completed past).length + (emitted past).length := by
  have hkept := hrun.kept
  have heach : ∀ u ∈ (uncollected past t).tasks, outcome? u = some ⟨u.call, some u.holding⟩ := by
    intro u hu
    obtain ⟨total, hmem⟩ := hall u.call (hkept.called.calls u hu)
    obtain ⟨root, hroot, houtcome⟩ := mem_outcomes.1 hmem
    obtain ⟨hcall, hholding⟩ := holding_of_outcome? houtcome
    obtain rfl := hkept.eq_root hroot (by simp [houtcome]) hu hcall.symm
    rw [houtcome, hholding]
  have hall : ∀ {α : Type} (entries : List (Nat × α)),
      ofCalls (fun _ => true) entries = entries.map Prod.snd := by
    intro α entries
    simp [ofCalls]
  have hshare : (outcomes past t).map (fun outcome => outcome.count.getD 0) =
      (uncollected past t).tasks.map (share fun _ => true) := by
    rw [outcomes_eq]
    clear hall
    generalize (uncollected past t).tasks = tasks at heach
    induction tasks with
    | nil => rfl
    | cons u tasks ih =>
        obtain ⟨hu, htasks⟩ := List.forall_mem_cons.1 heach
        rw [List.filterMap_cons_some hu, List.map_cons, List.map_cons, ih htasks]
        rfl
  have hbalanced := hrun.balanced fun _ => true
  rw [Balanced, ← hshare, hall, hall, hall, List.length_map, List.length_map] at hbalanced
  exact hbalanced

end Answers

end BuildSession

end LiveBuild
