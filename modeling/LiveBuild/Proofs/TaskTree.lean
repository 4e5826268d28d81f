import LiveBuild.Proofs.Turns
import Mathlib.Algebra.GroupWithZero.Nat
import Mathlib.Data.List.Pairwise

/-!
# The tasks of a session

Tasks have numbers of their own, and a task that was started by another one is waited for by it. So
the tasks of a session form trees in which only leaves go on, and a session in which no task can go
on has finished its calls.
-/

namespace LiveBuild

namespace BuildTask

/-- The job that a task carries out in some stage. -/
def Stage.job? : Stage → Option BuildJob
  | .read job => some job
  | .transform job _ => some job
  | .lookUp job _ => some job
  | .gather (some (job, _)) => some job
  | .write job _ _ => some job
  | .finish job _ => some job
  | _ => none

theorem job?_of_count? {task : BuildTask} {count : Nat} (h : task.count? = some count) :
    task.stage.job? = none := by
  unfold count? at h
  split at h <;> simp_all [Stage.job?]

def IsWaiting (task : BuildTask) : Prop := ∃ pending, task.stage = .gather pending

theorem count?_eq_none_of_isWaiting {task : BuildTask} (h : task.IsWaiting) :
    task.count? = none := by
  obtain ⟨pending, hstage⟩ := h
  rw [count?, hstage]
  cases task.agenda <;> rfl

end BuildTask

namespace BuildSession

variable {σ : Type} {s t : BuildSession σ} {task u : BuildTask} {turn : Turn σ}

/-- The task after a turn. -/
def Turn.after (turn : Turn σ) (task : BuildTask) : BuildTask :=
  { task with stage := turn.stage, agenda := turn.agenda }

structure Orderly (s : BuildSession σ) : Prop where
  ids : s.tasks.Pairwise fun a b => a.id ≠ b.id
  bound : ∀ task ∈ s.tasks, task.id < s.nextTask
  /-- Whoever has started a task waits for it. -/
  family : ∀ task ∈ s.tasks, ∀ parent, task.parent = some parent →
    parent < task.id ∧ ∃ waiting ∈ s.tasks, waiting.id = parent ∧ waiting.IsWaiting
  /-- Only the task of a call goes through entries. -/
  single : ∀ task ∈ s.tasks, task.parent ≠ none → task.agenda = .single

theorem Orderly.eq_of_id (h : s.Orderly) (htask : task ∈ s.tasks) (hu : u ∈ s.tasks)
    (hid : task.id = u.id) : task = u := by
  by_contra hne
  have hsymm : Std.Symm fun a b : BuildTask => a.id ≠ b.id := ⟨fun _ _ => Ne.symm⟩
  exact h.ids.forall htask hu hne hid

theorem mem_of_task? {id : Nat} (h : s.task? id = some task) : task ∈ s.tasks ∧ task.id = id :=
  ⟨List.mem_of_find?_eq_some h, by simpa using List.find?_some h⟩

theorem Orderly.task?_eq (h : s.Orderly) (htask : task ∈ s.tasks) :
    s.task? task.id = some task := by
  have hsome : (s.task? task.id).isSome = true := by
    rw [task?, List.find?_isSome]
    exact ⟨task, htask, by simp⟩
  obtain ⟨found, hfound⟩ := Option.isSome_iff_exists.1 hsome
  obtain ⟨hmem, hid⟩ := mem_of_task? hfound
  rw [hfound, h.eq_of_id hmem htask hid]

theorem mem_children : u ∈ s.children task ↔ u ∈ s.tasks ∧ u.parent = some task.id := by
  simp [children]

theorem mem_remaining {gathers : Bool} :
    u ∈ s.remaining task gathers ↔
      u ∈ s.tasks ∧ (gathers = true → u.parent ≠ some task.id) := by
  rw [remaining]
  cases gathers <;> simp

/-- The tasks that a task takes in. -/
def gathered (s : BuildSession σ) (task : BuildTask) (gathers : Bool) : List BuildTask :=
  if gathers then s.children task else []

theorem mem_gathered {gathers : Bool} : u ∈ s.gathered task gathers ↔
    gathers = true ∧ u ∈ s.tasks ∧ u.parent = some task.id := by
  rw [gathered]
  cases gathers <;> simp [mem_children]

theorem mem_started {stages : List BuildTask.Stage} (h : u ∈ s.started task stages) :
    u.parent = some task.id ∧ u.addressee = task.addressee ∧ u.call = task.call ∧
      u.agenda = .single ∧ s.nextTask ≤ u.id ∧ u.id < s.nextTask + stages.length ∧
      u.stage ∈ stages := by
  rw [started, List.mem_mapIdx] at h
  obtain ⟨i, hi, rfl⟩ := h
  exact ⟨rfl, rfl, rfl, rfl, Nat.le_add_right _ _, Nat.add_lt_add_left hi _,
    List.getElem_mem hi⟩

theorem exists_started (s : BuildSession σ) (task : BuildTask) {stages : List BuildTask.Stage}
    {stage : BuildTask.Stage} (h : stage ∈ stages) :
    ∃ u ∈ s.started task stages, u.stage = stage := by
  obtain ⟨i, hi, rfl⟩ := List.getElem_of_mem h
  exact ⟨_, List.mem_mapIdx.2 ⟨i, hi, rfl⟩, rfl⟩

section Members

variable (h : s.Orderly) (htask : task ∈ s.tasks)

include h htask

theorem parent_ne_self : task.parent ≠ some task.id := by
  intro hparent
  exact absurd (h.family task htask _ hparent).1 (Nat.lt_irrefl _)

theorem mem_tasks_perform (turn : Turn σ) :
    u ∈ (s.perform task turn).tasks ↔
      (u ∈ s.tasks ∧ u.id ≠ task.id ∧ (turn.gathers = true → u.parent ≠ some task.id)) ∨
        u = turn.after task ∨ u ∈ s.started task turn.spawned := by
  rw [perform, List.mem_append, ← or_assoc]
  refine or_congr_left ?_
  rw [List.mem_map]
  constructor
  · rintro ⟨old, hold, rfl⟩
    obtain ⟨hmem, hkept⟩ := mem_remaining.1 hold
    by_cases hid : old.id = task.id
    · rw [if_pos hid]
      exact Or.inr rfl
    · rw [if_neg hid]
      exact Or.inl ⟨hmem, hid, hkept⟩
  · rintro (⟨hmem, hid, hkept⟩ | rfl)
    · exact ⟨u, mem_remaining.2 ⟨hmem, hkept⟩, if_neg hid⟩
    · exact ⟨task, mem_remaining.2 ⟨htask, fun _ => parent_ne_self h htask⟩, if_pos rfl⟩

theorem after_mem_perform (turn : Turn σ) : turn.after task ∈ (s.perform task turn).tasks :=
  (mem_tasks_perform h htask turn).2 (Or.inr (Or.inl rfl))

theorem started_mem_perform (hu : u ∈ s.started task turn.spawned) :
    u ∈ (s.perform task turn).tasks :=
  (mem_tasks_perform h htask turn).2 (Or.inr (Or.inr hu))

theorem exists_root_perform (turn : Turn σ) {call : Nat}
    (hroot : ∃ root ∈ s.tasks, root.parent = none ∧ root.call = call) :
    ∃ root ∈ (s.perform task turn).tasks, root.parent = none ∧ root.call = call := by
  obtain ⟨root, hmem, hparent, hcall⟩ := hroot
  by_cases hid : root.id = task.id
  · obtain rfl := h.eq_of_id hmem htask hid
    exact ⟨_, after_mem_perform h htask turn, hparent, hcall⟩
  · refine ⟨root, (mem_tasks_perform h htask turn).2 (Or.inl ⟨hmem, hid, fun _ => ?_⟩),
      hparent, hcall⟩
    simp [hparent]

/-- If no two tasks that nobody waits for have the same of something that does not depend on their
stage, a turn keeps it so. -/
theorem eq_of_roots_perform {α : Type} {f : BuildTask → α} (turn : Turn σ)
    (hafter : f (turn.after task) = f task)
    (hroots : ∀ u ∈ s.tasks, ∀ v ∈ s.tasks, u.parent = none → v.parent = none →
      f u = f v → u = v) :
    ∀ u ∈ (s.perform task turn).tasks, ∀ v ∈ (s.perform task turn).tasks,
      u.parent = none → v.parent = none → f u = f v → u = v := by
  have hcases := fun u => mem_tasks_perform (u := u) h htask turn
  intro u hu v hv hup hvp hsame
  rcases (hcases u).1 hu with ⟨hu, hune, -⟩ | rfl | hu <;>
    rcases (hcases v).1 hv with ⟨hv, hvne, -⟩ | rfl | hv
  · exact hroots u hu v hv hup hvp hsame
  · rw [hafter] at hsame
    exact absurd (congrArg BuildTask.id (hroots u hu task htask hup hvp hsame)) hune
  · simp [(mem_started hv).1] at hvp
  · rw [hafter] at hsame
    exact absurd (congrArg BuildTask.id (hroots v hv task htask hvp hup hsame.symm)) hvne
  · rfl
  · simp [(mem_started hv).1] at hvp
  · simp [(mem_started hu).1] at hup
  · simp [(mem_started hu).1] at hup
  · simp [(mem_started hu).1] at hup

end Members

variable [FileStore σ]

/-- Only a task that waits takes others in, and it takes in what is finished. -/
theorem Turns.gathers_iff (hturn : Turns s task turn) :
    turn.gathers = true ↔ task.IsWaiting := by
  unfold BuildTask.IsWaiting
  cases hturn <;> simp_all [turnTo]

theorem Turns.isWaiting_after (hturn : Turns s task turn) (hspawned : turn.spawned ≠ []) :
    (turn.after task).IsWaiting := by
  unfold BuildTask.IsWaiting Turn.after
  cases hturn <;> simp_all [turnTo]

theorem Turns.crashed_iff (hturn : Turns s task turn) : turn.stage = .crashed ↔
    ∃ job text, task.stage = .transform job text ∧
      s.sourceTransform job.source text (.ofSource s.store s.options job.source) = .crash := by
  constructor
  · intro hcrashed
    cases hturn with
    | crash hstage hcrash => exact ⟨_, _, hstage, hcrash⟩
    | _ => simp [turnTo] at hcrashed
  · rintro ⟨job, text, hstage, hcrash⟩
    cases hturn <;> simp_all [turnTo]

theorem Turns.spawned_visits (hturn : Turns s task turn) :
    ∀ stage ∈ turn.spawned, ∃ path requester, stage = .visit path requester := by
  cases hturn with
  | walk =>
      intro stage hstage
      obtain ⟨file, -, rfl⟩ := List.mem_map.1 hstage
      exact ⟨_, _, rfl⟩
  | resolve =>
      intro stage hstage
      obtain ⟨file, -, rfl⟩ := List.mem_map.1 hstage
      exact ⟨_, _, rfl⟩
  | _ => simp [turnTo]

/-- A task is started for a file that a walk has found, or for an import of a source. -/
theorem Turns.spawned_cases (hturn : Turns s task turn) {stage : BuildTask.Stage}
    (hstage : stage ∈ turn.spawned) :
    (∃ directory requester files file, task.stage = .visit directory requester ∧
      s.options.IsWalked s.store directory ∧
      Walk.files s.store s.options directory = .ok files ∧ file ∈ files ∧
      turn.store = s.store ∧ stage = .visit file none) ∨
    ∃ job output files file, task.stage = .lookUp job output ∧
      s.dependencies job.source output.imports = .ok files ∧ file ∈ files ∧
      turn.store = s.store ∧ stage = .visit file (some job.dest) := by
  cases hturn with
  | walk hvisit hwalked hfiles =>
      obtain ⟨file, hfile, rfl⟩ := List.mem_map.1 hstage
      exact .inl ⟨_, _, _, file, hvisit, hwalked, hfiles, hfile, rfl, rfl⟩
  | resolve hlookup hfiles =>
      obtain ⟨file, hfile, rfl⟩ := List.mem_map.1 hstage
      exact .inr ⟨_, _, _, file, hlookup, hfiles, hfile, rfl, rfl⟩
  | _ => simp [turnTo] at hstage

/-- A task comes to look at a path that it could not claim, or at its next entry. -/
theorem Turns.visit_cases (hturn : Turns s task turn) {path : Path} {requester : Option Path}
    (hstage : turn.stage = .visit path requester) : task.stage = .claim path ∨
      ∃ count entry rest total, task.stage = .done count ∧
        task.agenda = .entries (entry :: rest) total ∧ path = s.options.entryPath entry := by
  cases hturn with
  | meet hclaim _ => exact .inl (by rw [hclaim]; cases hstage; rfl)
  | next hdone hagenda =>
      cases hstage
      exact .inr ⟨_, _, _, _, hdone, hagenda, rfl⟩
  | _ => cases hstage

/-- A turn leaves what its task has to do beyond the current path, or takes the next entry from it,
or finds that none is left. -/
theorem Turns.agenda_cases (hturn : Turns s task turn) : turn.agenda = task.agenda ∨
    (∃ count entry rest total, task.agenda = .entries (entry :: rest) total ∧
      turn.agenda = .entries rest (total + count) ∧
      turn.stage = .visit (s.options.entryPath entry) none) ∨
    ∃ total, task.agenda = .entries [] total := by
  cases hturn with
  | next _ hagenda => exact .inr (.inl ⟨_, _, _, _, hagenda, rfl, rfl⟩)
  | report _ hagenda => exact .inr (.inr ⟨_, hagenda⟩)
  | _ => exact .inl rfl

theorem Turns.job?_of_started (hturn : Turns s task turn) (hu : u ∈ s.started task turn.spawned) :
    u.stage.job? = none := by
  obtain ⟨path, requester, hstage⟩ := hturn.spawned_visits _ (mem_started hu).2.2.2.2.2.2
  rw [hstage]
  rfl

theorem mapM_eq_some {α β : Type} {f : α → Option β} {xs : List α} {ys : List β}
    (h : xs.mapM f = some ys) : ∀ x ∈ xs, ∃ y, f x = some y := by
  induction xs generalizing ys with
  | nil => simp
  | cons x xs ih =>
      rw [List.mapM_cons] at h
      obtain ⟨y, hy, h⟩ := Option.bind_eq_some_iff.1 h
      obtain ⟨zs, hzs, -⟩ := Option.bind_eq_some_iff.1 h
      exact List.forall_mem_cons.2 ⟨⟨y, hy⟩, ih hzs⟩

theorem mapM_eq_none {α β : Type} {f : α → Option β} {xs : List α} (h : xs.mapM f = none) :
    ∃ x ∈ xs, f x = none := by
  induction xs with
  | nil => simp [pure] at h
  | cons x xs ih =>
      rw [List.mapM_cons] at h
      cases hx : f x with
      | none => exact ⟨x, by simp, hx⟩
      | some y =>
          cases hxs : xs.mapM f with
          | none =>
              obtain ⟨z, hz, hnone⟩ := ih hxs
              exact ⟨z, List.mem_cons_of_mem _ hz, hnone⟩
          | some ys => simp [hx, hxs] at h

theorem Turns.count?_child (hturn : Turns s task turn) (hgathers : turn.gathers = true)
    (hu : u ∈ s.tasks) (hparent : u.parent = some task.id) : ∃ count, u.count? = some count := by
  have hchild := mem_children.2 ⟨hu, hparent⟩
  cases hturn with
  | gather _ hcounts => exact mapM_eq_some hcounts u hchild
  | gatherFile _ hcounts => exact mapM_eq_some hcounts u hchild
  | _ => simp [turnTo] at hgathers

/-- A turn depends on the other tasks only through those that its task has started. -/
theorem Turns.congr (h : Turns s task turn) (hstore : t.store = s.store)
    (hoptions : t.options = s.options) (htransform : t.sourceTransform = s.sourceTransform)
    (hregister : t.register = s.register) (hchildren : t.children task = s.children task) :
    Turns t task turn := by
  obtain ⟨store, options, sourceTransform, register, _, _, _, _, _, _⟩ := t
  obtain rfl : store = s.store := hstore
  obtain rfl : options = s.options := hoptions
  obtain rfl : sourceTransform = s.sourceTransform := htransform
  obtain rfl : register = s.register := hregister
  cases h with
  | gather hstage hcounts => exact .gather hstage (hchildren ▸ hcounts)
  | gatherFile hstage hcounts => exact .gatherFile hstage (hchildren ▸ hcounts)
  | _ => constructor <;> assumption

theorem mem_perform_of_ne (h : s.Orderly) (htask : task ∈ s.tasks) (hturn : Turns s task turn)
    (hu : u ∈ s.tasks) (hne : u ≠ task) (hcount : u.count? = none) :
    u ∈ (s.perform task turn).tasks := by
  refine (mem_tasks_perform h htask turn).2 (Or.inl ⟨hu, fun hid => ?_, fun hgathers hparent => ?_⟩)
  · exact hne (h.eq_of_id hu htask hid)
  · obtain ⟨count, hsome⟩ := hturn.count?_child hgathers hu hparent
    simp [hcount] at hsome

/-- A task that works on a target goes on with it when others take their turns. -/
theorem mem_perform_of_job? {job : BuildJob} (h : s.Orderly) (htask : task ∈ s.tasks)
    (hturn : Turns s task turn) (hu : u ∈ s.tasks) (hne : u ≠ task)
    (hjob : u.stage.job? = some job) : u ∈ (s.perform task turn).tasks := by
  refine mem_perform_of_ne h htask hturn hu hne ?_
  by_contra hcount
  obtain ⟨count, hcount⟩ := Option.ne_none_iff_exists'.1 hcount
  rw [BuildTask.job?_of_count? hcount] at hjob
  contradiction

theorem Turns.agenda_eq (hturn : Turns s task turn) (h : task.agenda = .single) :
    turn.agenda = .single := by
  cases hturn <;> simp_all [turnTo]

theorem Orderly.perform (h : s.Orderly) (htask : task ∈ s.tasks) (hturn : Turns s task turn) :
    (s.perform task turn).Orderly := by
  have hmem := fun u => mem_tasks_perform (u := u) h htask turn
  refine ⟨?_, fun u hu => ?_, fun u hu parent hparent => ?_, fun u hu hparent => ?_⟩
  · refine List.pairwise_append.2 ⟨?_, ?_, ?_⟩
    · have hids : ∀ old : BuildTask, (if old.id = task.id then
          { task with stage := turn.stage, agenda := turn.agenda } else old).id = old.id := by
        intro old
        split
        · rename_i hid
          exact hid.symm
        · rfl
      rw [List.pairwise_map]
      simp only [hids]
      rw [remaining]
      split
      · exact h.ids.filter _
      · exact h.ids
    · rw [List.pairwise_iff_getElem]
      intro i j hi hj hij
      simp only [started, List.getElem_mapIdx]
      omega
    · intro a ha b hb
      obtain ⟨old, hold, rfl⟩ := List.mem_map.1 ha
      have hbound := h.bound old (mem_remaining.1 hold).1
      have hnew := (mem_started hb).2.2.2.2.1
      split
      · rename_i hid
        change task.id ≠ b.id
        omega
      · omega
  · change u.id < s.nextTask + turn.spawned.length
    rcases (hmem u).1 hu with ⟨hu, -⟩ | rfl | hu
    · exact Nat.lt_add_right _ (h.bound u hu)
    · exact Nat.lt_add_right _ (h.bound task htask)
    · exact (mem_started hu).2.2.2.2.2.1
  · rcases (hmem u).1 hu with ⟨hu, hid, hkept⟩ | rfl | hu
    · obtain ⟨hlt, waiting, hwaiting, rfl, hstage⟩ := h.family u hu parent hparent
      refine ⟨hlt, waiting, ?_, rfl, hstage⟩
      refine mem_perform_of_ne h htask hturn hwaiting ?_
        (BuildTask.count?_eq_none_of_isWaiting hstage)
      rintro rfl
      exact hkept (hturn.gathers_iff.2 hstage) hparent
    · obtain ⟨hlt, waiting, hwaiting, rfl, hstage⟩ := h.family task htask parent hparent
      refine ⟨hlt, waiting, ?_, rfl, hstage⟩
      refine mem_perform_of_ne h htask hturn hwaiting ?_
        (BuildTask.count?_eq_none_of_isWaiting hstage)
      rintro rfl
      exact Nat.lt_irrefl _ hlt
    · obtain ⟨hstarted, -, -, -, hge, -, hstage⟩ := mem_started hu
      obtain rfl := Option.some.inj (hstarted.symm.trans hparent)
      refine ⟨Nat.lt_of_lt_of_le (h.bound task htask) hge, turn.after task,
        after_mem_perform h htask turn, rfl, hturn.isWaiting_after ?_⟩
      exact List.ne_nil_of_mem hstage
  · rcases (hmem u).1 hu with ⟨hu, -⟩ | rfl | hu
    · exact h.single u hu hparent
    · exact hturn.agenda_eq (h.single task htask hparent)
    · exact (mem_started hu).2.2.2.1

omit [FileStore σ] in
/-- A turn replaces its task by what the task is afterwards and by the tasks that it starts, and
drops those that it takes in. -/
theorem exists_perm (h : s.Orderly) (htask : task ∈ s.tasks) (turn : Turn σ) :
    ∃ others : List BuildTask,
      s.tasks.Perm (task :: (others ++ s.gathered task turn.gathers)) ∧
      (s.perform task turn).tasks.Perm
        (turn.after task :: (others ++ s.started task turn.spawned)) := by
  have hids : (s.remaining task turn.gathers).Pairwise fun a b => a.id ≠ b.id := by
    rw [remaining]
    split
    · exact h.ids.filter _
    · exact h.ids
  have hmem : task ∈ s.remaining task turn.gathers :=
    mem_remaining.2 ⟨htask, fun _ => parent_ne_self h htask⟩
  obtain ⟨left, right, hsplit⟩ := List.append_of_mem hmem
  rw [hsplit, List.pairwise_append, List.pairwise_cons] at hids
  obtain ⟨-, ⟨hright, -⟩, hleft⟩ := hids
  have hkept : ∀ l : List BuildTask, (∀ u ∈ l, u.id ≠ task.id) →
      l.map (fun old => if old.id = task.id then turn.after task else old) = l := by
    intro l hl
    rw [List.map_congr_left fun u hu => if_neg (hl u hu), List.map_id']
  have htasks : (s.perform task turn).tasks =
      left ++ turn.after task :: right ++ s.started task turn.spawned := by
    change ((s.remaining task turn.gathers).map
      fun old => if old.id = task.id then turn.after task else old) ++ _ = _
    rw [hsplit, List.map_append, List.map_cons, if_pos rfl,
      hkept left fun u hu => hleft u hu task (by simp),
      hkept right fun u hu => (hright u hu).symm]
  have hremaining : s.tasks.Perm
      (s.remaining task turn.gathers ++ s.gathered task turn.gathers) := by
    rw [remaining, gathered]
    split
    · have hperm := (List.filter_append_perm (fun u : BuildTask => u.parent != some task.id)
        s.tasks).symm
      simpa only [children, bne, Bool.not_not] using hperm
    · simp
  refine ⟨left ++ right, hremaining.trans ?_, ?_⟩
  · rw [hsplit, ← List.cons_append]
    exact List.perm_middle.append_right _
  · rw [htasks, ← List.cons_append]
    exact List.perm_middle.append_right _

/-- How many tasks are of some kind after a turn, if none that is finished or just started is. -/
theorem countP_perform (h : s.Orderly) (htask : task ∈ s.tasks) (hturn : Turns s task turn)
    {f : BuildTask → Bool} (hfinished : ∀ u count, u.count? = some count → f u = false)
    (hstarted : ∀ u ∈ s.started task turn.spawned, f u = false) :
    (s.perform task turn).tasks.countP f + (if f task then 1 else 0) =
      s.tasks.countP f + if f (turn.after task) then 1 else 0 := by
  obtain ⟨others, hbefore, hafter⟩ := exists_perm h htask turn
  have hnone : (s.gathered task turn.gathers).countP f = 0 := by
    apply List.countP_eq_zero.2
    intro u hu
    obtain ⟨hgathers, hu, hparent⟩ := mem_gathered.1 hu
    obtain ⟨count, hcount⟩ := hturn.count?_child hgathers hu hparent
    simp [hfinished u count hcount]
  have hnew : (s.started task turn.spawned).countP f = 0 :=
    List.countP_eq_zero.2 fun u hu => by simp [hstarted u hu]
  rw [hbefore.countP_eq, hafter.countP_eq, List.countP_cons, List.countP_cons, List.countP_append,
    List.countP_append, hnone, hnew]
  omega

omit [FileStore σ] in
/-- A weight of tasks after a turn: what its task and those that it takes in had is gone, and what
the task has afterwards and those have that it starts is added. -/
theorem sum_perform (h : s.Orderly) (htask : task ∈ s.tasks) (turn : Turn σ)
    (weight : BuildTask → Nat) :
    ((s.perform task turn).tasks.map weight).sum + weight task +
        ((s.gathered task turn.gathers).map weight).sum =
      (s.tasks.map weight).sum + weight (turn.after task) +
        ((s.started task turn.spawned).map weight).sum := by
  obtain ⟨others, hbefore, hafter⟩ := exists_perm h htask turn
  rw [(hbefore.map weight).sum_nat, (hafter.map weight).sum_nat]
  simp only [List.map_cons, List.map_append, List.sum_cons, List.sum_append]
  omega

omit [FileStore σ] in
/-- A weight of tasks grows at most by what a turn gives to its task and to those it starts. -/
theorem sum_perform_le (h : s.Orderly) (htask : task ∈ s.tasks) (turn : Turn σ)
    (weight : BuildTask → Nat) :
    ((s.perform task turn).tasks.map weight).sum + weight task ≤
      (s.tasks.map weight).sum + weight (turn.after task) +
        ((s.started task turn.spawned).map weight).sum := by
  have hsum := sum_perform h htask turn weight
  omega

theorem step?_eq_none_of_next? (h : s.next? = none) (id : Nat) : s.step? id = none := by
  cases hfound : s.task? id with
  | none => simp [step?, hfound]
  | some task =>
      obtain ⟨hmem, rfl⟩ := mem_of_task? hfound
      exact List.findSome?_eq_none_iff.1 h task hmem

omit [FileStore σ] in
theorem Orderly.call (h : s.Orderly) (addressee : Addressee) (request : Request) :
    (s.call addressee request).1.Orderly := by
  have hmem : ∀ u, u ∈ (s.call addressee request).1.tasks ↔
      u ∈ s.tasks ∨
        u = ⟨s.nextTask, none, s.nextCall, addressee, request.agenda, request.stage⟩ := by
    intro u
    simp [BuildSession.call]
  refine ⟨?_, fun u hu => ?_, fun u hu parent hparent => ?_, fun u hu hparent => ?_⟩
  · refine List.pairwise_append.2 ⟨h.ids, List.pairwise_singleton _ _, fun a ha b hb => ?_⟩
    rw [List.mem_singleton.1 hb]
    exact Nat.ne_of_lt (h.bound a ha)
  · change u.id < s.nextTask + 1
    rcases (hmem u).1 hu with hu | rfl
    · exact Nat.lt_succ_of_lt (h.bound u hu)
    · exact Nat.lt_succ_self _
  · rcases (hmem u).1 hu with hu | rfl
    · obtain ⟨hlt, waiting, hwaiting, hid⟩ := h.family u hu parent hparent
      exact ⟨hlt, waiting, (hmem waiting).2 (Or.inl hwaiting), hid⟩
    · contradiction
  · rcases (hmem u).1 hu with hu | rfl
    · exact h.single u hu hparent
    · exact absurd rfl hparent

/-- A task that works on a target has not come to its end. -/
theorem outcome?_of_job? {job : BuildJob} (hjob : task.stage.job? = some job) :
    outcome? task = none := by
  unfold outcome?
  split
  · rename_i hstage
    rw [hstage] at hjob
    contradiction
  · rename_i hstage
    rw [hstage] at hjob
    contradiction
  · rfl

omit [FileStore σ] in
theorem mem_collect_of_job? {job : BuildJob} (htask : task ∈ s.tasks)
    (hjob : task.stage.job? = some job) : task ∈ s.collect.1.tasks :=
  List.mem_filter.2 ⟨htask, by rw [outcome?_of_job? hjob]; rfl⟩

omit [FileStore σ] in
theorem Orderly.of_perm (h : s.Orderly) (hperm : t.tasks.Perm s.tasks)
    (hnext : t.nextTask = s.nextTask) : t.Orderly where
  ids := hperm.symm.pairwise h.ids fun hne => Ne.symm hne
  bound task htask := hnext ▸ h.bound task (hperm.mem_iff.1 htask)
  family task htask parent hparent := by
    obtain ⟨hlt, waiting, hwaiting, hrest⟩ := h.family task (hperm.mem_iff.1 htask) parent hparent
    exact ⟨hlt, waiting, hperm.mem_iff.2 hwaiting, hrest⟩
  single task htask := h.single task (hperm.mem_iff.1 htask)

omit [FileStore σ] in
theorem Orderly.collect (h : s.Orderly) : s.collect.1.Orderly := by
  refine ⟨h.ids.filter _, fun u hu => h.bound u (List.mem_filter.1 hu).1,
    fun u hu parent hparent => ?_, fun u hu => h.single u (List.mem_filter.1 hu).1⟩
  obtain ⟨hlt, waiting, hwaiting, hid, pending, hstage⟩ :=
    h.family u (List.mem_filter.1 hu).1 parent hparent
  refine ⟨hlt, waiting, List.mem_filter.2 ⟨hwaiting, ?_⟩, hid, pending, hstage⟩
  rw [outcome?, hstage]
  cases waiting.parent <;> cases waiting.agenda <;> rfl

section Calls

omit [FileStore σ]

/-- A call ends without an answer only if its task has broken down. -/
theorem exists_crashed_of_outcome {call : Nat} (h : ⟨call, none⟩ ∈ s.collect.2) :
    ∃ root ∈ s.tasks, root.parent = none ∧ root.call = call ∧ root.stage = .crashed := by
  obtain ⟨root, hroot, houtcome⟩ := List.mem_filterMap.1 h
  refine ⟨root, hroot, ?_⟩
  unfold outcome? at houtcome
  split at houtcome <;> simp_all

/-- A task works for the call of the task that waits for it. -/
def Kindred (s : BuildSession σ) : Prop :=
  ∀ task ∈ s.tasks, ∀ waiting ∈ s.tasks, task.parent = some waiting.id →
    task.call = waiting.call

/-- The session without the tasks of some calls. -/
def keepCalls (s : BuildSession σ) (keeps : Nat → Bool) : BuildSession σ :=
  { s with tasks := s.tasks.filter fun task => keeps task.call }

theorem Kindred.call (h : s.Kindred) (horderly : s.Orderly) (addressee : Addressee)
    (request : Request) : (s.call addressee request).1.Kindred := by
  intro u hu v hv hparent
  rcases List.mem_append.1 hu with hu | hu
  · rcases List.mem_append.1 hv with hv | hv
    · exact h u hu v hv hparent
    · rw [List.mem_singleton.1 hv] at hparent
      have hlt := (horderly.family u hu _ hparent).1
      exact absurd (horderly.bound u hu) (Nat.not_lt_of_lt hlt)
  · rw [List.mem_singleton.1 hu] at hparent
    contradiction

theorem Kindred.perform (h : s.Kindred) (horderly : s.Orderly) (htask : task ∈ s.tasks)
    (turn : Turn σ) : (s.perform task turn).Kindred := by
  have hmem := fun u => mem_tasks_perform (u := u) horderly htask turn
  -- Nobody is waited for by a task that was started after it.
  have hnew : ∀ u ∈ s.tasks, ∀ v ∈ s.started task turn.spawned, u.parent ≠ some v.id := by
    intro u hu v hv hparent
    have hlt := (horderly.family u hu _ hparent).1
    have hbound := horderly.bound u hu
    have hge := (mem_started hv).2.2.2.2.1
    omega
  intro u hu v hv hparent
  rcases (hmem u).1 hu with ⟨hu, -⟩ | rfl | hu
  · rcases (hmem v).1 hv with ⟨hv, -⟩ | rfl | hv
    · exact h u hu v hv hparent
    · exact h u hu task htask hparent
    · exact absurd hparent (hnew u hu v hv)
  · rcases (hmem v).1 hv with ⟨hv, -⟩ | rfl | hv
    · exact h task htask v hv hparent
    · rfl
    · exact absurd hparent (hnew task htask v hv)
  · obtain ⟨hstarted, -, hcall, -⟩ := mem_started hu
    have hid : task.id = v.id := Option.some.inj (hstarted.symm.trans hparent)
    rcases (hmem v).1 hv with ⟨-, hne, -⟩ | rfl | hv
    · exact absurd hid.symm hne
    · exact hcall
    · have hge := (mem_started hv).2.2.2.2.1
      have hbound := horderly.bound task htask
      omega

theorem Kindred.mono (h : s.Kindred) (hsub : ∀ task ∈ t.tasks, task ∈ s.tasks) : t.Kindred :=
  fun task htask waiting hwaiting => h task (hsub task htask) waiting (hsub waiting hwaiting)

/-- Whoever is kept is still waited for by a task of the same call. -/
theorem Orderly.keepCalls (h : s.Orderly) (hkindred : s.Kindred) (keeps : Nat → Bool) :
    (s.keepCalls keeps).Orderly := by
  have hsub : ∀ task ∈ (s.keepCalls keeps).tasks, task ∈ s.tasks :=
    fun task htask => (List.mem_filter.1 htask).1
  refine ⟨h.ids.filter _, fun u hu => h.bound u (hsub u hu), fun u hu parent hparent => ?_,
    fun u hu => h.single u (hsub u hu)⟩
  obtain ⟨hlt, waiting, hwaiting, rfl, hstage⟩ := h.family u (hsub u hu) parent hparent
  refine ⟨hlt, waiting, List.mem_filter.2 ⟨hwaiting, ?_⟩, rfl, hstage⟩
  rw [← hkindred u (hsub u hu) waiting hwaiting hparent]
  exact (List.mem_filter.1 hu).2

end Calls

end BuildSession

end LiveBuild
