import LiveBuild.Proofs.TaskTree
import Mathlib.Logic.Relation

/-!
# Who waits for whom

A task waits for the tasks that it has started, and for nothing else. It was there before them, so
its number is lower than theirs, and nothing waits for itself. Following the waits from a task that
is not finished leads to one that can go on. Every call has one task that nobody waits for, and once
that has returned, no other task works for the call.
-/

namespace LiveBuild.BuildSession

variable {σ : Type} {s : BuildSession σ} {task u v : BuildTask} {call : Nat}

/-- One task waits for another. -/
structure Awaits (s : BuildSession σ) (u v : BuildTask) : Prop where
  waiting : u ∈ s.tasks
  awaited : v ∈ s.tasks
  gathers : u.IsWaiting
  parent : v.parent = some u.id

/-- A call has returned, with what it has built. -/
def Returned (s : BuildSession σ) (call : Nat) : Prop :=
  ∃ total, (⟨call, some total⟩ : Outcome) ∈ s.collect.2

/-- A call is carried out by a task that nobody waits for. -/
def Rooted (s : BuildSession σ) (call : Nat) : Prop :=
  ∃ root ∈ s.tasks, root.parent = none ∧ root.call = call

theorem Orderly.lt_of_awaits (h : s.Orderly) (hawaits : s.Awaits u v) : u.id < v.id :=
  (h.family v hawaits.awaited u.id hawaits.parent).1

theorem Orderly.not_transGen_awaits (h : s.Orderly) : ¬ Relation.TransGen s.Awaits u u := by
  have hlt : ∀ v, Relation.TransGen s.Awaits u v → u.id < v.id := by
    intro v hv
    induction hv with
    | single huv => exact h.lt_of_awaits huv
    | tail _ hvw ih => exact Nat.lt_trans ih (h.lt_of_awaits hvw)
  exact fun hu => Nat.lt_irrefl _ (hlt u hu)

/-- The tasks of a call wait for each other, except for one. -/
structure Called (s : BuildSession σ) : Prop where
  orderly : s.Orderly
  kindred : s.Kindred
  calls : ∀ task ∈ s.tasks, task.call < s.nextCall
  roots : ∀ u ∈ s.tasks, ∀ v ∈ s.tasks, u.parent = none → v.parent = none →
    u.call = v.call → u = v

theorem exists_finished_of_returned (h : s.Returned call) :
    ∃ root ∈ s.tasks, root.parent = none ∧ root.call = call ∧ root.agenda = .single ∧
      ∃ count, root.stage = .done count := by
  obtain ⟨total, hreturned⟩ := h
  obtain ⟨root, hroot, houtcome⟩ := List.mem_filterMap.1 hreturned
  refine ⟨root, hroot, ?_⟩
  unfold outcome? at houtcome
  split at houtcome <;> simp_all

namespace Called

theorem start (store : σ) (options : BuildOptions) (sourceTransform : SourceTransform) :
    (BuildSession.start store options sourceTransform).Called where
  orderly := ⟨List.Pairwise.nil, fun _ h => (nomatch h), fun _ h => (nomatch h),
    fun _ h => (nomatch h)⟩
  kindred _ h := nomatch h
  calls _ h := nomatch h
  roots _ h := nomatch h

theorem request (h : s.Called) (addressee : Addressee) (request : Request) :
    (s.call addressee request).1.Called where
  orderly := h.orderly.call addressee request
  kindred := h.kindred.call h.orderly addressee request
  calls task htask := by
    rcases List.mem_append.1 htask with htask | htask
    · exact Nat.lt_succ_of_lt (h.calls task htask)
    · rw [List.mem_singleton.1 htask]
      exact Nat.lt_succ_self _
  roots u hu v hv hup hvp hsame := by
    rcases List.mem_append.1 hu with hu | hu <;> rcases List.mem_append.1 hv with hv | hv
    · exact h.roots u hu v hv hup hvp hsame
    · rw [List.mem_singleton.1 hv] at hsame
      exact absurd hsame (Nat.ne_of_lt (h.calls u hu))
    · rw [List.mem_singleton.1 hu] at hsame
      exact absurd hsame.symm (Nat.ne_of_lt (h.calls v hv))
    · rw [List.mem_singleton.1 hu, List.mem_singleton.1 hv]

/-- Fewer tasks are as well related, if whoever is waited for stays with the one that waits. -/
theorem of_subset {t : BuildSession σ} (h : s.Called) (horderly : t.Orderly)
    (hsub : ∀ task ∈ t.tasks, task ∈ s.tasks) (hcalls : t.nextCall = s.nextCall) : t.Called where
  orderly := horderly
  kindred := h.kindred.mono hsub
  calls task htask := hcalls ▸ h.calls task (hsub task htask)
  roots u hu v hv := h.roots u (hsub u hu) v (hsub v hv)

theorem collect (h : s.Called) : s.collect.1.Called :=
  h.of_subset h.orderly.collect (fun _ htask => (List.mem_filter.1 htask).1) rfl

theorem perform [FileStore σ] (h : s.Called) {turn : Turn σ} (htask : task ∈ s.tasks)
    (hturn : Turns s task turn) : (s.perform task turn).Called where
  orderly := h.orderly.perform htask hturn
  kindred := h.kindred.perform h.orderly htask turn
  calls u hu := by
    rcases (mem_tasks_perform h.orderly htask turn).1 hu with ⟨hu, -⟩ | rfl | hu
    · exact h.calls u hu
    · exact h.calls task htask
    · rw [(mem_started hu).2.2.1]
      exact h.calls task htask
  roots := eq_of_roots_perform (f := BuildTask.call) h.orderly htask turn rfl h.roots

/-- A call whose first task waits for nobody has no other tasks. -/
theorem eq_root (h : s.Called) {root : BuildTask} (hroot : root ∈ s.tasks)
    (hparent : root.parent = none) (hidle : ¬ root.IsWaiting) (hu : u ∈ s.tasks)
    (hcall : u.call = root.call) : u = root := by
  -- Following the waits upwards leads to the root, which waits for nobody.
  suffices hall : ∀ n, ∀ u ∈ s.tasks, u.id = n → u.call = root.call → u = root from
    hall _ u hu rfl hcall
  intro n
  induction n using Nat.strongRecOn with
  | ind n ih =>
      intro u hu hn hcall
      cases hup : u.parent with
      | none => exact h.roots u hu root hroot hup hparent hcall
      | some parent =>
          obtain ⟨hlt, waiting, hwaiting, rfl, hgather⟩ := h.orderly.family u hu _ hup
          have hsame := h.kindred u hu waiting hwaiting hup
          rw [ih waiting.id (hn ▸ hlt) waiting hwaiting rfl (hsame.symm.trans hcall)] at hgather
          exact absurd hgather hidle

/-- Once a call has returned, none of its tasks has anything left to do. -/
theorem finished (h : s.Called) (hreturned : s.Returned call) (hu : u ∈ s.tasks)
    (hcall : u.call = call) : u.agenda = .single ∧ ∃ count, u.stage = .done count := by
  obtain ⟨root, hroot, hparent, hrootcall, hagenda, count, hstage⟩ :=
    exists_finished_of_returned hreturned
  have hidle : ¬ root.IsWaiting := by
    rintro ⟨pending, hgather⟩
    rw [hstage] at hgather
    exact BuildTask.Stage.noConfusion hgather
  rw [h.eq_root hroot hparent hidle hu (hcall.trans hrootcall.symm)]
  exact ⟨hagenda, count, hstage⟩

end Called

variable [FileStore σ]

/-- A task that is not finished goes on, or waits for one that is not finished. -/
theorem Orderly.goes_on_or_awaits (h : s.Orderly) (hheld : s.held = false) (htask : task ∈ s.tasks)
    (hunfinished : task.count? = none) :
    (∃ t, s.step? task.id = some t) ∨ ∃ u, s.Awaits task u ∧ u.count? = none := by
  rw [step?, h.task?_eq htask, Option.bind_eq_bind, Option.bind_some]
  cases hstage : task.stage with
  | gather pending =>
      cases hcounts : (s.children task).mapM BuildTask.count? with
      | some counts =>
          left
          cases pending <;> simp [gather?, hcounts]
      | none =>
          obtain ⟨child, hchild, hnone⟩ := mapM_eq_none hcounts
          obtain ⟨hmem, hparent⟩ := mem_children.1 hchild
          exact Or.inr ⟨child, ⟨htask, hmem, ⟨pending, hstage⟩, hparent⟩, hnone⟩
  | done count =>
      left
      cases hagenda : task.agenda with
      | single => simp [BuildTask.count?, hagenda, hstage] at hunfinished
      | entries rest total => cases rest <;> simp [proceed?, hagenda]
  | crashed => simp [BuildTask.count?, hstage] at hunfinished
  | transform job text => simp [hheld]
  | _ => simp

/-- Some task can go on as long as one is not finished. -/
theorem Orderly.exists_step (h : s.Orderly) (hheld : s.held = false) (htask : task ∈ s.tasks)
    (hunfinished : task.count? = none) : ∃ t, s.Steps t := by
  -- The waits lead to ever higher numbers, and these are bounded.
  induction hn : s.nextTask - task.id using Nat.strongRecOn generalizing task with
  | ind n ih =>
      rcases h.goes_on_or_awaits hheld htask hunfinished with ⟨t, hstep⟩ | ⟨u, hawaits, hu⟩
      · exact ⟨t, task.id, hstep⟩
      · have hlt := h.lt_of_awaits hawaits
        have hbound := h.bound u hawaits.awaited
        exact ih _ (by omega) hawaits.awaited hu rfl

theorem Orderly.count?_of_stuck (h : s.Orderly) (hheld : s.held = false)
    (hstuck : ∀ id, s.step? id = none) (htask : task ∈ s.tasks) :
    ∃ count, task.count? = some count := by
  apply Option.ne_none_iff_exists'.1
  intro hunfinished
  obtain ⟨t, id, hstep⟩ := h.exists_step hheld htask hunfinished
  rw [hstuck id] at hstep
  contradiction

/-- A session in which no task can go on has finished its calls. -/
theorem Orderly.finished (h : s.Orderly) (hheld : s.held = false)
    (hstuck : ∀ id, s.step? id = none) (htask : task ∈ s.tasks) :
    task.parent = none ∧
      (task.stage = .crashed ∨ ∃ count, task.stage = .done count ∧ task.agenda = .single) := by
  constructor
  · by_contra hparent
    obtain ⟨parent, hparent⟩ := Option.ne_none_iff_exists'.1 hparent
    obtain ⟨-, waiting, hmem, -, hwait⟩ := h.family task htask parent hparent
    obtain ⟨count, hcount⟩ := h.count?_of_stuck hheld hstuck hmem
    rw [BuildTask.count?_eq_none_of_isWaiting hwait] at hcount
    contradiction
  · obtain ⟨count, hcount⟩ := h.count?_of_stuck hheld hstuck htask
    unfold BuildTask.count? at hcount
    split at hcount
    · rename_i hagenda hstage
      exact Or.inr ⟨_, hstage, hagenda⟩
    · rename_i hstage
      exact Or.inl hstage
    · contradiction

theorem Orderly.returned_of_stuck (h : s.Orderly) (hheld : s.held = false)
    (hsafe : ∀ task ∈ s.tasks, task.stage ≠ .crashed) (hstuck : ∀ id, s.step? id = none)
    (hroot : s.Rooted call) : s.Returned call := by
  obtain ⟨root, hmem, hparent, hcall⟩ := hroot
  obtain ⟨count, hstage, hagenda⟩ :=
    (h.finished hheld hstuck hmem).2.resolve_left (hsafe root hmem)
  refine ⟨count, List.mem_filterMap.2 ⟨root, hmem, ?_⟩⟩
  simp [outcome?, hparent, hagenda, hstage, hcall]

/-- A call that has not returned leaves some task that can go on. -/
theorem Orderly.exists_step_of_not_returned (h : s.Orderly) (hheld : s.held = false)
    (hsafe : ∀ task ∈ s.tasks, task.stage ≠ .crashed) (hroot : s.Rooted call)
    (hreturned : ¬ s.Returned call) : ∃ t, s.Steps t := by
  by_contra hnone
  refine hreturned (h.returned_of_stuck hheld hsafe (fun id => ?_) hroot)
  cases hstep : s.step? id with
  | none => rfl
  | some t => exact absurd ⟨t, id, hstep⟩ hnone

end LiveBuild.BuildSession
