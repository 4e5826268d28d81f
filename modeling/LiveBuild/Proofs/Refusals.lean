import LiveBuild.Proofs.Histories
import LiveBuild.Proofs.Waiting

/-!
# What lies outside is refused

Whoever makes a call that leads out of the base directory is told. Either some task of the call
still has the path before it, or the refusal was sent; and once the call has returned, no task of it
has anything before it.
-/

namespace LiveBuild.BuildSession

/-- A task looks at a path next, or has an entry left that stands for it. -/
inductive Faces (o : BuildOptions) (task : BuildTask) (path : Path) : Prop
  | now {requester : Option Path} : task.stage = .visit path requester → Faces o task path
  | later {rest : List Path} {total : Nat} {entry : Path} : task.agenda = .entries rest total →
      entry ∈ rest → o.entryPath entry = path → Faces o task path

section Refusal

variable {σ : Type} {first s t : BuildSession σ} {past later : History σ} {move : Move σ}
  {task u : BuildTask} {turn : Turn σ} {path file : Path} {requester : Option Path}
  {addressee : Addressee} {entries : List Path} {job : BuildJob} {output : SourceOutput}
  {files : List Path} {id call : Nat}

/-- Somebody was told that a path is outside of the base directory. -/
def Refused (s : BuildSession σ) (addressee : Addressee) (path : Path) : Prop :=
  (addressee, BuildEvent.forFile path (.outsideBase path)) ∈ s.sent

/-- Some task of a call has a path before it. -/
def Owes (s : BuildSession σ) (call : Nat) (addressee : Addressee) (path : Path) : Prop :=
  ∃ task ∈ s.tasks, task.call = call ∧ task.addressee = addressee ∧ Faces s.options task path

/-- A task is taken out of the session with a path before it only if it has broken down. -/
theorem Faces.crashed {o : BuildOptions} (h : Faces o task path)
    (houtcome : outcome? task ≠ none) : task.parent = none ∧ task.stage = .crashed := by
  unfold outcome? at houtcome
  split at houtcome
  · rename_i hagenda hstage
    cases h with
    | now hvisit => simp [hstage] at hvisit
    | later hlater => simp [hagenda] at hlater
  · exact ⟨‹_›, ‹_›⟩
  · contradiction

theorem Owes.request (h : s.Owes call addressee path) (other : Addressee) (request : Request) :
    (s.call other request).1.Owes call addressee path := by
  obtain ⟨task, htask, hfaces⟩ := h
  exact ⟨task, List.mem_append_left _ htask, hfaces⟩

/-- The task of a call is collected only at its end. -/
theorem Owes.collect (h : s.Owes call addressee path) (hs : s.Called)
    (hrooted : s.collect.1.Rooted call) : s.collect.1.Owes call addressee path := by
  obtain ⟨task, htask, hcall, haddressee, hfaces⟩ := h
  refine ⟨task, List.mem_filter.2 ⟨htask, ?_⟩, hcall, haddressee, hfaces⟩
  rw [Option.isNone_iff_eq_none]
  by_contra houtcome
  obtain ⟨root, hroot, hparent, hrootcall⟩ := hrooted
  obtain ⟨hroot, hkept⟩ := List.mem_filter.1 hroot
  have hsame := hs.roots task htask root hroot (hfaces.crashed houtcome).1 hparent
    (hcall.trans hrootcall.symm)
  rw [← hsame, Option.isNone_iff_eq_none] at hkept
  exact houtcome hkept

/-- A call that has returned has nothing before it. -/
theorem Called.not_owes (h : s.Called) (hreturned : s.Returned call) :
    ¬ s.Owes call addressee path := by
  rintro ⟨task, htask, hcall, -, hfaces⟩
  obtain ⟨hagenda, count, hstage⟩ := h.finished hreturned htask hcall
  cases hfaces with
  | now hvisit => simp [hstage] at hvisit
  | later hlater => simp [hagenda] at hlater

theorem owes_compile (s : BuildSession σ) {entry : Path} (hentry : entry ∈ entries) :
    (s.call addressee (.compile entries)).1.Owes s.nextCall addressee
      (s.options.entryPath entry) :=
  ⟨_, List.mem_append_right _ (List.mem_singleton.2 rfl), rfl, rfl, .later rfl hentry rfl⟩

variable [FileStore σ]

/-- A path outside of the base directory is refused, be it there or not. -/
theorem visit_outside (hpath : path.startsWith s.options.baseDir = false) :
    s.visit task path requester = s.refuse task path
      (if FileStore.exists? s.store path then .outsideBase path
        else .io path "no such file or directory") := by
  have hbelow : s.options.belowBase path = .error (.outsideBase path) := by
    rw [BuildOptions.belowBase, Path.relativeTo?, hpath]
    rfl
  rw [visit, hbelow]
  by_cases hexists : FileStore.exists? s.store path
  · rw [if_neg (by simp [hexists]), if_pos hexists]
  · rw [if_pos (by simp [hexists]), if_neg hexists]

theorem step?_visit (htask : s.task? id = some task) (hstage : task.stage = .visit path requester) :
    s.step? id = some (s.visit task path requester) := by
  rw [step?, htask, Option.bind_eq_bind, Option.bind_some, hstage]

/-- A task that has a path before it looks at it now, or still has it before it after a turn. -/
theorem Faces.after (h : Faces s.options task path) (hturn : Turns s task turn) :
    (∃ requester, task.stage = .visit path requester) ∨ Faces s.options (turn.after task) path := by
  cases h with
  | now hvisit => exact .inl ⟨_, hvisit⟩
  | @later rest total entry hlater hentry hpath =>
      right
      rcases hturn.agenda_cases with hsame | ⟨count, next, others, sum, hagenda, hafter, hstage⟩ |
        ⟨sum, hagenda⟩
      · exact .later (hsame.trans hlater) hentry hpath
      · obtain ⟨rfl, -⟩ := BuildTask.Agenda.entries.inj (hlater.symm.trans hagenda)
        rcases List.mem_cons.1 hentry with rfl | hentry
        · exact .now (hpath ▸ hstage)
        · exact .later hafter hentry hpath
      · obtain ⟨rfl, -⟩ := BuildTask.Agenda.entries.inj (hlater.symm.trans hagenda)
        contradiction

/-- A step leaves a path before the call, or refuses it. -/
theorem Owes.step (h : s.Owes call addressee path) (hs : s.Called)
    (houtside : path.startsWith s.options.baseDir = false)
    (hexists : FileStore.exists? s.store path = true) (hstep : s.step? id = some t) :
    t.Owes call addressee path ∨ t.Refused addressee path := by
  obtain ⟨u, hu, hcall, haddressee, hfaces⟩ := h
  obtain ⟨task, turn, hid, hturn, rfl⟩ := exists_turn hstep
  have htask := (mem_of_task? hid).1
  by_cases hne : u = task
  · subst hne
    rcases hfaces.after hturn with ⟨requester, hstage⟩ | hfaces
    · right
      rw [Option.some.inj (hstep.symm.trans (step?_visit hid hstage)), visit_outside houtside,
        if_pos hexists, ← haddressee]
      exact List.mem_append_right _ (List.mem_singleton.2 rfl)
    · exact .inl ⟨_, after_mem_perform hs.orderly htask turn, hcall, haddressee, hfaces⟩
  · refine .inl ⟨u, ?_, hcall, haddressee, hfaces⟩
    cases hfaces with
    | now hvisit =>
        refine mem_perform_of_ne hs.orderly htask hturn hu hne ?_
        rw [BuildTask.count?, hvisit]
        cases u.agenda <;> rfl
    | later hlater =>
        -- Nobody takes in a task that goes through entries.
        have hparent : u.parent = none := by
          by_contra hparent
          rw [hs.orderly.single u hu hparent] at hlater
          contradiction
        refine (mem_tasks_perform hs.orderly htask turn).2 (.inl ⟨hu, fun hid => ?_, fun _ => ?_⟩)
        · exact hne (hs.orderly.eq_of_id hu htask hid)
        · simp [hparent]

theorem Called.next (h : s.Called) (hnext : s.make? move = some t) : t.Called := by
  cases move with
  | call addressee request =>
      rw [← Option.some.inj hnext]
      exact h.request addressee request
  | step id =>
      obtain ⟨task, turn, hid, hturn, rfl⟩ := exists_turn hnext
      exact h.perform (mem_of_task? hid).1 hturn
  | edit store =>
      rw [← Option.some.inj hnext]
      exact h.of_subset
        ⟨h.orderly.ids, h.orderly.bound, h.orderly.family, h.orderly.single⟩ (fun _ hu => hu) rfl
  | collect =>
      rw [← Option.some.inj hnext]
      exact h.collect

/-- What a move keeps of the earlier calls. -/
theorem kept_next (h : s.Called) (hnext : s.make? move = some t) :
    t.options = s.options ∧ s.nextCall ≤ t.nextCall ∧ (∀ message ∈ s.sent, message ∈ t.sent) ∧
      ∀ call < s.nextCall, t.Rooted call → s.Rooted call := by
  cases move with
  | call addressee request =>
      rw [← Option.some.inj hnext]
      refine ⟨rfl, Nat.le_succ _, fun _ h => h, ?_⟩
      rintro call hlt ⟨root, hroot, hparent, hcall⟩
      rcases List.mem_append.1 hroot with hroot | hroot
      · exact ⟨root, hroot, hparent, hcall⟩
      · rw [List.mem_singleton.1 hroot] at hcall
        exact absurd hcall.symm (Nat.ne_of_lt hlt)
  | step id =>
      obtain ⟨task, turn, hid, hturn, rfl⟩ := exists_turn hnext
      have htask := (mem_of_task? hid).1
      refine ⟨rfl, Nat.le_refl _, fun _ h => List.mem_append_left _ h, ?_⟩
      rintro call - ⟨root, hroot, hparent, hcall⟩
      rcases (mem_tasks_perform h.orderly htask turn).1 hroot with ⟨hroot, -⟩ | rfl | hroot
      · exact ⟨root, hroot, hparent, hcall⟩
      · exact ⟨task, htask, hparent, hcall⟩
      · simp [(mem_started hroot).1] at hparent
  | edit store =>
      rw [← Option.some.inj hnext]
      exact ⟨rfl, Nat.le_refl _, fun _ h => h, fun _ _ h => h⟩
  | collect =>
      rw [← Option.some.inj hnext]
      refine ⟨rfl, Nat.le_refl _, fun _ h => h, ?_⟩
      rintro call - ⟨root, hroot, hrooted⟩
      exact ⟨root, (List.mem_filter.1 hroot).1, hrooted⟩

theorem Owes.next (h : s.Owes call addressee path) (hs : s.Called)
    (houtside : path.startsWith s.options.baseDir = false)
    (hexists : FileStore.exists? s.store path = true) (hnext : s.make? move = some t)
    (hrooted : t.Rooted call) : t.Owes call addressee path ∨ t.Refused addressee path := by
  cases move with
  | call other request =>
      rw [← Option.some.inj hnext]
      exact .inl (h.request other request)
  | step id => exact h.step hs houtside hexists hnext
  | edit store =>
      rw [← Option.some.inj hnext]
      exact .inl h
  | collect =>
      obtain rfl := Option.some.inj hnext
      exact .inl (h.collect hs hrooted)

theorem Runs.called (hrun : Runs first past s) (hfirst : first.Called) : s.Called := by
  induction hrun with
  | start => exact hfirst
  | next _ hnext ih => exact ih.next hnext

/-- A call that has a path outside of the base directory before it is told so before it returns. -/
theorem Runs.refused_of_owes (hrun : Runs s later t) (hs : s.Called) (hcall : call < s.nextCall)
    (howes : s.Owes call addressee path) (houtside : path.startsWith s.options.baseDir = false)
    (hexists : ∀ moment ∈ later, FileStore.exists? moment.1.store path = true)
    (hreturned : t.Returned call) : t.Refused addressee path := by
  suffices hsettled : t.options = s.options ∧ call < t.nextCall ∧
      (t.Rooted call → t.Owes call addressee path ∨ t.Refused addressee path) by
    obtain ⟨root, hroot, hparent, hrootcall, -⟩ := exists_finished_of_returned hreturned
    exact (hsettled.2.2 ⟨root, hroot, hparent, hrootcall⟩).resolve_left
      ((hrun.called hs).not_owes hreturned)
  clear hreturned
  induction hrun with
  | start => exact ⟨rfl, hcall, fun _ => .inl howes⟩
  | @next later x t move hrun hnext ih =>
      obtain ⟨hoptions, hlt, hx⟩ := ih fun moment hmoment =>
        hexists moment (List.mem_append_left _ hmoment)
      have hcalled := hrun.called hs
      obtain ⟨hsame, hle, hsent, hrooted⟩ := kept_next hcalled hnext
      refine ⟨hsame.trans hoptions, Nat.lt_of_lt_of_le hlt hle, fun hroot => ?_⟩
      rcases hx (hrooted call hlt hroot) with howes | hrefused
      · exact howes.next hcalled (hoptions ▸ houtside) (hexists (x, move) (by simp)) hnext hroot
      · exact .inr (hsent _ hrefused)

/-- A source whose imports are all found has each of them before it. -/
theorem owes_import (hs : s.Called) (hid : s.task? id = some task)
    (hstage : task.stage = .lookUp job output)
    (hfiles : s.dependencies job.source output.imports = .ok files) (hfile : file ∈ files)
    (hstep : s.step? id = some t) : t.Owes task.call task.addressee file := by
  obtain ⟨other, turn, hother, hturn, rfl⟩ := exists_turn hstep
  obtain rfl := Option.some.inj (hid.symm.trans hother)
  have hspawned : .visit file (some job.dest) ∈ turn.spawned := by
    cases hturn with
    | resolve hlookup hfound =>
        obtain ⟨rfl, rfl⟩ := BuildTask.Stage.lookUp.inj (hstage.symm.trans hlookup)
        obtain rfl := Except.ok.inj (hfiles.symm.trans hfound)
        exact List.mem_map.2 ⟨file, hfile, rfl⟩
    | _ => simp_all
  obtain ⟨u, hu, hvisit⟩ := exists_started s task hspawned
  obtain ⟨-, haddressee, hcall, -⟩ := mem_started hu
  exact ⟨u, started_mem_perform hs.orderly (mem_of_task? hid).1 hu, hcall, haddressee, .now hvisit⟩

end Refusal

end LiveBuild.BuildSession
