import LiveBuild.Proofs.Delivery
import LiveBuild.Proofs.Requesters
import Mathlib.Data.List.Nodup

/-!
# What a request hears after its report

A request to compile is reported as built when the tasks that it has started itself are through. A
target that another request was building when it was asked for may still be built then. So what a
request hears after its report is how those targets end, and the report knows nothing of that.
-/

namespace LiveBuild

@[simp]
theorem BuildJob.isBuilt_completion (job : BuildJob) (parents : List Path)
    (result : Except BuildError Nat) : (job.completion parents result).isBuilt = false := by
  cases result <;> rfl

namespace BuildSession

variable {σ : Type} {s t y z : BuildSession σ} {past earlier later : History σ}
  {moment : BuildSession σ × Move σ} {move : Move σ} {task u v : BuildTask} {turn : Turn σ}
  {addressee : Addressee} {d : Path} {id count total : Nat}

/-- Only requests to compile are made, each of them under a number of its own. -/
structure CompilesOnly (past : History σ) : Prop where
  compiles : ∀ moment ∈ past, ∀ addressee request, moment.2 = .call addressee request →
    ∃ entries, request = .compile entries
  distinct : ((requesters past).map (·.id)).Nodup

theorem CompilesOnly.of_append (h : CompilesOnly (past ++ later)) : CompilesOnly past where
  compiles moment hmoment := h.compiles moment (List.mem_append_left _ hmoment)
  distinct := by
    have hdistinct := h.distinct
    rw [requesters_append, List.map_append] at hdistinct
    exact hdistinct.of_append_left

theorem CompilesOnly.numbered (h : CompilesOnly past) : Numbered past :=
  fun _ ha _ hb hid => List.inj_on_of_nodup_map h.distinct ha hb hid

/-- The tasks of a request are finished. -/
def Idle (s : BuildSession σ) (id : Nat) : Prop :=
  ∀ task ∈ s.tasks, task.addressee.id = id → ∃ count, task.stage = .done count ∧
    task.agenda = .single

/-- The target whose build ends in some moment, and what is told of its end. -/
def ending? (moment : BuildSession σ × Move σ) : Option (Path × BuildEvent) :=
  match moment.2 with
  | .step id => (moment.1.task? id).bind fun task =>
      match task.stage with
      | .finish job result =>
          some (job.dest, job.completion (moment.1.register.importersOf job.dest) result)
      | _ => none
  | _ => none

/-- A target is being built, and a request is told of it. -/
def expects (s : BuildSession σ) (addressee : Addressee) (d : Path) : Bool :=
  decide (addressee ∈ s.register.subscribersAt d) &&
    decide (s.register.statusAt d = some .building)

/-- How the targets end that a request has to expect in some session. -/
def endings (s : BuildSession σ) (addressee : Addressee) (later : History σ) : List BuildEvent :=
  ((later.filterMap ending?).filter fun ending => s.expects addressee ending.1).map (·.2)

theorem endings_append (s : BuildSession σ) (addressee : Addressee) (later rest : History σ) :
    s.endings addressee (later ++ rest) =
      s.endings addressee later ++ s.endings addressee rest := by
  simp [endings]

theorem isBuilt_ending {ending : Path × BuildEvent} (h : ending? moment = some ending) :
    ending.2.isBuilt = false := by
  unfold ending? at h
  split at h
  · obtain ⟨task, -, h⟩ := Option.bind_eq_some_iff.1 h
    split at h
    · obtain rfl := Option.some.inj h
      simp
    · contradiction
  · contradiction

/-- In a list of requests by number, a number has no other place than that of its request. -/
theorem filter_id_eq {l : List Addressee} (hsorted : l.Pairwise fun a b => a.id < b.id)
    (hsame : ∀ other ∈ l, other.id = addressee.id → other = addressee) :
    (l.filter fun other => other.id == addressee.id) =
      if addressee ∈ l then [addressee] else [] := by
  induction l with
  | nil => rfl
  | cons first rest ih =>
      obtain ⟨hfirst, hrest⟩ := List.pairwise_cons.1 hsorted
      obtain ⟨hsamefirst, hsamerest⟩ := List.forall_mem_cons.1 hsame
      have ih := ih hrest hsamerest
      by_cases hid : first.id = addressee.id
      · have hnone : rest.filter (fun other => other.id == addressee.id) = [] := by
          apply List.filter_eq_nil_iff.2
          intro other hother
          have hlt := hfirst other hother
          simp only [beq_iff_eq]
          omega
        obtain rfl := hsamefirst hid
        simp [hnone]
      · have hne : addressee ≠ first := by
          rintro rfl
          exact hid rfl
        rw [List.filter_cons_of_neg (by simpa using hid), ih]
        simp [hne]

variable [FileStore σ]

theorem Turns.not_idle (hturn : Turns s task turn) :
    ¬ ∃ count, task.stage = .done count ∧ task.agenda = .single := by
  rintro ⟨count, hstage, hagenda⟩
  cases hturn <;> simp_all

/-- A request is reported as built by the last turn of the task that it began with. -/
theorem Turns.reports (hturn : Turns s task turn)
    (hbuilt : ∃ message ∈ turn.told, message.2.isBuilt = true) :
    ∃ count total, task.stage = .done count ∧ task.agenda = .entries [] total ∧
      turn.stage = .done (total + count) ∧ turn.agenda = .single ∧
      turn.told = [(task.addressee, .built (total + count))] := by
  obtain ⟨message, hmessage, hbuilt⟩ := hbuilt
  cases hturn with
  | report hstage hagenda => exact ⟨_, _, hstage, hagenda, rfl, rfl, rfl⟩
  | finish hstage =>
      dsimp only at hmessage
      split at hmessage
      · obtain ⟨other, -, rfl⟩ := List.mem_map.1 hmessage
        contradiction
      · contradiction
  | finishFailed hstage =>
      obtain ⟨other, -, rfl⟩ := List.mem_map.1 hmessage
      contradiction
  | refuse | assetFailed =>
      rw [List.mem_singleton.1 hmessage] at hbuilt
      contradiction
  | _ => contradiction

theorem Idle.perform (h : s.Idle id) (horderly : s.Orderly) (htask : task ∈ s.tasks)
    (hturn : Turns s task turn) :
    task.addressee.id ≠ id ∧ (s.perform task turn).Idle id := by
  have hne : task.addressee.id ≠ id := fun hid => hturn.not_idle (h task htask hid)
  refine ⟨hne, fun u hu hid => ?_⟩
  rcases (mem_tasks_perform horderly htask turn).1 hu with ⟨hu, -⟩ | rfl | hu
  · exact h u hu hid
  · exact absurd hid hne
  · rw [(mem_started hu).2.1] at hid
    exact absurd hid hne

/-- What is true of a session on which only requests to compile were made. -/
structure Separate (past : History σ) (s : BuildSession σ) : Prop where
  attended : s.Attended past
  first : ∀ task ∈ s.tasks, ∀ path, task.stage ≠ .claim path
  /-- A task works for the request that the task works for which has started it. -/
  inherited : ∀ u ∈ s.tasks, ∀ v ∈ s.tasks, u.parent = some v.id → u.addressee = v.addressee
  roots : ∀ u ∈ s.tasks, ∀ v ∈ s.tasks, u.parent = none → v.parent = none →
    u.addressee.id = v.addressee.id → u = v
  reported : ∀ message ∈ s.sent, message.2.isBuilt = true →
    message.1 ∈ requesters past ∧ s.Idle message.1.id

theorem separate_start (store : σ) (options : BuildOptions) (sourceTransform : SourceTransform) :
    (start store options sourceTransform).Separate [] where
  attended := attended_start store options sourceTransform
  first _ h := nomatch h
  inherited _ h := nomatch h
  roots _ h := nomatch h
  reported _ h := nomatch h

namespace Separate

/-- A request whose first task does not wait has no other tasks. -/
theorem eq_root (h : s.Separate past) (htask : task ∈ s.tasks) (hparent : task.parent = none)
    (hwaiting : ¬ task.IsWaiting) (hu : u ∈ s.tasks)
    (hid : u.addressee.id = task.addressee.id) : u = task := by
  induction hn : u.id using Nat.strongRecOn generalizing u with
  | ind n ih =>
      cases hup : u.parent with
      | none => exact h.roots u hu task htask hup hparent hid
      | some parent =>
          obtain ⟨hlt, v, hv, rfl, hvwaiting⟩ := h.attended.orderly.family u hu parent hup
          have hsame := h.inherited u hu v hv hup
          obtain rfl := ih v.id (hn ▸ hlt) hv (hsame ▸ hid) rfl
          exact absurd hvwaiting hwaiting

section Turn

variable (h : s.Separate past) (htask : s.task? id = some task) (hturn : Turns s task turn)

include h htask

theorem inherited_perform :
    ∀ u ∈ (s.perform task turn).tasks, ∀ v ∈ (s.perform task turn).tasks,
      u.parent = some v.id → u.addressee = v.addressee := by
  obtain ⟨hmem, -⟩ := mem_of_task? htask
  have horderly := h.attended.orderly
  have hcases := fun u => mem_tasks_perform (u := u) horderly hmem turn
  -- Nobody waits for a task that was not there before.
  have hold : ∀ u ∈ s.tasks, ∀ v ∈ s.started task turn.spawned, u.parent ≠ some v.id := by
    intro u hu v hv hparent
    have hlt := (horderly.family u hu v.id hparent).1
    have hbound := horderly.bound u hu
    have hge := (mem_started hv).2.2.2.2.1
    omega
  intro u hu v hv hparent
  rcases (hcases u).1 hu with ⟨hu, hune, -⟩ | rfl | hu <;>
    rcases (hcases v).1 hv with ⟨hv, hvne, -⟩ | rfl | hv
  · exact h.inherited u hu v hv hparent
  · exact h.inherited u hu task hmem hparent
  · exact absurd hparent (hold u hu v hv)
  · exact h.inherited task hmem v hv hparent
  · rfl
  · exact absurd hparent (hold task hmem v hv)
  · obtain ⟨hstarted, -⟩ := mem_started hu
    exact absurd (Option.some.inj (hparent.symm.trans hstarted)) hvne
  · exact (mem_started hu).2.1
  · exact (mem_started hu).2.1.trans (mem_started hv).2.1.symm

include hturn

/-- A request that is reported as built has come to its end. -/
theorem idle_of_report (hstage : task.stage = .done count)
    (hagenda : task.agenda = .entries [] total) (hafter : turn.stage = .done (total + count))
    (hsingle : turn.agenda = .single) :
    (s.perform task turn).Idle task.addressee.id := by
  obtain ⟨hmem, -⟩ := mem_of_task? htask
  have hparent : task.parent = none := by
    by_contra hparent
    simp [h.attended.orderly.single task hmem hparent] at hagenda
  have hwaiting : ¬ task.IsWaiting := by
    rintro ⟨pending, hpending⟩
    simp [hstage] at hpending
  have hnone : turn.spawned = [] := by
    cases hturn <;> simp_all [turnTo]
  intro u hu hid
  rcases (mem_tasks_perform h.attended.orderly hmem turn).1 hu with ⟨hu, hne, -⟩ | rfl | hu
  · exact absurd (congrArg BuildTask.id (h.eq_root hmem hparent hwaiting hu hid)) hne
  · exact ⟨_, hafter, hsingle⟩
  · rw [hnone] at hu
    contradiction

theorem perform (hnumbered : Numbered past) (hid : s.step? id = some (s.perform task turn)) :
    (s.perform task turn).Separate (past ++ [(s, .step id)]) where
  attended := h.attended.perform htask hturn hnumbered hid
  first u hu path := by
    rcases (mem_tasks_perform h.attended.orderly (mem_of_task? htask).1 turn).1 hu with
      ⟨hu, -⟩ | rfl | hu
    · exact h.first u hu path
    · exact hturn.stage_ne_claim path
    · obtain ⟨other, requester, hstage⟩ := hturn.spawned_visits _ (mem_started hu).2.2.2.2.2.2
      simp [hstage]
  inherited := h.inherited_perform htask
  roots := eq_of_roots_perform (f := fun u => u.addressee.id) h.attended.orderly
    (mem_of_task? htask).1 turn rfl h.roots
  reported message hmessage hbuilt := by
    obtain ⟨hmem, -⟩ := mem_of_task? htask
    rcases List.mem_append.1 hmessage with hmessage | hmessage
    · obtain ⟨hrequested, hidle⟩ := h.reported message hmessage hbuilt
      exact ⟨mem_requesters_snoc hrequested _, (hidle.perform h.attended.orderly hmem hturn).2⟩
    · obtain ⟨count, total, hstage, hagenda, hafter, hsingle, htold⟩ :=
        hturn.reports ⟨message, hmessage, hbuilt⟩
      rw [htold, List.mem_singleton] at hmessage
      rw [hmessage]
      exact ⟨mem_requesters_snoc (h.attended.requested task hmem) _,
        h.idle_of_report htask hturn hstage hagenda hafter hsingle⟩

end Turn

omit [FileStore σ] in
/-- A request is new to a session that has heard of others only. -/
theorem idle_call {request : Request} (hidle : s.Idle id) (hne : addressee.id ≠ id) :
    (s.call addressee request).1.Idle id := by
  intro u hu hid
  rcases List.mem_append.1 hu with hu | hu
  · exact hidle u hu hid
  · rw [List.mem_singleton.1 hu] at hid
    exact absurd hid hne

theorem call (h : s.Separate past) (hbefore : addressee.id ∉ (requesters past).map (·.id))
    (entries : List Path) :
    (s.call addressee (.compile entries)).1.Separate
      (past ++ [(s, .call addressee (.compile entries))]) where
  attended := h.attended.call addressee (.compile entries)
  first u hu path := by
    rcases List.mem_append.1 hu with hu | hu
    · exact h.first u hu path
    · rw [List.mem_singleton.1 hu]
      exact BuildTask.Stage.noConfusion
  inherited u hu v hv hparent := by
    rcases List.mem_append.1 hu with hu | hu
    · rcases List.mem_append.1 hv with hv | hv
      · exact h.inherited u hu v hv hparent
      · rw [List.mem_singleton.1 hv] at hparent
        have hlt := (h.attended.orderly.family u hu _ hparent).1
        exact absurd (h.attended.orderly.bound u hu) (Nat.not_lt.2 (Nat.le_of_lt hlt))
    · rw [List.mem_singleton.1 hu] at hparent
      contradiction
  roots u hu v hv hup hvp hid := by
    have hnew : ∀ u ∈ s.tasks, u.addressee.id ≠ addressee.id := by
      intro u hu hsame
      exact hbefore (List.mem_map.2 ⟨_, h.attended.requested u hu, hsame⟩)
    rcases List.mem_append.1 hu with hu | hu <;> rcases List.mem_append.1 hv with hv | hv
    · exact h.roots u hu v hv hup hvp hid
    · rw [List.mem_singleton.1 hv] at hid
      exact absurd hid (hnew u hu)
    · rw [List.mem_singleton.1 hu] at hid
      exact absurd hid.symm (hnew v hv)
    · rw [List.mem_singleton.1 hu, List.mem_singleton.1 hv]
  reported message hmessage hbuilt := by
    obtain ⟨hrequested, hidle⟩ := h.reported message hmessage hbuilt
    refine ⟨mem_requesters_snoc hrequested _, idle_call hidle fun hid => ?_⟩
    exact hbefore (List.mem_map.2 ⟨_, hrequested, hid.symm⟩)

theorem next (h : s.Separate past) (hnext : s.make? move = some t)
    (hcompiles : CompilesOnly (past ++ [(s, move)])) : t.Separate (past ++ [(s, move)]) := by
  have hattended := h.attended.next hcompiles.of_append.numbered hnext
  cases move with
  | call addressee request =>
      obtain ⟨entries, rfl⟩ := hcompiles.compiles (s, .call addressee request) (by simp) _ _ rfl
      obtain rfl := Option.some.inj hnext
      refine h.call (fun hbefore => ?_) entries
      have hdistinct := hcompiles.distinct
      rw [requesters_append, List.map_append] at hdistinct
      exact List.disjoint_of_nodup_append hdistinct hbefore (List.mem_singleton.2 rfl)
  | step id =>
      obtain ⟨task, turn, hfound, hturn, rfl⟩ := exists_turn hnext
      exact h.perform hfound hturn hcompiles.of_append.numbered hnext
  | edit store =>
      obtain rfl := Option.some.inj hnext
      refine ⟨hattended, h.first, h.inherited, h.roots, fun message hmessage hbuilt => ?_⟩
      obtain ⟨hrequested, hidle⟩ := h.reported message hmessage hbuilt
      exact ⟨mem_requesters_snoc hrequested _, hidle⟩
  | collect =>
      obtain rfl := Option.some.inj hnext
      have hmem : ∀ u ∈ s.collect.1.tasks, u ∈ s.tasks := fun u hu => (List.mem_filter.1 hu).1
      refine ⟨hattended, fun u hu => h.first u (hmem u hu),
        fun u hu v hv => h.inherited u (hmem u hu) v (hmem v hv),
        fun u hu v hv => h.roots u (hmem u hu) v (hmem v hv), fun message hmessage hbuilt => ?_⟩
      obtain ⟨hrequested, hidle⟩ := h.reported message hmessage hbuilt
      exact ⟨mem_requesters_snoc hrequested _, fun u hu => hidle u (hmem u hu)⟩

end Separate

theorem Runs.separate (h : Runs s later t) (hs : s.Separate past)
    (hcompiles : CompilesOnly (past ++ later)) : t.Separate (past ++ later) := by
  induction h with
  | start => rwa [List.append_nil]
  | next _ hnext ih =>
      rw [← List.append_assoc] at hcompiles ⊢
      exact (ih hcompiles.of_append).next hnext hcompiles

/-- A request has come to its end in one session, and does nothing more up to another: it is told of
the same targets there, and those of them that are being built were being built before. -/
structure Outlives (y z : BuildSession σ) (addressee : Addressee) : Prop where
  idle : z.Idle addressee.id
  subscribed : ∀ d, addressee ∈ z.register.subscribersAt d ↔ addressee ∈ y.register.subscribersAt d
  contains : ∀ d, y.register.targets.contains d = true → z.register.targets.contains d = true
  building : ∀ d, y.register.targets.contains d = true →
    z.register.statusAt d = some .building → y.register.statusAt d = some .building

namespace Outlives

section Turn

variable (h : Outlives y z addressee) (hz : z.Separate past) (hnumbered : Numbered past)
  (hrequested : addressee ∈ requesters past) (htask : z.task? id = some task)
  (hturn : Turns z task turn)

include hz htask hturn

/-- No turn begins a build of a target that is recorded. -/
theorem statusAt_turn (hcontains : z.register.targets.contains d = true)
    (hbuilding : turn.register.statusAt d = some .building) :
    z.register.statusAt d = some .building := by
  by_contra hidle
  refine hturn.not_building (fun job hgrants hdest => ?_) hidle hbuilding
  cases hgrants with
  | first _ _ hnew =>
      rw [PathMap.contains_congr hdest, hcontains] at hnew
      contradiction
  | again hstage => exact hz.first task (mem_of_task? htask).1 _ hstage

include h hnumbered

theorem perform : Outlives y (z.perform task turn) addressee := by
  obtain ⟨hmem, -⟩ := mem_of_task? htask
  obtain ⟨hne, hidle⟩ := h.idle.perform hz.attended.orderly hmem hturn
  refine ⟨hidle, fun d => ?_, fun d hd => ?_, fun d hd hbuilding => ?_⟩
  · rw [← h.subscribed]
    refine (hz.attended.attached_turn htask hturn hnumbered d addressee).trans (or_iff_left ?_)
    intro hattached
    exact hne (congrArg Addressee.id ((attached_step htask).1 hattached).1)
  · obtain ⟨source, hsource⟩ := Register.contains_iff_sourceAt.1 (h.contains d hd)
    exact Register.contains_iff_sourceAt.2 ⟨source, hturn.sourceAt_eq hsource⟩
  · exact h.building d hd (statusAt_turn hz htask hturn (h.contains d hd) hbuilding)

include hrequested

/-- What a request that has come to its end is told of a turn: how a build ends that it expects. -/
theorem heard_turn : heard addressee.id turn.told = y.endings addressee [(z, .step id)] := by
  obtain ⟨hmem, -⟩ := mem_of_task? htask
  by_cases hfinish : ∃ job result, task.stage = .finish job result
  · obtain ⟨job, result, hstage⟩ := hfinish
    have hjob : task.stage.job? = some job := by
      rw [hstage]
      rfl
    have hbuilding := hz.attended.owned.building hmem hjob
    have hexpects : y.expects addressee job.dest = true ↔
        addressee ∈ z.register.subscribersAt job.dest := by
      rw [h.subscribed, expects, Bool.and_eq_true, decide_eq_true_iff, decide_eq_true_iff]
      refine ⟨And.left, fun hsubscribed => ⟨hsubscribed, ?_⟩⟩
      exact h.building job.dest (Register.contains_of_mem_subscribersAt hsubscribed) hbuilding
    have hending : ending? (z, .step id) =
        some (job.dest, job.completion (z.register.importersOf job.dest) result) := by
      simp [ending?, htask, hstage]
    have hfilter := filter_id_eq (hz.attended.sorted job.dest) fun other hother =>
      hnumbered other (hz.attended.subscribed job.dest other hother) addressee hrequested
    rw [hturn.told_finish hstage (Register.contains_iff_statusAt.2 ⟨_, hbuilding⟩), heard,
      List.filter_map, List.map_map, endings]
    simp only [Function.comp_def, hfilter, List.filterMap_cons, hending, List.filterMap_nil,
      List.filter_cons, List.filter_nil, hexpects]
    split <;> rfl
  · have hstage : ∀ job result, task.stage ≠ .finish job result := fun job result hstage =>
      hfinish ⟨job, result, hstage⟩
    have hnone : ending? (z, .step id) = none := by
      simp only [ending?, htask, Option.bind_some]
    have hother : turn.told.filter (fun message => message.1.id == addressee.id) = [] := by
      apply List.filter_eq_nil_iff.2
      intro message hmessage
      rw [hturn.told_of_ne_finish hstage message hmessage]
      simpa using (h.idle.perform hz.attended.orderly hmem hturn).1
    simp [heard, hother, endings, hnone]

end Turn

theorem next (h : Outlives y z addressee) (hz : z.Separate past)
    (hrequested : addressee ∈ requesters past) (hnext : z.make? move = some t)
    (hcompiles : CompilesOnly (past ++ [(z, move)])) :
    Outlives y t addressee ∧
      heard addressee.id t.sent =
        heard addressee.id z.sent ++ y.endings addressee [(z, move)] := by
  cases move with
  | call other request =>
      obtain rfl := Option.some.inj hnext
      have hne : other.id ≠ addressee.id := by
        intro hid
        have hdistinct := hcompiles.distinct
        rw [requesters_append, List.map_append] at hdistinct
        exact List.disjoint_of_nodup_append hdistinct (List.mem_map_of_mem hrequested)
          (List.mem_singleton.2 hid.symm)
      refine ⟨⟨Separate.idle_call h.idle hne, h.subscribed, h.contains, h.building⟩, ?_⟩
      simp [endings, ending?, BuildSession.call]
  | step id =>
      obtain ⟨task, turn, hfound, hturn, rfl⟩ := exists_turn hnext
      have hnumbered := hcompiles.of_append.numbered
      refine ⟨h.perform hz hnumbered hfound hturn, ?_⟩
      rw [← h.heard_turn hz hnumbered hrequested hfound hturn, ← heard_append]
      rfl
  | edit store =>
      obtain rfl := Option.some.inj hnext
      exact ⟨⟨h.idle, h.subscribed, h.contains, h.building⟩, by simp [endings, ending?]⟩
  | collect =>
      obtain rfl := Option.some.inj hnext
      refine ⟨⟨fun u hu => h.idle u (List.mem_filter.1 hu).1, h.subscribed, h.contains, h.building⟩,
        ?_⟩
      simp [endings, ending?, BuildSession.collect]

end Outlives

/-- What a request hears after it has come to its end. -/
theorem Runs.heard_eq (h : Runs y later t) (hy : y.Separate past) (hidle : y.Idle addressee.id)
    (hrequested : addressee ∈ requesters past) (hcompiles : CompilesOnly (past ++ later)) :
    Outlives y t addressee ∧
      heard addressee.id t.sent = heard addressee.id y.sent ++ y.endings addressee later := by
  induction h with
  | start =>
      refine ⟨⟨hidle, fun _ => Iff.rfl, fun _ => id, fun _ _ => id⟩, ?_⟩
      simp [endings]
  | @next later z t move hlater hnext ih =>
      rw [← List.append_assoc] at hcompiles
      obtain ⟨houtlives, hheard⟩ := ih hcompiles.of_append
      have hz := hlater.separate hy hcompiles.of_append
      have hrequested' : addressee ∈ requesters (past ++ later) := by
        rw [requesters_append]
        exact List.mem_append_left _ hrequested
      obtain ⟨hnext, hlast⟩ := houtlives.next hz hrequested' hnext hcompiles
      refine ⟨hnext, ?_⟩
      rw [hlast, hheard, endings_append, List.append_assoc]

/-- **What a report leaves out.** Only requests to compile are made, however their tasks go on and
whatever happens to the files. A request that has gone through its entries is reported as built, and
that is said once. Its requester's report consists of what the request has heard before. After it
the request hears how the targets end, with success or not, that it was attached to and that were
still being built for others then: `built` is the last that it hears if and only if none of them
ends. -/
theorem built_then_endings {store : σ} {options : BuildOptions} {sourceTransform : SourceTransform}
    (hrun : Runs (start store options sourceTransform) past t) (hcompiles : CompilesOnly past)
    (hpast : past = earlier ++ (s, .step id) :: later) (htask : s.task? id = some task)
    (hstage : task.stage = .done count) (hagenda : task.agenda = .entries [] total) :
    ∃ after : BuildSession σ, s.make? (.step id) = some after ∧
      after.sent = s.sent ++ [(task.addressee, .built (total + count))] ∧
      heard task.addressee.id t.sent = heard task.addressee.id s.sent ++
        .built (total + count) :: after.endings task.addressee later ∧
      (∀ event ∈ heard task.addressee.id s.sent ++ after.endings task.addressee later,
        event.isBuilt = false) ∧
      ((heard task.addressee.id t.sent).getLast? = some (.built (total + count)) ↔
        after.endings task.addressee later = []) ∧
      ∀ r : Requester, r.listener? task.addressee.id = some (.report {}) →
        r.report? task.addressee.id t.sent = some ⟨total + count,
          (heard task.addressee.id s.sent).filter BuildEvent.isFileBuilt,
          (heard task.addressee.id s.sent).filter BuildEvent.isError⟩ := by
  have hfirst := separate_start store options sourceTransform
  obtain ⟨hearlier, after, hnext, hlater⟩ := hrun.at_moment hpast
  rw [hpast, List.append_cons] at hcompiles
  have hs : s.Separate earlier := hearlier.separate hfirst hcompiles.of_append.of_append
  have hafter := hs.next hnext hcompiles.of_append
  obtain ⟨found, turn, hfound, hturn, rfl⟩ := exists_turn hnext
  obtain rfl := Option.some.inj (htask.symm.trans hfound)
  have htold : turn.told = [(task.addressee, .built (total + count))] := by
    cases hturn <;> simp_all [turnTo]
  have hsent : (s.perform task turn).sent =
      s.sent ++ [(task.addressee, .built (total + count))] := by
    rw [← htold]
    rfl
  obtain ⟨hrequested, hidle⟩ := hafter.reported (task.addressee, .built (total + count))
    (by simp [hsent]) rfl
  have hheard : heard task.addressee.id t.sent = heard task.addressee.id s.sent ++
      .built (total + count) :: (s.perform task turn).endings task.addressee later := by
    rw [(hlater.heard_eq hafter hidle hrequested hcompiles).2, hsent, heard_append]
    simp [heard]
  have hendings : ∀ event ∈ (s.perform task turn).endings task.addressee later,
      event.isBuilt = false := by
    intro event hevent
    obtain ⟨ending, hending, rfl⟩ := List.mem_map.1 hevent
    obtain ⟨moment, -, hmoment⟩ := List.mem_filterMap.1 (List.mem_filter.1 hending).1
    exact isBuilt_ending hmoment
  -- A request that was reported as built before had nothing left to report.
  have hbefore : ∀ event ∈ heard task.addressee.id s.sent, event.isBuilt = false := by
    intro event hevent
    obtain ⟨message, hmessage, hid, rfl⟩ := mem_heard.1 hevent
    rw [Bool.eq_false_iff]
    intro hbuilt
    obtain ⟨-, hidle⟩ := hs.reported message hmessage hbuilt
    exact hturn.not_idle (hidle task (mem_of_task? htask).1 hid.symm)
  refine ⟨_, hnext, hsent, hheard, ?_, ⟨fun hlast => ?_, fun hnone => ?_⟩, fun r hr => ?_⟩
  · exact fun event hevent => (List.mem_append.1 hevent).elim (hbefore event) (hendings event)
  · by_contra hsome
    rw [hheard, List.getLast?_append_of_ne_nil _ (List.cons_ne_nil _ _),
      List.getLast?_cons_of_ne_nil hsome] at hlast
    exact absurd (hendings _ (List.mem_of_getLast? hlast)) (by simp [BuildEvent.isBuilt])
  · rw [hheard, hnone]
    exact List.getLast?_concat
  · rw [Requester.report?_eq hr, hheard, BuildSummary.complete?_append _ _ hbefore]
    rfl

/-! ### A build that fails for a request that was reported before -/

section Dangling

/-- A source with an import that is not there. -/
def dangling : BuildSession FileTree :=
  start (FileTree.empty.putFile "/p/a.js" "import \"./b\"".toUTF8)
    { baseDir := "/p", outDir := "/p/out", extensions := [".js"], resolveExtensions := [".js"],
      exclude := [], assets := ⟨[], [], "", ""⟩, extra := {} } .scan

def danglingError : BuildEvent :=
  .forFile "/p/a.js" (.resolution "./b" "/p/a.js")

/-- The second request finds the source being built for the first one, and is through. -/
def danglingMoves : List (Move FileTree) :=
  [.call ⟨1, 0⟩ (.compile ["a.js"]), .call ⟨2, 1⟩ (.compile ["a.js"]), .step 0, .step 0, .step 1,
    .step 1]

def Move.isCompile : Move FileTree → Bool
  | .call _ (.compile _) => true
  | .call .. => false
  | _ => true

theorem compilesOnly_of_all {past : History FileTree}
    (h : ∀ moment ∈ past, moment.2.isCompile = true)
    (hdistinct : ((requesters past).map (·.id)).Nodup) : CompilesOnly past where
  compiles moment hmoment addressee request hcall := by
    have hmove := h moment hmoment
    rw [hcall] at hmove
    cases request with
    | compile entries => exact ⟨entries, rfl⟩
    | _ => contradiction
  distinct := hdistinct

def isDangling (past : History FileTree) (s t : BuildSession FileTree) : Bool :=
  decide (requesters past = [⟨1, 0⟩, ⟨2, 1⟩]) && past.all (·.2.isCompile) &&
    (s.task? 1).any (fun task => match task.addressee, task.stage, task.agenda with
      | ⟨2, 1⟩, .done 0, .entries [] 0 => true
      | _, _, _ => false) &&
    t.next?.isNone && decide (⟨2, 1⟩ ∈ t.register.subscribersAt "/p/out/a.js") &&
    decide (t.register.status? "/p/out/a.js" = some .failed) &&
    decide (heard 2 t.sent = [.built 0, danglingError])

theorem exists_dangling :
    ∃ earlier s later t task, Runs dangling (earlier ++ (s, .step 1) :: later) t ∧
      CompilesOnly (earlier ++ (s, .step 1) :: later) ∧
      s.task? 1 = some task ∧ task.addressee = ⟨2, 1⟩ ∧ task.stage = .done 0 ∧
      task.agenda = .entries [] 0 ∧ t.next? = none ∧
      ⟨2, 1⟩ ∈ t.register.subscribersAt "/p/out/a.js" ∧
      t.register.status? "/p/out/a.js" = some .failed ∧
      heard 2 t.sent = [.built 0, danglingError] := by
  have hdangling : (dangling.replay? danglingMoves).any (fun before =>
      (before.2.replay? (.step 1 :: List.replicate 5 (.step 0))).any fun after =>
        isDangling (before.1 ++ after.1) before.2 after.2) = true := by
    decide +kernel
  obtain ⟨⟨earlier, s⟩, hearlier, hdangling⟩ := (Option.any_eq_true _ _).1 hdangling
  obtain ⟨⟨later, t⟩, hlater, hcheck⟩ := (Option.any_eq_true _ _).1 hdangling
  have hrun : Runs dangling (earlier ++ later) t := (Runs.start.replay hearlier).replay hlater
  obtain ⟨rest, rfl⟩ := exists_cons_of_replay? hlater
  simp only [isDangling, Bool.and_eq_true, decide_eq_true_eq, Option.any_eq_true,
    Option.isNone_iff_eq_none, List.all_eq_true] at hcheck
  obtain ⟨⟨⟨⟨⟨⟨hrequesters, hcompile⟩, task, htask, hreports⟩, hnext⟩, hsubscribed⟩, hstatus⟩,
    hheard⟩ := hcheck
  have hcompiles : CompilesOnly (earlier ++ (s, .step 1) :: rest) :=
    compilesOnly_of_all hcompile (by rw [hrequesters]; decide)
  split at hreports
  · exact ⟨earlier, s, rest, t, task, hrun, hcompiles, htask, ‹_›, ‹_›, ‹_›, hnext, hsubscribed,
      hstatus, hheard⟩
  · exact absurd hreports Bool.false_ne_true

/-- The second request hears nothing but `built` when it is reported, and its report is clean. The
build of its source fails only then. -/
theorem built_then_endings_dangling :
    ∃ earlier s later t task, Runs dangling (earlier ++ (s, .step 1) :: later) t ∧
      CompilesOnly (earlier ++ (s, .step 1) :: later) ∧ s.task? 1 = some task ∧
      task.stage = .done 0 ∧ task.agenda = .entries [] 0 ∧
      ∃ after : BuildSession FileTree, s.make? (.step 1) = some after ∧
        after.endings ⟨2, 1⟩ later = [danglingError] ∧
        ∀ r : Requester, r.listener? 2 = some (.report {}) → r.report? 2 t.sent = some {} := by
  obtain ⟨earlier, s, later, t, task, hrun, hcompiles, htask, haddressee, hstage, hagenda, -, -, -,
    hheard⟩ := exists_dangling
  obtain ⟨after, hafter, -, hsplit, hother, -, hreport⟩ :=
    built_then_endings hrun hcompiles rfl htask hstage hagenda
  rw [haddressee] at hsplit hother hreport
  rw [hheard] at hsplit
  cases hbefore : heard 2 s.sent with
  | nil =>
      rw [hbefore] at hsplit hreport
      exact ⟨earlier, s, later, t, task, hrun, hcompiles, htask, hstage, hagenda, after, hafter,
        (List.cons.inj hsplit).2.symm, hreport⟩
  | cons event rest =>
      have hevent := hother event (by simp [hbefore])
      rw [hbefore] at hsplit
      rw [← (List.cons.inj hsplit).1] at hevent
      exact Bool.noConfusion hevent

/-- A request is told of the failure of its only source after it was reported, and its report says
that all is well. -/
theorem clean_report_of_dangling :
    ∃ past t, Runs dangling past t ∧ CompilesOnly past ∧ t.next? = none ∧
      (∃ moment ∈ past, Attached moment ⟨2, 1⟩ "/p/out/a.js") ∧
      t.register.status? "/p/out/a.js" = some .failed ∧
      heard 2 t.sent = [.built 0, danglingError] ∧
      ∀ r : Requester, r.listener? 2 = some (.report {}) →
        ∃ report, r.report? 2 t.sent = some report ∧ report.isClean = true := by
  obtain ⟨earlier, s, later, t, task, hrun, hcompiles, -, -, -, -, hnext, hsubscribed, hstatus,
    hheard⟩ := exists_dangling
  have hattended := hrun.attended (attended_start _ _ _) hcompiles.numbered
  refine ⟨_, t, hrun, hcompiles, hnext, (hattended.attached _ _).1 hsubscribed, hstatus, hheard,
    fun r hr => ⟨{}, ?_, rfl⟩⟩
  rw [Requester.report?_eq hr, hheard]
  rfl

end Dangling

end BuildSession

end LiveBuild
