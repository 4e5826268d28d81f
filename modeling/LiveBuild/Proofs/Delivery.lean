import LiveBuild.Proofs.Histories
import LiveBuild.Proofs.Subscribers

/-!
# The end of a build is told once to everyone

A request is attached to a target when it asks for it or claims it. Whatever else happens, the end
of a build is told to exactly those requests that were attached to the target before, to each of
them once, and nothing else is told of that build. From the grant to the end of a build no other
build of the target is granted, and its source is read for the transform once at most.
-/

namespace LiveBuild

/-- How often the transform may have been started for the job of a stage. -/
def BuildTask.Stage.starts : BuildTask.Stage → Nat
  | .read _ => 0
  | _ => 1

namespace BuildSession

variable {σ : Type} {s t first : BuildSession σ} {past earlier later : History σ}
  {moment : BuildSession σ × Move σ} {move : Move σ} {task u : BuildTask} {turn : Turn σ}
  {job : BuildJob} {result : Except BuildError Nat} {addressee : Addressee} {d : Path}
  {id n m : Nat}

/-- Requests with one number have one channel. -/
def Numbered (past : History σ) : Prop :=
  ∀ a ∈ requesters past, ∀ b ∈ requesters past, a.id = b.id → a = b

theorem Numbered.of_append (h : Numbered (past ++ later)) : Numbered past := by
  intro a ha b hb
  apply h
  · rw [requesters_append]
    exact List.mem_append_left _ ha
  · rw [requesters_append]
    exact List.mem_append_left _ hb

theorem not_hasTurn (h : ∀ id, move ≠ .step id) : ¬ HasTurn (s, move) task :=
  fun hturn => h _ hturn.1

variable [FileStore σ]

/-- A request is attached to a destination. -/
def Attached (moment : BuildSession σ × Move σ) (addressee : Addressee) (d : Path) : Prop :=
  ∃ task dest, HasTurn moment task ∧ task.addressee = addressee ∧
    moment.1.Attaches task dest ∧ dest.components = d.components

/-- A build is granted. -/
def Granted (moment : BuildSession σ × Move σ) (job : BuildJob) : Prop :=
  ∃ task, HasTurn moment task ∧ moment.1.Grants task job

/-- A build of a destination ends. -/
def Ended (moment : BuildSession σ × Move σ) (d : Path) : Prop :=
  ∃ task job result, HasTurn moment task ∧ task.stage = .finish job result ∧
    job.dest.components = d.components

/-- A source is read and its transform started for the sake of a destination. -/
def startsFor (d : Path) (moment : BuildSession σ × Move σ) : Bool :=
  match moment.2 with
  | .step id => (moment.1.task? id).any fun task =>
      match task.stage with
      | .read job => job.dest.same d && (FileStore.readText moment.1.store job.source).isOk
      | _ => false
  | _ => false

/-- What happens while a task builds a destination: no build of it is granted or ends, the task says
nothing, and the transform is started no more than a number of times. -/
structure Undisturbed (between : History σ) (id : Nat) (d : Path) (starts : Nat) : Prop where
  granted : ∀ moment ∈ between, ∀ job, Granted moment job → job.dest.components ≠ d.components
  ended : ∀ moment ∈ between, ¬ Ended moment d
  silent : ∀ moment ∈ between, moment.2 = .step id →
    ∀ t, moment.1.make? moment.2 = some t → t.sent = moment.1.sent
  started : between.countP (startsFor d) ≤ starts

/-- A task was granted a build, and has carried it out since. -/
def Carried (past : History σ) (id : Nat) (job : BuildJob) (starts : Nat) : Prop :=
  ∃ before s between, past = before ++ (s, .step id) :: between ∧ Granted (s, .step id) job ∧
    Undisturbed between id job.dest starts

theorem Undisturbed.snoc {between : History σ} (h : Undisturbed between id d n)
    (hgranted : ∀ job, Granted moment job → job.dest.components ≠ d.components)
    (hended : ¬ Ended moment d)
    (hsilent : moment.2 = .step id → ∀ t, moment.1.make? moment.2 = some t →
      t.sent = moment.1.sent)
    (hstarted : n + (if startsFor d moment then 1 else 0) ≤ m) :
    Undisturbed (between ++ [moment]) id d m where
  granted other hother := by
    rcases List.mem_append.1 hother with hother | hother
    · exact h.granted other hother
    · rw [List.mem_singleton.1 hother]
      exact hgranted
  ended other hother := by
    rcases List.mem_append.1 hother with hother | hother
    · exact h.ended other hother
    · rw [List.mem_singleton.1 hother]
      exact hended
  silent other hother := by
    rcases List.mem_append.1 hother with hother | hother
    · exact h.silent other hother
    · rw [List.mem_singleton.1 hother]
      exact hsilent
  started := by
    have hbefore := h.started
    rw [List.countP_append, List.countP_singleton]
    omega

theorem Carried.snoc (h : Carried past id job n)
    (hgranted : ∀ other, Granted moment other → other.dest.components ≠ job.dest.components)
    (hended : ¬ Ended moment job.dest)
    (hsilent : moment.2 = .step id → ∀ t, moment.1.make? moment.2 = some t →
      t.sent = moment.1.sent)
    (hstarted : n + (if startsFor job.dest moment then 1 else 0) ≤ m) :
    Carried (past ++ [moment]) id job m := by
  obtain ⟨before, s, between, rfl, hgrant, hbetween⟩ := h
  exact ⟨before, s, between ++ [moment], by simp, hgrant,
    hbetween.snoc hgranted hended hsilent hstarted⟩

theorem startsFor_of_ne_step (h : ∀ id, move ≠ .step id) : startsFor d (s, move) = false := by
  cases move with
  | step id => exact absurd rfl (h id)
  | _ => rfl

theorem Carried.snoc_of_ne_step (h : Carried past id job n) (hmove : ∀ id, move ≠ .step id) :
    Carried (past ++ [(s, move)]) id job n := by
  refine h.snoc ?_ ?_ (fun hstep => absurd hstep (hmove id)) ?_
  · rintro other ⟨task, hturn, -⟩
    exact absurd hturn (not_hasTurn hmove)
  · rintro ⟨task, other, result, hturn, -⟩
    exact not_hasTurn hmove hturn
  · rw [startsFor_of_ne_step hmove]
    exact Nat.le_refl _

theorem startsFor_step (h : s.task? id = some task) :
    startsFor d (s, .step id) = true ↔ ∃ job text, task.stage = .read job ∧
      job.dest.components = d.components ∧ FileStore.readText s.store job.source = .ok text := by
  simp only [startsFor, h, Option.any_some]
  cases hstage : task.stage with
  | read job =>
      cases hread : FileStore.readText s.store job.source with
      | error f => simp [hread, Except.isOk, Except.toBool]
      | ok text => simp [hread, Except.isOk, Except.toBool, Path.same_iff]
  | _ => simp

theorem attached_step (h : s.task? id = some task) :
    Attached (s, .step id) addressee d ↔ task.addressee = addressee ∧
      ∃ dest, s.Attaches task dest ∧ dest.components = d.components := by
  constructor
  · rintro ⟨u, dest, hturn, haddressee, hattaches⟩
    obtain rfl := hturn.unique (hasTurn_of_task? h)
    exact ⟨haddressee, dest, hattaches⟩
  · rintro ⟨haddressee, dest, hattaches⟩
    exact ⟨task, dest, hasTurn_of_task? h, haddressee, hattaches⟩

theorem exists_attached_snoc :
    (∃ other ∈ past ++ [moment], Attached other addressee d) ↔
      (∃ other ∈ past, Attached other addressee d) ∨ Attached moment addressee d := by
  simp [or_and_right, exists_or]

/-- What is true of a session, given its history. -/
structure Attended (past : History σ) (s : BuildSession σ) : Prop where
  orderly : s.Orderly
  owned : s.Owned
  requested : ∀ task ∈ s.tasks, task.addressee ∈ requesters past
  subscribed : ∀ d, ∀ addressee ∈ s.register.subscribersAt d, addressee ∈ requesters past
  sorted : ∀ d, (s.register.subscribersAt d).Pairwise fun a b => a.id < b.id
  attached : ∀ d addressee, addressee ∈ s.register.subscribersAt d ↔
    ∃ moment ∈ past, Attached moment addressee d
  carried : ∀ task ∈ s.tasks, ∀ job, task.stage.job? = some job →
    Carried past task.id job task.stage.starts

theorem attended_start (store : σ) (options : BuildOptions) (sourceTransform : SourceTransform) :
    (start store options sourceTransform).Attended [] where
  orderly := ⟨List.Pairwise.nil, fun _ h => (nomatch h), fun _ h => (nomatch h),
    fun _ h => (nomatch h)⟩
  owned _ := Nat.zero_le _
  requested _ h := nomatch h
  subscribed _ _ h := nomatch h
  sorted _ := List.Pairwise.nil
  attached _ _ := ⟨fun h => (nomatch h), fun ⟨_, h, _⟩ => (nomatch h)⟩
  carried _ h := nomatch h

namespace Attended

/-- Moves other than steps change nothing of what is told. -/
theorem other (h : s.Attended past) (hmove : ∀ id, move ≠ .step id) (horderly : t.Orderly)
    (howners : ∀ d, t.owners d ≤ s.owners d) (hregister : t.register = s.register)
    (htasks : ∀ u ∈ t.tasks, u ∈ s.tasks ∨
      u.stage.job? = none ∧ u.addressee ∈ requesters (past ++ [(s, move)])) :
    t.Attended (past ++ [(s, move)]) where
  orderly := horderly
  owned d := by
    rw [hregister]
    exact Nat.le_trans (howners d) (h.owned d)
  requested u hu := by
    rcases htasks u hu with hu | ⟨-, hrequested⟩
    · exact mem_requesters_snoc (h.requested u hu) _
    · exact hrequested
  subscribed d addressee haddressee := by
    rw [hregister] at haddressee
    exact mem_requesters_snoc (h.subscribed d addressee haddressee) _
  sorted d := hregister ▸ h.sorted d
  attached d addressee := by
    rw [hregister, h.attached, exists_attached_snoc]
    refine (or_iff_left ?_).symm
    rintro ⟨task, dest, hturn, -⟩
    exact not_hasTurn hmove hturn
  carried u hu job hjob := by
    rcases htasks u hu with hu | ⟨hnone, -⟩
    · exact (h.carried u hu job hjob).snoc_of_ne_step hmove
    · rw [hnone] at hjob
      contradiction

theorem call (h : s.Attended past) (addressee : Addressee) (request : Request) :
    (s.call addressee request).1.Attended (past ++ [(s, .call addressee request)]) := by
  refine h.other (fun _ => nofun) (h.orderly.call addressee request)
    (fun d => Nat.le_of_eq (owners_call s addressee request d)) rfl fun u hu => ?_
  rcases List.mem_append.1 hu with hu | hu
  · exact Or.inl hu
  · rw [List.mem_singleton.1 hu]
    refine Or.inr ⟨by cases request <;> rfl, ?_⟩
    rw [requesters_append]
    exact List.mem_append_right _ (List.mem_singleton.2 rfl)

theorem edit (h : s.Attended past) (store : σ) :
    ({ s with store } : BuildSession σ).Attended (past ++ [(s, .edit store)]) :=
  h.other (fun _ => nofun)
    ⟨h.orderly.ids, h.orderly.bound, h.orderly.family, h.orderly.single⟩
    (fun _ => Nat.le_refl _) rfl fun _ hu => Or.inl hu

theorem collect (h : s.Attended past) :
    s.collect.1.Attended (past ++ [(s, .collect)]) :=
  h.other (fun _ => nofun) h.orderly.collect (owners_collect_le s) rfl
    fun _ hu => Or.inl (List.mem_filter.1 hu).1

section Turn

variable (h : s.Attended past) (htask : s.task? id = some task) (hturn : Turns s task turn)

include h htask

/-- A task that works on a target is not disturbed by the turn of another one. -/
theorem carried_other (hu : u ∈ s.tasks) (hid : u.id ≠ id) (hjob : u.stage.job? = some job) :
    Carried (past ++ [(s, .step id)]) u.id job u.stage.starts := by
  obtain ⟨hmem, rfl⟩ := mem_of_task? htask
  have hapart : ∀ other, task.stage.job? = some other →
      other.dest.components ≠ job.dest.components := by
    intro other hother hdest
    exact hid (congrArg BuildTask.id (h.owned.unique hu hmem hjob hother hdest.symm))
  refine (h.carried u hu job hjob).snoc ?_ ?_ (fun hstep => ?_) ?_
  · rintro other ⟨v, hv, hgrants⟩ hdest
    apply hgrants.not_building
    rw [Register.statusAt_congr hdest]
    exact h.owned.building hu hjob
  · rintro ⟨v, other, result, hv, hstage, hdest⟩
    obtain rfl := hv.unique (hasTurn_of_task? htask)
    exact hapart other (by rw [hstage]; rfl) hdest
  · exact absurd (Move.step.inj hstep).symm hid
  · have hidle : ¬ startsFor job.dest (s, .step task.id) = true := by
      intro hstarts
      obtain ⟨other, text, hstage, hdest, -⟩ := (startsFor_step htask).1 hstarts
      exact hapart other (by rw [hstage]; rfl) hdest
    apply Nat.le_of_eq
    rw [if_neg hidle, Nat.add_zero]

include hturn

/-- A task that works on a target after its turn was granted it then, or has gone on. -/
theorem carried_after (hid : s.step? id = some (s.perform task turn))
    (hjob : turn.stage.job? = some job) :
    Carried (past ++ [(s, .step id)]) id job turn.stage.starts := by
  rcases hturn.job?_cases hjob with ⟨hgrants, hstage⟩ | ⟨hbefore, htold, hstage⟩
  · refine ⟨past, s, [], rfl, ⟨task, hasTurn_of_task? htask, hgrants⟩, ?_⟩
    exact ⟨fun _ h => (nomatch h), fun _ h => (nomatch h), fun _ h => (nomatch h), Nat.zero_le _⟩
  · obtain ⟨hmem, rfl⟩ := mem_of_task? htask
    refine (h.carried task hmem job hbefore).snoc ?_ ?_ (fun _ t ht => ?_) ?_
    · rintro other ⟨v, hv, hgrants⟩
      obtain rfl := hv.unique (hasTurn_of_task? htask)
      rw [hgrants.job?_eq_none] at hbefore
      contradiction
    · rintro ⟨v, other, result, hv, hfinish, -⟩
      obtain rfl := hv.unique (hasTurn_of_task? htask)
      cases hturn <;> simp_all [turnTo, BuildTask.Stage.job?]
    · obtain rfl := Option.some.inj (ht.symm.trans hid)
      change s.sent ++ turn.told = s.sent
      rw [htold, List.append_nil]
    · have hone : turn.stage.starts = 1 := by
        cases hafter : turn.stage with
        | read other => exact absurd hafter (hstage other)
        | _ => rfl
      rw [hone]
      split
      · rename_i hstarts
        obtain ⟨other, text, hread, -⟩ := (startsFor_step htask).1 hstarts
        rw [hread]
        exact Nat.le_refl _
      · cases task.stage <;> simp [BuildTask.Stage.starts]

/-- Whoever is told of a destination after a turn was told of it before, or is attached by it. -/
theorem attached_turn (hnumbered : Numbered past) (d : Path) (addressee : Addressee) :
    addressee ∈ turn.register.subscribersAt d ↔
      addressee ∈ s.register.subscribersAt d ∨ Attached (s, .step id) addressee d := by
  rw [attached_step htask]
  rcases hturn.subscribersAt_cases with ⟨dest, hattaches, hafter⟩ | ⟨hnone, hafter⟩
  · rw [hafter, hattaches.exists_iff]
    cases hsame : dest.same d with
    | false => simp
    | true =>
        have hchannel : ∀ other ∈ s.register.subscribersAt d, other.id = task.addressee.id →
            other = task.addressee := by
          intro other hother
          exact hnumbered other (h.subscribed d other hother) task.addressee
            (h.requested task (mem_of_task? htask).1)
        rw [if_pos rfl, Register.mem_subscribe hchannel]
        simp only [and_true]
        rw [or_comm, eq_comm (a := addressee)]
  · rw [hafter]
    refine (or_iff_left ?_).symm
    rintro ⟨-, dest, hattaches, -⟩
    exact hnone dest hattaches

theorem perform (hnumbered : Numbered past) (hid : s.step? id = some (s.perform task turn)) :
    (s.perform task turn).Attended (past ++ [(s, .step id)]) where
  orderly := h.orderly.perform (mem_of_task? htask).1 hturn
  owned := h.owned.perform h.orderly (mem_of_task? htask).1 hturn
  requested u hu := by
    obtain ⟨hmem, -⟩ := mem_of_task? htask
    apply mem_requesters_snoc
    rcases (mem_tasks_perform h.orderly hmem turn).1 hu with ⟨hu, -⟩ | rfl | hu
    · exact h.requested u hu
    · exact h.requested task hmem
    · rw [(mem_started hu).2.1]
      exact h.requested task hmem
  subscribed d addressee haddressee := by
    obtain ⟨hmem, -⟩ := mem_of_task? htask
    apply mem_requesters_snoc
    rcases (h.attached_turn htask hturn hnumbered d addressee).1 haddressee with hbefore | hnow
    · exact h.subscribed d addressee hbefore
    · rw [← ((attached_step htask).1 hnow).1]
      exact h.requested task hmem
  sorted d := by
    change (turn.register.subscribersAt d).Pairwise _
    rcases hturn.subscribersAt_cases with ⟨dest, -, hafter⟩ | ⟨-, hafter⟩
    · rw [hafter]
      split
      · exact Register.pairwise_subscribe _ (h.sorted d)
      · exact h.sorted d
    · rw [hafter]
      exact h.sorted d
  attached d addressee := by
    change addressee ∈ turn.register.subscribersAt d ↔ _
    rw [h.attached_turn htask hturn hnumbered, h.attached, exists_attached_snoc]
  carried u hu job hjob := by
    obtain ⟨hmem, hid'⟩ := mem_of_task? htask
    rcases (mem_tasks_perform h.orderly hmem turn).1 hu with ⟨hu, hne, -⟩ | rfl | hu
    · exact h.carried_other htask hu (hid' ▸ hne) hjob
    · change Carried _ task.id job turn.stage.starts
      rw [hid']
      exact h.carried_after htask hturn hid hjob
    · rw [hturn.job?_of_started hu] at hjob
      contradiction

end Turn

end Attended

theorem Attended.next (h : s.Attended past) (hnumbered : Numbered past)
    (hnext : s.make? move = some t) : t.Attended (past ++ [(s, move)]) := by
  cases move with
  | call addressee request =>
      obtain rfl := Option.some.inj hnext
      exact h.call addressee request
  | edit store =>
      obtain rfl := Option.some.inj hnext
      exact h.edit store
  | collect =>
      obtain rfl := Option.some.inj hnext
      exact h.collect
  | step id =>
      obtain ⟨task, turn, hfound, hturn, rfl⟩ := exists_turn hnext
      exact h.perform hfound hturn hnumbered hnext

theorem Runs.attended (h : Runs first past s) (hfirst : first.Attended [])
    (hnumbered : Numbered past) : s.Attended past := by
  induction h with
  | start => exact hfirst
  | next _ hnext ih => exact (ih hnumbered.of_append).next hnumbered.of_append hnext

/-- **The end of a build is told once to everyone.** Whatever calls are made, however their tasks go
on and whatever happens to the files: a task that is about to end the build of a target can do so.
Then the end is told, once, to exactly the requests that were attached to the target before. The
build was granted to that task; since then it has said nothing, no other build of the target was
granted, and the transform was started for it once at most. And whoever was attached to any target
is told of it from then on. -/
theorem delivered_once {store : σ} {options : BuildOptions} {sourceTransform : SourceTransform}
    (hrun : Runs (start store options sourceTransform) past t) (hnumbered : Numbered past)
    (hpast : past = earlier ++ (s, .step id) :: later) (htask : s.task? id = some task)
    (hstage : task.stage = .finish job result) :
    (∃ (after : BuildSession σ) (addressees : List Addressee), s.make? (.step id) = some after ∧
      after.sent = s.sent ++ addressees.map (fun addressee =>
        (addressee, job.completion (s.register.importersOf job.dest) result)) ∧
      (addressees.map (·.id)).Nodup ∧
      ∀ addressee, addressee ∈ addressees ↔
        ∃ moment ∈ earlier, Attached moment addressee job.dest) ∧
    Carried earlier id job 1 ∧
    ∀ addressee d, (∃ moment ∈ past, Attached moment addressee d) →
      addressee ∈ t.register.subscribersAt d := by
  have hfirst := attended_start store options sourceTransform
  obtain ⟨hearlier, after, hnext, -⟩ := hrun.at_moment hpast
  subst hpast
  have hs := hearlier.attended hfirst hnumbered.of_append
  obtain ⟨hmem, hid⟩ := mem_of_task? htask
  have hjob : task.stage.job? = some job := by
    rw [hstage]
    rfl
  obtain ⟨found, turn, hfound, hturn, rfl⟩ := exists_turn hnext
  obtain rfl := Option.some.inj (htask.symm.trans hfound)
  have htold := hturn.told_finish hstage
    (Register.contains_iff_statusAt.2 ⟨_, hs.owned.building hmem hjob⟩)
  refine ⟨⟨_, s.register.subscribersAt job.dest, hnext, ?_, ?_, fun addressee => ?_⟩, ?_, ?_⟩
  · rw [← htold]
    rfl
  · rw [List.Nodup, List.pairwise_map]
    exact (hs.sorted job.dest).imp fun hlt => Nat.ne_of_lt hlt
  · exact hs.attached job.dest addressee
  · have hcarried := hs.carried task hmem job hjob
    rwa [hstage, hid] at hcarried
  · intro addressee d hattached
    exact ((hrun.attended hfirst hnumbered).attached d addressee).2 hattached

/-! ### Two requests for one target -/

section Shared

/-- One source that two requests ask for. -/
def lone : BuildSession FileTree :=
  start (FileTree.empty.putFile "/p/a.js" "1".toUTF8)
    { baseDir := "/p", outDir := "/p/out", extensions := [".js"], resolveExtensions := [".js"],
      exclude := [], assets := ⟨[], [], "", ""⟩, extra := {} } .scan

/-- The second request finds the source being built for the first one, which goes on until only the
end of the build is left. -/
def sharedMoves : List (Move FileTree) :=
  [Move.call ⟨1, 0⟩ (.compile ["a.js"]), .call ⟨2, 1⟩ (.compile ["a.js"]), .step 0, .step 0,
    .step 1, .step 1] ++ List.replicate 5 (Move.step 0)

def isShared (past : History FileTree) (s : BuildSession FileTree) : Bool :=
  decide (requesters past = [⟨1, 0⟩, ⟨2, 1⟩]) && (s.step? 0).isSome &&
    ((s.task? 0).bind fun task => match task.stage with
      | .finish job (.ok _) => some (s.register.subscribersAt job.dest)
      | _ => none) == some [⟨1, 0⟩, ⟨2, 1⟩]

theorem delivered_once_shared :
    ∃ past s t task job result, Runs lone (past ++ [(s, .step 0)]) t ∧
      Numbered (past ++ [(s, .step 0)]) ∧ s.task? 0 = some task ∧
      task.stage = .finish job result ∧ Carried past 0 job 1 ∧
      ∃ addressees : List Addressee, t.sent = s.sent ++ addressees.map (fun addressee =>
          (addressee, job.completion (s.register.importersOf job.dest) result)) ∧
        ⟨1, 0⟩ ∈ addressees ∧ ⟨2, 1⟩ ∈ addressees ∧ (addressees.map (·.id)).Nodup := by
  have hshared : (lone.replay? sharedMoves).any (fun found => isShared found.1 found.2) = true := by
    decide +kernel
  obtain ⟨⟨past, s⟩, hreplay, hcheck⟩ := (Option.any_eq_true _ _).1 hshared
  simp only [isShared, Bool.and_eq_true, decide_eq_true_eq, beq_iff_eq,
    Option.bind_eq_some_iff, Option.isSome_iff_exists] at hcheck
  obtain ⟨⟨hrequesters, t, ht⟩, task, htask, hfinish⟩ := hcheck
  have hrun : Runs lone past s := Runs.start.replay hreplay
  have hnext : s.make? (.step 0) = some t := ht
  have hnumbered : Numbered (past ++ [(s, .step 0)]) := by
    have hnone : requesters [(s, (.step 0 : Move FileTree))] = [] := rfl
    rw [Numbered, requesters_append, hrequesters, hnone, List.append_nil]
    decide
  split at hfinish
  · rename_i job locals hstage
    have hsubscribers := Option.some.inj hfinish
    have hattended := hrun.attended (attended_start _ _ _) hnumbered.of_append
    obtain ⟨⟨after, addressees, hafter, hsent, hnodup, hmem⟩, hcarried, -⟩ :=
      delivered_once (hrun.next hnext) hnumbered rfl htask hstage
    obtain rfl := Option.some.inj (ht.symm.trans hafter)
    have htold : ∀ addressee ∈ [(⟨1, 0⟩ : Addressee), ⟨2, 1⟩], addressee ∈ addressees := by
      intro addressee haddressee
      rw [hmem, ← hattended.attached, hsubscribers]
      exact haddressee
    exact ⟨past, s, t, task, job, _, hrun.next ht, hnumbered, htask, hstage, hcarried, addressees,
      hsent, htold _ (by simp), htold _ (by simp), hnodup⟩
  · simp at hfinish

end Shared

end BuildSession

end LiveBuild
