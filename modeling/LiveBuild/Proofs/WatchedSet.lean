import LiveBuild.Proofs.Desertion
import LiveBuild.Proofs.RebuildGuard
import LiveBuild.Proofs.Subscribers
import Mathlib

/-!
# Which sources are watched

A watch session watches the sources that the events name that it is told. It is told of the end of a
build if somebody with its channel was attached to the target before, and of what its own tasks
refuse. So a source that others have built before the session asks for it is not watched, until it
is built again.
-/

namespace LiveBuild

open BuildSession (Turn Turns)

theorem BuildJob.subject?_completion (job : BuildJob) (parents : List Path)
    (result : Except BuildError Nat) :
    WatchedSources.subject? (job.completion parents result) = some job.source := by
  cases result <;> rfl

namespace BuildSession

variable {σ : Type} [FileStore σ] {s : BuildSession σ} {task : BuildTask} {turn : Turn σ}
  {source : Path} {message : Addressee × BuildEvent}

omit [FileStore σ] in
theorem Owned.contains_of_finish {job : BuildJob} {result : Except BuildError Nat} (h : s.Owned)
    (htask : task ∈ s.tasks) (hstage : task.stage = .finish job result) :
    s.register.targets.contains job.dest = true := by
  have hjob : task.stage.job? = some job := by
    rw [hstage]
    rfl
  exact Register.contains_iff_statusAt.2 ⟨_, h.building htask hjob⟩

/-- What is told of a source is the end of a build from it, for everyone who is told of the target,
or what comes of a look at it, for the request that looks. -/
theorem Turns.subject_cases (hturn : Turns s task turn) (howned : s.Owned) (htask : task ∈ s.tasks)
    (hmessage : message ∈ turn.told)
    (hsubject : WatchedSources.subject? message.2 = some source) :
    (∃ job result, task.stage = .finish job result ∧ job.source = source ∧
      message.1 ∈ s.register.subscribersAt job.dest) ∨
    ∃ requester, task.stage = .visit source requester ∧
      (∀ rest, ¬ s.options.IsCode s.store source rest) ∧ message.1 = task.addressee := by
  by_cases hfinish : ∃ job result, task.stage = .finish job result
  · obtain ⟨job, result, hstage⟩ := hfinish
    rw [hturn.told_finish hstage (howned.contains_of_finish htask hstage)] at hmessage
    obtain ⟨addressee, haddressee, rfl⟩ := List.mem_map.1 hmessage
    rw [BuildJob.subject?_completion] at hsubject
    exact .inl ⟨job, result, hstage, Option.some.inj hsubject, haddressee⟩
  · cases hturn with
    | finish hstage | finishFailed hstage => exact absurd ⟨_, _, hstage⟩ hfinish
    | refuse e hstage hcode | assetFailed hstage hcode =>
        obtain rfl := List.mem_singleton.1 hmessage
        obtain rfl := Option.some.inj hsubject
        exact .inr ⟨_, hstage, hcode, rfl⟩
    | report =>
        obtain rfl := List.mem_singleton.1 hmessage
        contradiction
    | _ => exact nomatch hmessage

end BuildSession

namespace WatchSession

variable {σ : Type} [FileStore σ] {w v : WatchSession} {build after : BuildSession σ} {now : Nat}
  {move : WatchMove}

/-- A session that goes on changes what it watches, and what it has still to hear, only when it
takes in an event. -/
theorem serve_keeps (hserved : w.serve? build now move = some (after, v)) (hgoes : move ≠ .stop)
    (hmove : ∀ accepts, move ≠ .event accepts) :
    v.addressee = w.addressee ∧ v.events = w.events ∧
      v.sources.watched = w.sources.watched := by
  cases move with
  | event accepts => exact absurd rfl (hmove accepts)
  | stop => exact absurd rfl hgoes
  | change =>
      obtain ⟨change, changes, -, -, rfl⟩ := serve_change hserved
      refine ⟨rfl, rfl, ?_⟩
      dsimp only
      rw [WatchedSources.noteChange]
      split <;> rfl
  | deadline =>
      have hv := congrArg Prod.snd (serve_deadline hserved)
      rw [rebuild_eq] at hv
      obtain rfl : v = _ := hv
      exact ⟨rfl, rfl, (WatchedSources.claimed_claimAll _ _ _).watched⟩
  | rebuilt =>
      obtain ⟨call, rebuilt, -, ⟨-, -, rfl⟩ | ⟨path, -, heq⟩⟩ := serve_rebuilt hserved
      · exact ⟨rfl, rfl, rfl⟩
      · have hv := congrArg Prod.snd heq
        rw [rebuild_eq] at hv
        obtain rfl : v = _ := hv
        exact ⟨rfl, rfl, (WatchedSources.claimed_noteRebuilt _ _ _).watched⟩

end WatchSession

namespace SharedBuild

variable {σ : Type} [FileStore σ] {first x y : SharedBuild σ} {past later : History σ}
  {moment : SharedBuild σ × Move σ} {move : Move σ} {w v : WatchSession} {i id : Nat}
  {task u : BuildTask} {turn : Turn σ} {job : BuildJob} {a : Addressee} {p d : Path}

section Hearing

/-- What a move reports to a watch session. -/
def reports (i : Nat) (moment : SharedBuild σ × Move σ) : List BuildEvent :=
  match moment.2, moment.1.running? i with
  | .build id, some w => (((moment.1.build.step? id).elim [] (·.sent)).filter fun message =>
      message.1.channel == w.addressee.channel).map (·.2)
  | _, _ => []

/-- What has been reported to a watch session while it was running. -/
def reported (past : History σ) (i : Nat) : List BuildEvent := past.flatMap (reports i)

theorem reported_snoc : reported (past ++ [moment]) i = reported past i ++ reports i moment := by
  rw [reported, List.flatMap_append, List.flatMap_singleton, ← reported]

theorem reports_of_ne (hmove : ∀ id, move ≠ .build id) : reports i (x, move) = [] := by
  cases move with
  | build id => exact absurd rfl (hmove id)
  | _ => rfl

theorem reports_build {build : BuildSession σ} (hw : x.running? i = some w)
    (hstep : x.build.step? id = some build) : reports i (x, .build id) =
      (build.sent.filter fun message => message.1.channel == w.addressee.channel).map (·.2) := by
  simp [reports, hw, hstep]

/-- What a move makes of a running watch session, as to what it hears and watches: it has just
begun, or it has taken in an event, or it may have more to hear. -/
inductive Hears (x : SharedBuild σ) (i : Nat) (move : Move σ) (v : WatchSession) : Prop
  | begin : x.watches[i]? = none → (∀ id, move ≠ .build id) →
      (∀ accepts, move ≠ .serve i (.event accepts)) → v.events = [] →
      (∀ p, v.sources.watched.contains p = false) → Hears x i move v
  | take {w : WatchSession} {accepts : Path → Bool} {event : BuildEvent} :
      x.running? i = some w → move = .serve i (.event accepts) → v.addressee = w.addressee →
      w.events = event :: v.events →
      v.sources = w.sources.noteEvent x.build.store accepts event → Hears x i move v
  | stay {w : WatchSession} : x.running? i = some w →
      (∀ accepts, move ≠ .serve i (.event accepts)) → v.addressee = w.addressee →
      v.events = w.events ++ reports i (x, move) → v.sources.watched = w.sources.watched →
      Hears x i move v

theorem hears_of_next (h : x.next? move = some y) (hv : y.running? i = some v) :
    Hears x i move v := by
  obtain ⟨hv, hrunning⟩ := running?_eq_some.1 hv
  have hother : x.watches[i]? = some v → (∀ id, move ≠ .build id) →
      (∀ accepts, move ≠ .serve i (.event accepts)) → Hears x i move v := by
    intro hw hbuild hserve
    refine .stay (running?_eq_some.2 ⟨hw, hrunning⟩) hserve rfl ?_ rfl
    rw [reports_of_ne hbuild, List.append_nil]
  cases move with
  | request addressee request =>
      obtain rfl := Option.some.inj h
      exact hother hv (by simp) (by simp)
  | watch addressee window entries =>
      obtain rfl := Option.some.inj h
      dsimp only at hv
      rw [List.getElem?_append] at hv
      split at hv
      · exact hother hv (by simp) (by simp)
      · rename_i hle
        obtain ⟨hlt, rfl⟩ := List.getElem?_eq_some_iff.1 hv
        rw [List.getElem_singleton]
        exact .begin (List.getElem?_eq_none (Nat.not_lt.1 hle)) (by simp) (by simp) rfl
          PathSet.contains_empty
  | edit change =>
      obtain rfl := Option.some.inj h
      exact hother hv (by simp) (by simp)
  | report j change =>
      obtain ⟨u, hu, rfl⟩ := Option.map_eq_some_iff.1 h
      dsimp only at hv
      by_cases hij : j = i
      · subst hij
        rw [List.getElem?_set_self', (running?_eq_some.1 hu).1] at hv
        obtain rfl := Option.some.inj hv
        exact .stay hu (by simp) rfl (List.append_nil _).symm rfl
      · rw [List.getElem?_set_ne hij] at hv
        exact hother hv (by simp) (by simp)
  | wait duration =>
      obtain rfl := Option.some.inj h
      exact hother hv (by simp) (by simp)
  | build id =>
      obtain ⟨build, hstep, rfl⟩ := Option.map_eq_some_iff.1 h
      rw [handOut, List.getElem?_map] at hv
      obtain ⟨w, hw, rfl⟩ := Option.map_eq_some_iff.1 hv
      have hwrunning : w.isRunning = true := by
        rw [WatchSession.hear] at hrunning
        split at hrunning <;> assumption
      have hw := running?_eq_some.2 ⟨hw, hwrunning⟩
      have hhear : w.hear build.sent =
          { w with events := w.events ++ reports i (x, .build id) } := by
        rw [WatchSession.hear, if_pos hwrunning, reports_build hw hstep]
      rw [hhear]
      exact .stay hw (by simp) rfl rfl rfl
  | collect =>
      obtain rfl := Option.some.inj h
      rw [List.getElem?_map] at hv
      obtain ⟨w, hw, rfl⟩ := Option.map_eq_some_iff.1 hv
      rw [WatchSession.isRunning_endRebuilds] at hrunning
      obtain ⟨rebuilds, rebuilt, heq, -⟩ := w.foldl_endRebuild x.build.collect.2
      rw [WatchSession.endRebuilds, heq]
      exact .stay (running?_eq_some.2 ⟨hw, hrunning⟩) (by simp) rfl (List.append_nil _).symm rfl
  | serve j own =>
      obtain ⟨w, build, u, hw, hwrunning, hserved, rfl⟩ := next_serve h
      dsimp only at hv
      by_cases hij : j = i
      · subst hij
        rw [List.getElem?_set_self', hw] at hv
        obtain rfl : u = v := Option.some.inj hv
        have hw := running?_eq_some.2 ⟨hw, hwrunning⟩
        by_cases hevent : ∃ accepts, own = .event accepts
        · obtain ⟨accepts, rfl⟩ := hevent
          obtain ⟨event, events, hevents, -, rfl⟩ := WatchSession.serve_event hserved
          exact .take hw rfl rfl hevents rfl
        · have hgoes : own ≠ .stop := by
            rintro rfl
            obtain ⟨-, rfl⟩ := WatchSession.serve_stop hserved
            exact absurd hrunning Bool.false_ne_true
          have hmove : ∀ accepts, own ≠ .event accepts := fun accepts heq => hevent ⟨accepts, heq⟩
          obtain ⟨haddressee, hevents, hwatched⟩ := WatchSession.serve_keeps hserved hgoes hmove
          have hbuild : ∀ id, Move.serve j own ≠ (.build id : Move σ) := by simp
          refine .stay hw (fun accepts heq => hmove accepts (Move.serve.inj heq).2) haddressee ?_
            hwatched
          rw [hevents, reports_of_ne hbuild, List.append_nil]
      · rw [List.getElem?_set_ne hij] at hv
        exact hother hv (by simp) fun accepts heq => hij (Move.serve.inj heq).1

/-- A session that has not begun has not begun before. -/
theorem Run.not_begun (h : Run first past x) (hw : x.watches[i]? = none) :
    ∀ moment ∈ past, moment.1.watches[i]? = none := by
  induction h with
  | start => exact fun _ hmoment => nomatch hmoment
  | next _ hnext ih =>
      have hbefore := List.getElem?_eq_none
        (Nat.le_trans (length_le_next hnext) (List.getElem?_eq_none_iff.1 hw))
      intro moment hmoment
      rcases List.mem_append.1 hmoment with hmoment | hmoment
      · exact ih hbefore moment hmoment
      · rw [List.mem_singleton.1 hmoment]
        exact hbefore

theorem Run.length_le (h : Run first past x) : first.watches.length ≤ x.watches.length := by
  induction h with
  | start => exact Nat.le_refl _
  | next _ hnext ih => exact Nat.le_trans ih (length_le_next hnext)

theorem Run.handled_eq_nil (h : Run first past x) (hw : x.watches[i]? = none) :
    handled past i = [] := by
  refine List.filterMap_eq_nil_iff.2 fun moment hmoment => ?_
  have hnone := h.not_begun hw moment hmoment
  split
  · split
    · simp_all
    · rfl
  · rfl

theorem Run.reported_eq_nil (h : Run first past x) (hw : x.watches[i]? = none) :
    reported past i = [] := by
  refine List.flatMap_eq_nil_iff.2 fun moment hmoment => ?_
  have hnone : moment.1.running? i = none := by
    rw [running?, h.not_begun hw moment hmoment]
    rfl
  rw [reports, hnone]
  split <;> simp_all

/-- What has been reported to a running watch session it has taken in, or has still to hear. -/
theorem Run.reported_eq (h : Run first past x) (hnone : first.watches = [])
    (hw : x.running? i = some w) :
    reported past i = handled past i ++ w.events := by
  induction h generalizing w with
  | start => simp [running?, hnone] at hw
  | @next past x y move hrun hnext ih =>
      rw [reported_snoc]
      cases hears_of_next hnext hw with
      | begin hbefore hbuild hserve hevents =>
          rw [hrun.reported_eq_nil hbefore, reports_of_ne hbuild, handled_of_ne hserve,
            hrun.handled_eq_nil hbefore, hevents]
      | @take u accepts event hu hmove _ hevents =>
          have hbuild : ∀ id, move ≠ .build id := hmove ▸ fun _ => nofun
          rw [ih hu, reports_of_ne hbuild, hmove, handled_event (running?_eq_some.1 hu).1 hevents,
            hevents]
          simp
      | stay hu hserve _ hevents =>
          rw [ih hu, handled_of_ne hserve, hevents, List.append_assoc]

/-- A session watches what the events that it has taken in have named. -/
theorem Run.contains_watched (h : Run first past x) (hnone : first.watches = [])
    (haccepts : ∀ moment ∈ past, ∀ accepts, moment.2 = .serve i (.event accepts) →
      ∀ q, accepts q = true) (hw : x.running? i = some w) :
    w.sources.watched.contains p = true ↔
      ∃ event ∈ handled past i, (WatchedSources.subject? event).any (·.same p) = true := by
  induction h generalizing w with
  | start => simp [running?, hnone] at hw
  | @next past x y move hrun hnext ih =>
      have haccepts' : ∀ moment ∈ past, ∀ accepts, moment.2 = .serve i (.event accepts) →
          ∀ q, accepts q = true :=
        fun moment hmoment => haccepts moment (List.mem_append_left _ hmoment)
      cases hears_of_next hnext hw with
      | begin hbefore hbuild hserve _ hwatched =>
          rw [handled_of_ne hserve, hrun.handled_eq_nil hbefore, hwatched]
          simp
      | @take u accepts event hu hmove _ hevents hsources =>
          have hall := haccepts (x, move) (List.mem_append_right _ (List.mem_singleton.2 rfl))
            accepts hmove
          subst hmove
          rw [handled_event (running?_eq_some.1 hu).1 hevents, hsources,
            (WatchedSources.noteEvent_spec _ _ _ _).2.2.2 p, Bool.or_eq_true, ih haccepts' hu]
          simp only [hall, Bool.true_and, List.mem_append, List.mem_singleton]
          constructor
          · rintro (⟨event, hevent, hsame⟩ | hsame)
            · exact ⟨event, .inl hevent, hsame⟩
            · exact ⟨event, .inr rfl, hsame⟩
          · rintro ⟨other, hother | rfl, hsame⟩
            · exact .inl ⟨other, hother, hsame⟩
            · exact .inr hsame
      | stay hu hserve _ _ hwatched =>
          rw [handled_of_ne hserve, hwatched, ih haccepts' hu]

/-- A session keeps its channel. -/
theorem Run.addressee_eq (h : Run first past x) (hw : x.running? i = some w) :
    ∀ moment ∈ past, ∀ u, moment.1.running? i = some u → u.addressee = w.addressee := by
  induction h generalizing w with
  | start => exact fun _ hmoment => nomatch hmoment
  | @next past x y move hrun hnext ih =>
      have hkept : ∀ v, x.running? i = some v → w.addressee = v.addressee →
          ∀ moment ∈ past ++ [(x, move)], ∀ u, moment.1.running? i = some u →
            u.addressee = w.addressee := by
        intro v hv haddressee moment hmoment u hu
        rcases List.mem_append.1 hmoment with hmoment | hmoment
        · exact (ih hv moment hmoment u hu).trans haddressee.symm
        · rw [List.mem_singleton.1 hmoment] at hu
          obtain rfl := Option.some.inj (hu.symm.trans hv)
          exact haddressee.symm
      cases hears_of_next hnext hw with
      | begin hbefore =>
          intro moment hmoment u hu
          have hnone : moment.1.watches[i]? = none := by
            rcases List.mem_append.1 hmoment with hmoment | hmoment
            · exact hrun.not_begun hbefore moment hmoment
            · rw [List.mem_singleton.1 hmoment]
              exact hbefore
          rw [(running?_eq_some.1 hu).1] at hnone
          contradiction
      | take hv _ haddressee => exact hkept _ hv haddressee
      | stay hv _ haddressee => exact hkept _ hv haddressee

end Hearing

section Subscription

/-- A task of the build goes on in some moment. -/
def HasTurn (moment : SharedBuild σ × Move σ) (task : BuildTask) : Prop :=
  moment.2 = .build task.id ∧ moment.1.build.task? task.id = some task

/-- A request is attached to a destination. -/
def Attached (moment : SharedBuild σ × Move σ) (a : Addressee) (d : Path) : Prop :=
  ∃ task dest, HasTurn moment task ∧ task.addressee = a ∧
    moment.1.build.Attaches task dest ∧ dest.components = d.components

/-- Somebody was attached to a destination, and nobody else after that under the same number. -/
def Subscribed (past : History σ) (a : Addressee) (d : Path) : Prop :=
  ∃ before moment after, past = before ++ moment :: after ∧ Attached moment a d ∧
    ∀ other ∈ after, ∀ b, Attached other b d → b.id = a.id → b = a

theorem attached_build (htask : x.build.task? id = some task) :
    Attached (x, .build id) a d ↔ task.addressee = a ∧
      ∃ dest, x.build.Attaches task dest ∧ dest.components = d.components := by
  have hid := (BuildSession.mem_of_task? htask).2
  constructor
  · rintro ⟨u, dest, ⟨hmove, hu⟩, haddressee, hattaches, hdest⟩
    obtain rfl : task = u := by
      rw [← Move.build.inj hmove] at hu
      exact Option.some.inj (htask.symm.trans hu)
    exact ⟨haddressee, dest, hattaches, hdest⟩
  · rintro ⟨haddressee, dest, hattaches, hdest⟩
    exact ⟨task, dest, ⟨by rw [hid], by rw [hid]; exact htask⟩, haddressee, hattaches, hdest⟩

theorem not_attached (hmove : ∀ id, move ≠ .build id) : ¬ Attached (x, move) a d :=
  fun ⟨task, _, hturn, _⟩ => hmove task.id hturn.1

theorem subscribed_snoc : Subscribed (past ++ [moment]) a d ↔ Attached moment a d ∨
    (Subscribed past a d ∧ ∀ b, Attached moment b d → b.id = a.id → b = a) := by
  constructor
  · rintro ⟨before, other, after, heq, hattached, hlast⟩
    rcases BuildSession.snoc_cases heq with ⟨-, rfl, -⟩ | ⟨rest, rfl, rfl⟩
    · exact .inl hattached
    · refine .inr ⟨⟨before, other, rest, rfl, hattached, fun next hnext => ?_⟩, ?_⟩
      · exact hlast next (by simp [hnext])
      · exact hlast moment (by simp)
  · rintro (hattached | ⟨⟨before, other, after, rfl, hattached, hlast⟩, hnow⟩)
    · exact ⟨past, moment, [], rfl, hattached, fun _ h => nomatch h⟩
    · refine ⟨before, other, after ++ [moment], by simp, hattached, fun next hnext => ?_⟩
      rcases List.mem_append.1 hnext with hnext | hnext
      · exact hlast next hnext
      · rw [List.mem_singleton.1 hnext]
        exact hnow

/-- Only the turns of tasks change the register. -/
theorem register_next (hsent : x.build.sent = []) (hmove : ∀ id, move ≠ .build id)
    (h : x.next? move = some y) : y.build.register = x.build.register :=
  build_induction (P := fun s => s.register = x.build.register) (fun _ _ _ hs => hs)
    (fun id _ _ hbuild => absurd hbuild (hmove id)) (fun _ _ hs => hs) (fun _ hs => hs)
    (fun _ _ hs => hs) hsent rfl h

/-- Those are told of a destination who are subscribed to it, each number for one of them. -/
structure Listed (past : History σ) (s : BuildSession σ) : Prop where
  sorted : ∀ d, (s.register.subscribersAt d).Pairwise fun a b => a.id < b.id
  subscribed : ∀ a d, a ∈ s.register.subscribersAt d ↔ Subscribed past a d

theorem Listed.build (h : Listed past x.build) (htask : x.build.task? id = some task)
    (hturn : x.build.Turns task turn) (sent : List (Addressee × BuildEvent)) :
    Listed (past ++ [(x, .build id)]) { x.build.perform task turn with sent } := by
  rcases hturn.subscribersAt_cases with ⟨dest, hattaches, hafter⟩ | ⟨hnone, hafter⟩
  · refine ⟨fun d => ?_, fun a d => ?_⟩
    · change (turn.register.subscribersAt d).Pairwise _
      rw [hafter]
      split
      · exact Register.pairwise_subscribe _ (h.sorted d)
      · exact h.sorted d
    · change a ∈ turn.register.subscribersAt d ↔ _
      rw [hafter, subscribed_snoc, ← h.subscribed]
      simp only [attached_build htask, hattaches.exists_iff]
      split
      · rename_i hsame
        rw [Register.mem_subscribe_iff (h.sorted d)]
        simp only [hsame, and_true]
        constructor
        · rintro (rfl | ⟨ha, hne⟩)
          · exact .inl rfl
          · refine .inr ⟨ha, ?_⟩
            rintro b rfl hid
            exact absurd hid.symm hne
        · rintro (rfl | ⟨ha, hlast⟩)
          · exact .inl rfl
          · by_cases hid : task.addressee.id = a.id
            · exact .inl (hlast _ rfl hid).symm
            · exact .inr ⟨ha, fun heq => hid heq.symm⟩
      · rename_i hsame
        simp [hsame]
  · refine ⟨fun d => ?_, fun a d => ?_⟩
    · change (turn.register.subscribersAt d).Pairwise _
      rw [hafter]
      exact h.sorted d
    · change a ∈ turn.register.subscribersAt d ↔ _
      have hnobody : ∀ b, ¬ Attached (x, .build id) b d := by
        intro b hattached
        obtain ⟨-, dest, hattaches, -⟩ := (attached_build htask).1 hattached
        exact hnone dest hattaches
      rw [hafter, h.subscribed, subscribed_snoc]
      simp [hnobody]

theorem Run.listed (h : Run first past x) (hfirst : Lawful first.build)
    (hempty : ∀ d, first.build.register.subscribersAt d = []) : Listed past x.build := by
  induction h with
  | start =>
      refine ⟨fun d => ?_, fun a d => ?_⟩
      · rw [hempty]
        exact List.Pairwise.nil
      · rw [hempty]
        simp [Subscribed]
  | @next past x y move hrun hnext ih =>
      have hsent := (hrun.lawful hfirst).sent
      by_cases hbuild : ∃ id, move = .build id
      · obtain ⟨id, rfl⟩ := hbuild
        obtain ⟨task, turn, htask, hturn, rfl⟩ := next_build hnext hsent
        exact ih.build htask hturn []
      · have hmove : ∀ id, move ≠ .build id := fun id heq => hbuild ⟨id, heq⟩
        refine ⟨?_, fun a d => ?_⟩
        · rw [register_next hsent hmove hnext]
          exact ih.sorted
        · rw [register_next hsent hmove hnext, ih.subscribed, subscribed_snoc]
          simp [not_attached hmove]

end Subscription

section Naming

/-- A build from a source ends while somebody with a channel is subscribed to the target. -/
def Ended (past : History σ) (moment : SharedBuild σ × Move σ) (channel : Nat) (p : Path) :
    Prop :=
  ∃ task job result a, HasTurn moment task ∧ task.stage = .finish job result ∧
    job.source.same p = true ∧ Subscribed past a job.dest ∧ a.channel = channel

/-- A request with a channel looks at a path where it finds no code, and is told why. -/
def Refuses (moment : SharedBuild σ × Move σ) (channel : Nat) (p : Path) : Prop :=
  ∃ task path requester event after, HasTurn moment task ∧
    task.stage = .visit path requester ∧ path.same p = true ∧
    (∀ rest, ¬ moment.1.build.options.IsCode moment.1.build.store path rest) ∧
    task.addressee.channel = channel ∧ moment.1.build.step? task.id = some after ∧
    (task.addressee, event) ∈ after.sent ∧ WatchedSources.subject? event = some path

/-- What a move reports of a source is the end of a build from it, or its refusal. -/
theorem exists_reports_iff (hx : Lawful x.build) (hlisted : Listed past x.build)
    (hw : x.running? i = some w) (hnext : x.next? move = some y) :
    (∃ event ∈ reports i (x, move), (WatchedSources.subject? event).any (·.same p) = true) ↔
      Ended past (x, move) w.addressee.channel p ∨
        Refuses (x, move) w.addressee.channel p := by
  by_cases hbuild : ∃ id, move = .build id
  · obtain ⟨id, rfl⟩ := hbuild
    obtain ⟨build, hstep, -⟩ := Option.map_eq_some_iff.1 hnext
    obtain ⟨task, turn, htask, hturn, rfl⟩ := BuildSession.exists_turn hstep
    obtain ⟨hmem, rfl⟩ := BuildSession.mem_of_task? htask
    have hunique : ∀ u, HasTurn (x, .build task.id) u → task = u := by
      rintro u ⟨hmove, hu⟩
      rw [← Move.build.inj hmove] at hu
      exact Option.some.inj (htask.symm.trans hu)
    rw [reports_build hw hstep, BuildSession.sent_perform hx.sent]
    constructor
    · rintro ⟨event, hevent, hnames⟩
      obtain ⟨message, hmessage, rfl⟩ := List.mem_map.1 hevent
      obtain ⟨hmessage, hchannel⟩ := List.mem_filter.1 hmessage
      obtain ⟨source, hsubject, hsame⟩ := (Option.any_eq_true _ _).1 hnames
      rcases hturn.subject_cases hx.owned hmem hmessage hsubject with
        ⟨job, result, hstage, rfl, hsubscribed⟩ | ⟨requester, hstage, hcode, haddressee⟩
      · exact .inl ⟨task, job, result, message.1, ⟨rfl, htask⟩, hstage, hsame,
          (hlisted.subscribed _ _).1 hsubscribed, beq_iff_eq.1 hchannel⟩
      · rw [haddressee, beq_iff_eq] at hchannel
        refine .inr ⟨task, source, requester, message.2, _, ⟨rfl, htask⟩, hstage, hsame, hcode,
          hchannel, hstep, ?_, hsubject⟩
        rw [BuildSession.sent_perform hx.sent, ← haddressee]
        exact hmessage
    · rintro (⟨u, job, result, a, hu, hstage, hsame, hsubscribed, hchannel⟩ |
        ⟨u, path, requester, event, after, hu, hstage, hsame, -, hchannel, hafter, hsent, hpath⟩)
      · obtain rfl := hunique u hu
        have hcontains := BuildSession.Owned.contains_of_finish hx.owned hmem hstage
        refine ⟨job.completion (x.build.register.importersOf job.dest) result, ?_, ?_⟩
        · rw [hturn.told_finish hstage hcontains]
          refine List.mem_map.2 ⟨(a, _), List.mem_filter.2 ⟨List.mem_map.2 ⟨a, ?_, rfl⟩, ?_⟩, rfl⟩
          · exact (hlisted.subscribed _ _).2 hsubscribed
          · exact beq_iff_eq.2 hchannel
        · rw [BuildJob.subject?_completion]
          exact hsame
      · obtain rfl := hunique u hu
        obtain rfl := Option.some.inj (hstep.symm.trans hafter)
        rw [BuildSession.sent_perform hx.sent] at hsent
        refine ⟨event, List.mem_map.2 ⟨(task.addressee, event), List.mem_filter.2 ⟨hsent, ?_⟩,
          rfl⟩, ?_⟩
        · exact beq_iff_eq.2 hchannel
        · rw [hpath]
          exact hsame
  · have hmove : ∀ id, move ≠ .build id := fun id heq => hbuild ⟨id, heq⟩
    rw [reports_of_ne hmove]
    refine iff_of_false (fun ⟨_, hevent, _⟩ => nomatch hevent) ?_
    rintro (⟨u, _, _, _, hu, -⟩ | ⟨u, _, _, _, _, hu, -⟩)
    · exact hmove _ hu.1
    · exact hmove _ hu.1

end Naming

section Granted

/-- A job was ended, or the task that worked on it was lost. -/
def Over (past : History σ) (job : BuildJob) : Prop :=
  (∃ before moment after, past = before ++ moment :: after ∧
    ∃ u result, HasTurn moment u ∧ u.stage = .finish job result) ∨ WasDeserted past job.dest

theorem Over.snoc (h : Over past job) (moment : SharedBuild σ × Move σ) :
    Over (past ++ [moment]) job := by
  rcases h with ⟨before, other, after, rfl, hended⟩ | ⟨other, hother, hlost⟩
  · exact .inl ⟨before, other, after ++ [moment], by simp, hended⟩
  · exact .inr ⟨other, List.mem_append_left _ hother, hlost⟩

/-- A task works on a job, or the job is over. -/
def Worked (past : History σ) (id : Nat) (job : BuildJob) (x : SharedBuild σ) : Prop :=
  (∃ u ∈ x.build.tasks, u.id = id ∧ u.stage.job? = some job) ∨ Over past job

theorem Worked.of_mem (h : Worked past id job x) (hsub : ∀ u ∈ x.build.tasks,
    u.stage.job? = some job → u ∈ y.build.tasks) : Worked (past ++ [moment]) id job y :=
  h.imp (fun ⟨u, hu, hid, hjob⟩ => ⟨u, hsub u hu hjob, hid, hjob⟩) (·.snoc moment)

theorem Worked.next (h : Worked past id job x) (hx : Lawful x.build)
    (hnext : x.next? move = some y) : Worked (past ++ [(x, move)]) id job y := by
  have hnow : (x, move) ∈ past ++ [(x, move)] :=
    List.mem_append_right _ (List.mem_singleton.2 rfl)
  cases move with
  | request addressee request =>
      obtain rfl := Option.some.inj hnext
      exact h.of_mem fun u hu _ => List.mem_append_left _ hu
  | watch addressee window entries =>
      obtain rfl := Option.some.inj hnext
      exact h.of_mem fun u hu _ => List.mem_append_left _ hu
  | edit change =>
      obtain rfl := Option.some.inj hnext
      exact h.of_mem fun u hu _ => hu
  | report j change =>
      obtain ⟨u, -, rfl⟩ := Option.map_eq_some_iff.1 hnext
      exact h.of_mem fun u hu _ => hu
  | wait duration =>
      obtain rfl := Option.some.inj hnext
      exact h.of_mem fun u hu _ => hu
  | collect =>
      obtain rfl := Option.some.inj hnext
      exact h.of_mem fun u hu hjob => BuildSession.mem_collect_of_job? hu hjob
  | build other =>
      obtain ⟨task, turn, htask, hturn, rfl⟩ := next_build hnext hx.sent
      obtain ⟨hmem, rfl⟩ := BuildSession.mem_of_task? htask
      rcases h with ⟨u, hu, hid, hjob⟩ | h
      · by_cases hut : u = task
        · subst hut
          rcases hturn.job?_next hjob with hjob | ⟨result, count, hstage, -⟩ |
            ⟨text, hstage, -, hcrash⟩
          · exact .inl ⟨_, BuildSession.after_mem_perform hx.orderly hmem turn, hid, hjob⟩
          · exact .inr (.inl ⟨past, _, [], rfl, u, result, ⟨rfl, htask⟩, hstage⟩)
          · exact .inr (.inr ⟨_, hnow, u, job, text, htask, hstage, Path.same_self _, hcrash⟩)
        · have hstays := BuildSession.mem_perform_of_job? hx.orderly hmem hturn hu hut hjob
          exact .inl ⟨u, hstays, hid, hjob⟩
      · exact .inr (h.snoc _)
  | serve j own =>
      obtain ⟨w, build, v, hw, -, hserved, rfl⟩ := next_serve hnext
      rcases WatchSession.serve_cases hserved with ⟨-, u, paths, rfl⟩ | ⟨rfl, rfl⟩
      · refine h.of_mem fun task htask _ => ?_
        exact u.rebuild_induction (P := fun s => task ∈ s.tasks)
          (fun s path hs => List.mem_append_left _ hs) htask paths
      · rcases h with ⟨u, hu, hid, hjob⟩ | h
        · by_cases hdropped : ∃ entry ∈ w.rebuilds, u.call = entry.1
          · refine .inr (.inr ⟨_, hnow, u, hu, ?_, rebuildsOf_eq hw ▸ hdropped⟩)
            rw [BuildTask.Stage.isAt_of_job? hjob]
            exact Path.same_self _
          · refine .inl ⟨u, List.mem_filter.2 ⟨hu, ?_⟩, hid, hjob⟩
            rw [Bool.not_eq_true', List.any_eq_false]
            intro entry hentry hsame
            exact hdropped ⟨entry, hentry, (beq_iff_eq.1 hsame).symm⟩
        · exact .inr (h.snoc _)

theorem Run.worked (h : Run first later x) (hfirst : Lawful first.build)
    (hworked : Worked [] id job first) : Worked later id job x := by
  induction h with
  | start => exact hworked
  | next hrun hnext ih => exact ih.next (hrun.lawful hfirst) hnext

/-- A session that has begun and runs in the end has run all the time. -/
theorem Run.running_before (h : Run first later x) (hw : x.running? i = some w)
    (hbegun : i < first.watches.length) : ∀ moment ∈ later, (moment.1.running? i).isSome := by
  induction h generalizing w with
  | start => exact fun _ hmoment => nomatch hmoment
  | @next later x y move hrun hnext ih =>
      have hkept : ∀ v, x.running? i = some v →
          ∀ moment ∈ later ++ [(x, move)], (moment.1.running? i).isSome := by
        intro v hv moment hmoment
        rcases List.mem_append.1 hmoment with hmoment | hmoment
        · exact ih hv moment hmoment
        · rw [List.mem_singleton.1 hmoment, hv]
          rfl
      cases hears_of_next hnext hw with
      | begin hnone =>
          have hnone : first.watches.length ≤ i :=
            Nat.le_trans hrun.length_le (List.getElem?_eq_none_iff.1 hnone)
          exact absurd hbegun (Nat.not_lt.2 hnone)
      | take hv => exact hkept _ hv
      | stay hv => exact hkept _ hv

end Granted

section Main

variable {store : σ} {options : BuildOptions} {sourceTransform : SourceTransform}

theorem Run.started_listed (hrun : Run (SharedBuild.start store options sourceTransform) past x) :
    Lawful x.build ∧ Listed past x.build :=
  ⟨hrun.lawful (.start store options sourceTransform),
    hrun.listed (.start store options sourceTransform) fun _ => rfl⟩

/-- A move reports something of a source to a session if it ends a build from it, or refuses it. -/
theorem Run.exists_reported_iff
    (hrun : Run (SharedBuild.start store options sourceTransform) past x)
    (hw : x.running? i = some w) :
    (∃ event ∈ reported past i, (WatchedSources.subject? event).any (·.same p) = true) ↔
      ∃ before moment after, past = before ++ moment :: after ∧
        (moment.1.running? i).isSome = true ∧ (Ended before moment w.addressee.channel p ∨
          Refuses moment w.addressee.channel p) := by
  have hmoment : ∀ before moment after u, past = before ++ moment :: after →
      moment.1.running? i = some u →
      ((∃ event ∈ reports i moment, (WatchedSources.subject? event).any (·.same p) = true) ↔
        Ended before moment w.addressee.channel p ∨ Refuses moment w.addressee.channel p) := by
    intro before moment after u hpast hu
    obtain ⟨hbefore, y, hnext, -⟩ := hrun.at_moment hpast
    obtain ⟨hlawful, hlisted⟩ := hbefore.started_listed
    have hmem : moment ∈ past := hpast ▸ List.mem_append_right _ List.mem_cons_self
    rw [← hrun.addressee_eq hw moment hmem u hu]
    exact exists_reports_iff hlawful hlisted hu hnext
  constructor
  · rintro ⟨event, hevent, hnames⟩
    obtain ⟨moment, hmem, hevent⟩ := List.mem_flatMap.1 hevent
    obtain ⟨before, after, hpast⟩ := List.append_of_mem hmem
    cases hu : moment.1.running? i with
    | none =>
        rw [reports, hu] at hevent
        split at hevent <;> simp_all
    | some u =>
        exact ⟨before, moment, after, hpast, by rw [hu]; rfl,
          (hmoment before moment after u hpast hu).1 ⟨event, hevent, hnames⟩⟩
  · rintro ⟨before, moment, after, hpast, hrunning, hnamed⟩
    obtain ⟨u, hu⟩ := Option.isSome_iff_exists.1 hrunning
    obtain ⟨event, hevent, hnames⟩ := (hmoment before moment after u hpast hu).2 hnamed
    refine ⟨event, List.mem_flatMap.2 ⟨moment, ?_, hevent⟩, hnames⟩
    exact hpast ▸ List.mem_append_right _ List.mem_cons_self

/-- The build that a request is granted ends while the request is subscribed, unless the work is
lost or the subscription is taken over. -/
theorem Run.ended_of_granted {before after : History σ}
    (hrun : Run (SharedBuild.start store options sourceTransform) past x)
    (hpast : past = before ++ (y, .build id) :: after) (hw : x.running? i = some w)
    (hbegun : i < y.watches.length) (htask : y.build.task? id = some task)
    (haddressee : task.addressee = w.addressee) (hgrants : y.build.Grants task job)
    (hkept : ∀ other ∈ after, ∀ b, Attached other b job.dest → b.id = w.addressee.id →
      b = w.addressee)
    (hidle : x.build.owners job.dest = 0) (hlost : ¬ WasDeserted past job.dest) :
    ∃ before moment after, past = before ++ moment :: after ∧
      (moment.1.running? i).isSome = true ∧
        Ended before moment w.addressee.channel job.source := by
  obtain ⟨hbefore, z, hnext, hafter⟩ := hrun.at_moment hpast
  have hlawful := hbefore.started_listed.1
  have hz := lawful_next hlawful hnext
  have hlength := length_le_next hnext
  have hattached : Attached (y, .build id) w.addressee job.dest :=
    (attached_build htask).2 ⟨haddressee, job.dest, hgrants.attaches, rfl⟩
  have hworked : Worked [] id job z := by
    obtain ⟨u, turn, hu, hturn, rfl⟩ := next_build hnext hlawful.sent
    obtain rfl := Option.some.inj (htask.symm.trans hu)
    obtain ⟨hmem, hid⟩ := BuildSession.mem_of_task? htask
    refine .inl ⟨_, BuildSession.after_mem_perform hlawful.orderly hmem turn, hid, ?_⟩
    exact congrArg BuildTask.Stage.job? (hturn.stage_of_grants hgrants)
  rcases hafter.worked hz hworked with ⟨u, hu, -, hjob⟩ | ⟨between, moment, rest, rfl, hended⟩ |
    ⟨other, hother, hdeserts⟩
  · exact absurd hidle (Nat.ne_of_gt (BuildSession.owners_pos hu hjob rfl))
  · obtain ⟨u, result, hturn, hstage⟩ := hended
    have hrunning := hafter.running_before hw (Nat.lt_of_lt_of_le hbegun hlength) moment
      (List.mem_append_right _ List.mem_cons_self)
    refine ⟨before ++ (y, .build id) :: between, moment, rest, by rw [hpast]; simp, hrunning, u,
      job, result, w.addressee, hturn, hstage, Path.same_self _, ?_, rfl⟩
    exact ⟨before, _, between, rfl, hattached, fun other hother =>
      hkept other (List.mem_append_left _ hother)⟩
  · exact absurd ⟨other, hpast ▸ List.mem_append_right _ (List.mem_cons_of_mem _ hother), hdeserts⟩
      hlost

/-- **Which sources a session watches.** Whatever requests and watch sessions share a build, once a
watch session has taken in everything that was reported to it, and if its watcher has accepted what
it was given, it watches exactly the sources of the builds that have ended, since it began, while
somebody with its channel was subscribed to the target, and what a request with its channel was
refused. Changes of all other paths it ignores. A source that one of its own tasks was granted the
build of is watched once nobody works on the target any more, unless the work was lost or the
subscription was taken over. -/
theorem watched_iff (hrun : Run (SharedBuild.start store options sourceTransform) past x)
    (hw : x.running? i = some w) (hevents : w.events = [])
    (haccepts : ∀ moment ∈ past, ∀ accepts, moment.2 = .serve i (.event accepts) →
      ∀ q, accepts q = true) :
    (∀ p, w.sources.watched.contains p = true ↔ ∃ before moment after,
      past = before ++ moment :: after ∧ (moment.1.running? i).isSome = true ∧
        (Ended before moment w.addressee.channel p ∨
          Refuses moment w.addressee.channel p)) ∧
    (∀ p kind now, w.sources.watched.contains p = false →
      w.sources.noteChange ⟨p, kind⟩ now = w.sources) ∧
    ∀ before y id after task job, past = before ++ (y, .build id) :: after →
      i < y.watches.length → y.build.task? id = some task → task.addressee = w.addressee →
      y.build.Grants task job →
      (∀ other ∈ after, ∀ b, Attached other b job.dest → b.id = w.addressee.id →
        b = w.addressee) →
      x.build.owners job.dest = 0 → ¬ WasDeserted past job.dest →
      w.sources.watched.contains job.source = true := by
  have hwatched : ∀ p, w.sources.watched.contains p = true ↔ ∃ before moment after,
      past = before ++ moment :: after ∧ (moment.1.running? i).isSome = true ∧
        (Ended before moment w.addressee.channel p ∨
          Refuses moment w.addressee.channel p) := by
    intro p
    have hall := hrun.reported_eq rfl hw
    rw [hevents, List.append_nil] at hall
    rw [hrun.contains_watched rfl haccepts hw, ← hall]
    exact hrun.exists_reported_iff hw
  refine ⟨hwatched, fun p kind now hp => ?_, ?_⟩
  · rw [WatchedSources.noteChange, hp]
    rfl
  · intro before y id after task job hpast hbegun htask haddressee hgrants hkept hidle hlost
    obtain ⟨earlier, moment, later, hsplit, hrunning, hended⟩ :=
      hrun.ended_of_granted hpast hw hbegun htask haddressee hgrants hkept hidle hlost
    exact (hwatched job.source).2 ⟨earlier, moment, later, hsplit, hrunning, .inl hended⟩

end Main

section Solo

theorem accepts_of_moves {moves : List (Move FileTree)} {x y : SharedBuild FileTree}
    {past : History FileTree} (h : x.replay? moves = some (past, y))
    (hmoves : ∀ accepts, .serve i (.event accepts) ∈ moves → ∀ q, accepts q = true) :
    ∀ moment ∈ past, ∀ accepts, moment.2 = .serve i (.event accepts) →
      ∀ q, accepts q = true := by
  intro moment hmoment accepts hmove
  refine hmoves accepts ?_
  rw [← map_snd_of_replay? h, ← hmove]
  exact List.mem_map_of_mem hmoment

/-- Nothing is left to do or to hear, and the source is watched or not. -/
def isHeardOut (isWatched : Bool) (x : SharedBuild FileTree) : Bool :=
  x.build.tasks.isEmpty && (x.running? 0).any fun w =>
    w.events.isEmpty && w.sources.watched.contains "/p/a.js" == isWatched

/-- A session that asks for its source before anybody else comes to watch it. -/
theorem watched_iff_firstBuild : ∃ past x w, Run solo past x ∧ x.running? 0 = some w ∧
    w.events = [] ∧ w.sources.watched.contains "/p/a.js" = true ∧
    ∃ before moment after, past = before ++ moment :: after ∧
      (moment.1.running? 0).isSome = true ∧
        (Ended before moment w.addressee.channel "/p/a.js" ∨
          Refuses moment w.addressee.channel "/p/a.js") := by
  obtain ⟨past, x, hreplay, hrun, hcheck⟩ := exists_replay (isHeardOut true ·.2)
    (show (solo.replay? firstBuild).any (fun found => isHeardOut true found.2) = true by
      decide +kernel)
  simp only [isHeardOut, Bool.and_eq_true, List.isEmpty_iff, Option.any_eq_true, beq_iff_eq]
    at hcheck
  obtain ⟨-, w, hw, hevents, hwatched⟩ := hcheck
  have haccepts := accepts_of_moves (i := 0) hreplay fun accepts haccepts => by
    obtain rfl : accepts = fun _ => true := by simpa [firstBuild, takeEvent] using haccepts
    exact fun _ => rfl
  exact ⟨past, x, w, hrun, hw, hevents, hwatched,
    ((watched_iff hrun hw hevents haccepts).1 _).1 hwatched⟩

/-- A request builds the source. Then a watch session asks for it, and the source is saved. -/
def watchLate : List (Move FileTree) :=
  Move.request ⟨1, 0⟩ (.compile ["a.js"]) :: List.replicate 9 (Move.build 0) ++
    Move.collect :: Move.watch ⟨2, 1⟩ 50 ["a.js"] :: List.replicate 3 (Move.build 1) ++
    [Move.collect, takeEvent, .edit (·.putFile "/p/a.js" "1".toUTF8),
      .report 0 ⟨"/p/a.js", .modified⟩, .serve 0 .change]

/-- The session has heard no more than that its request is through, and has passed over the save. -/
def isPassedOver (found : History FileTree × SharedBuild FileTree) : Bool :=
  isHeardOut false found.2 && decide (handled found.1 0 = [.built 0]) &&
    FileStore.isFile found.2.build.store "/p/a.js" &&
    (found.2.running? 0).any (fun w => w.changes.isEmpty && w.sources.pending.held.isEmpty) &&
    decide (found.2.build.store.content? "/p/a.js" = some "1".toUTF8) &&
    decide (found.2.build.store.content? "/p/out/a.js" = some "0".toUTF8)

/-- The source of a session is not watched, though its request is through and everything is heard.
A change of it is passed over. -/
theorem not_watched_watchLate : ∃ past x w, solo.replay? watchLate = some (past, x) ∧
    Run solo past x ∧ x.running? 0 = some w ∧ x.build.tasks = [] ∧ w.events = [] ∧
    w.changes = [] ∧ handled past 0 = [.built 0] ∧
    (∀ moment ∈ past, ∀ accepts, moment.2 = .serve 0 (.event accepts) → ∀ q, accepts q = true) ∧
    soloOptions.entryPath "a.js" = "/p/a.js" ∧
    soloOptions.IsCode x.build.store "/p/a.js" "a.js" ∧
    w.sources.watched.contains "/p/a.js" = false ∧ w.sources.pending.held.isEmpty = true ∧
    x.build.store.content? "/p/a.js" = some "1".toUTF8 ∧
    x.build.store.content? "/p/out/a.js" = some "0".toUTF8 := by
  obtain ⟨past, x, hreplay, hrun, hcheck⟩ := exists_replay isPassedOver
    (show (solo.replay? watchLate).any isPassedOver = true by decide +kernel)
  simp only [isPassedOver, isHeardOut, Bool.and_eq_true, List.isEmpty_iff, Option.any_eq_true,
    beq_iff_eq, decide_eq_true_eq] at hcheck
  obtain ⟨⟨⟨⟨⟨⟨hidle, w, hw, hevents, hwatched⟩, hhandled⟩, hfile⟩, v, hv, hchanges, hheld⟩,
    hsource⟩, hout⟩ := hcheck
  obtain rfl := Option.some.inj (hw.symm.trans hv)
  have haccepts := accepts_of_moves (i := 0) hreplay fun accepts haccepts => by
    obtain rfl : accepts = fun _ => true := by simpa [watchLate, takeEvent] using haccepts
    exact fun _ => rfl
  have hcode : soloOptions.IsCode x.build.store "/p/a.js" "a.js" :=
    { file := hfile
      below := rfl
      kept := rfl
      suffix := ⟨".js", by decide +kernel, by decide +kernel, rfl⟩ }
  exact ⟨past, x, w, hreplay, hrun, hw, hidle, hevents, hchanges, hhandled, haccepts,
    by decide +kernel, hcode, hwatched, hheld, hsource, hout⟩

end Solo

end SharedBuild

end LiveBuild
