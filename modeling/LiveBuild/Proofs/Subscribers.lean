import LiveBuild.Proofs.Ownership
import LiveBuild.Proofs.Requesters

/-!
# Who is told of a target

Whoever asks for a target, or claims it to build it again, is told of it from then on, through the
addressee that was given last. The end of a build is told to exactly those, and is all that is told
of it: the task that carries a build out says nothing before the end.
-/

namespace LiveBuild

namespace Register

variable {r : Register} {d p path : Path} {addressee other : Addressee} {l : List Addressee}

theorem mem_of_mem_subscribe (h : other ∈ subscribe addressee l) :
    other = addressee ∨ other ∈ l := by
  induction l with
  | nil => exact Or.inl (List.mem_singleton.1 h)
  | cons first rest ih =>
      rw [subscribe] at h
      split at h
      · exact List.mem_cons.1 h
      · split at h
        · exact (List.mem_cons.1 h).imp_right (List.mem_cons_of_mem _)
        · rcases List.mem_cons.1 h with rfl | h
          · exact Or.inr List.mem_cons_self
          · exact (ih h).imp_right (List.mem_cons_of_mem _)

/-- Nobody is dropped when a request is added that always gives the same addressee. -/
theorem mem_subscribe (h : ∀ first ∈ l, first.id = addressee.id → first = addressee) :
    other ∈ subscribe addressee l ↔ other = addressee ∨ other ∈ l := by
  refine ⟨mem_of_mem_subscribe, ?_⟩
  induction l with
  | nil => exact fun hother => List.mem_singleton.2 (hother.resolve_right List.not_mem_nil)
  | cons first rest ih =>
      obtain ⟨hfirst, hrest⟩ := List.forall_mem_cons.1 h
      rw [subscribe]
      split
      · exact List.mem_cons.2
      · split
        · rename_i hid
          rw [hfirst hid.symm]
          rintro (rfl | hother)
          · exact List.mem_cons_self
          · exact hother
        · rintro (hother | hother)
          · exact List.mem_cons_of_mem _ (ih hrest (Or.inl hother))
          · rcases List.mem_cons.1 hother with rfl | hother
            · exact List.mem_cons_self
            · exact List.mem_cons_of_mem _ (ih hrest (Or.inr hother))

theorem mem_subscribe_self (addressee : Addressee) (l : List Addressee) :
    addressee ∈ subscribe addressee l := by
  induction l with
  | nil => exact List.mem_singleton.2 rfl
  | cons first rest ih =>
      rw [subscribe]
      split
      · exact List.mem_cons_self
      · split
        · exact List.mem_cons_self
        · exact List.mem_cons_of_mem _ ih

theorem pairwise_subscribe (addressee : Addressee) (h : l.Pairwise fun a b => a.id < b.id) :
    (subscribe addressee l).Pairwise fun a b => a.id < b.id := by
  induction l with
  | nil => exact List.pairwise_singleton _ _
  | cons first rest ih =>
      obtain ⟨hfirst, hrest⟩ := List.pairwise_cons.1 h
      rw [subscribe]
      split
      · rename_i hlt
        refine List.pairwise_cons.2 ⟨?_, h⟩
        intro other hother
        rcases List.mem_cons.1 hother with rfl | hother
        · exact hlt
        · exact Nat.lt_trans hlt (hfirst other hother)
      · split
        · rename_i hid
          exact List.pairwise_cons.2 ⟨fun other hother => hid ▸ hfirst other hother, hrest⟩
        · rename_i hlt hid
          refine List.pairwise_cons.2 ⟨?_, ih hrest⟩
          intro other hother
          rcases mem_of_mem_subscribe hother with rfl | hother
          · omega
          · exact hfirst other hother

/-- Only the last one who was added under a number is kept. -/
theorem mem_subscribe_iff (h : l.Pairwise fun a b => a.id < b.id) :
    other ∈ subscribe addressee l ↔
      other = addressee ∨ other ∈ l ∧ other.id ≠ addressee.id := by
  induction l with
  | nil => simp [subscribe]
  | cons first rest ih =>
      obtain ⟨hfirst, hrest⟩ := List.pairwise_cons.1 h
      rw [subscribe]
      split
      · rename_i hlt
        have hne : ∀ a ∈ first :: rest, a.id ≠ addressee.id := by
          intro a ha
          rcases List.mem_cons.1 ha with rfl | ha
          · exact (Nat.ne_of_lt hlt).symm
          · exact (Nat.ne_of_lt (Nat.lt_trans hlt (hfirst a ha))).symm
        rw [List.mem_cons]
        exact or_congr_right ⟨fun ha => ⟨ha, hne other ha⟩, And.left⟩
      · split
        · rename_i hid
          have hne : ∀ a ∈ rest, a.id ≠ addressee.id := by
            intro a ha
            rw [hid]
            exact (Nat.ne_of_lt (hfirst a ha)).symm
          rw [List.mem_cons]
          refine or_congr_right ⟨fun ha => ⟨List.mem_cons_of_mem _ ha, hne other ha⟩, ?_⟩
          rintro ⟨ha, hother⟩
          rcases List.mem_cons.1 ha with rfl | ha
          · exact absurd hid.symm hother
          · exact ha
        · rename_i hid
          rw [List.mem_cons, ih hrest, List.mem_cons]
          constructor
          · rintro (rfl | rfl | ⟨ha, hne⟩)
            · exact .inr ⟨.inl rfl, fun heq => hid heq.symm⟩
            · exact .inl rfl
            · exact .inr ⟨.inr ha, hne⟩
          · rintro (rfl | ⟨rfl | ha, hne⟩)
            · exact .inr (.inl rfl)
            · exact .inl rfl
            · exact .inr (.inr ⟨ha, hne⟩)

/-- Those who are told of a destination. -/
def subscribersAt (r : Register) (d : Path) : List Addressee :=
  ((r.targets.get? d).map (·.subscribers)).getD []

theorem contains_of_mem_subscribersAt (h : addressee ∈ r.subscribersAt d) :
    r.targets.contains d = true := by
  rw [PathMap.contains_iff]
  cases hget : r.targets.get? d with
  | none => simp [subscribersAt, hget] at h
  | some target => exact ⟨target, rfl⟩

theorem subscribersAt_enroll (r : Register) (source d : Path) (requester : Option Path)
    (addressee : Addressee) (p : Path) :
    (r.enroll source d requester addressee).1.subscribersAt p =
      if d.same p then subscribe addressee (r.subscribersAt p) else r.subscribersAt p := by
  cases hcontains : r.targets.contains d with
  | true =>
      obtain ⟨gain, hget, -⟩ := get?_enroll_of_contains source requester addressee hcontains p
      rw [subscribersAt, hget, subscribersAt]
      by_cases hsame : d.same p
      · rw [PathMap.contains_congr (Path.same_iff.1 hsame)] at hcontains
        obtain ⟨target, htarget⟩ := PathMap.contains_iff.1 hcontains
        simp [hsame, htarget]
      · cases r.targets.get? p <;> simp [hsame]
  | false =>
      rw [subscribersAt, get?_enroll_of_not_contains hcontains, subscribersAt]
      by_cases hsame : d.same p
      · rw [PathMap.contains_congr (Path.same_iff.1 hsame), PathMap.contains_eq_false_iff]
          at hcontains
        simp [hsame, hcontains, newTarget, subscribe]
      · simp [hsame]

@[simp]
theorem subscribersAt_close (r : Register) (d : Path) (succeeded : Bool) (p : Path) :
    (r.close d succeeded).1.subscribersAt p = r.subscribersAt p := by
  rw [subscribersAt, get?_close, subscribersAt]
  cases r.targets.get? p <;> by_cases hsame : d.same p <;> simp [hsame]

theorem subscribersAt_reopen (r : Register) (path : Path) (addressee : Addressee) :
    (∃ d, r.recordedAs? path = some d ∧ r.targets.contains d = true ∧
      (r.reopen path addressee).2 ≠ .unknown ∧
      ∀ p, (r.reopen path addressee).1.subscribersAt p =
        if d.same p then subscribe addressee (r.subscribersAt p) else r.subscribersAt p) ∨
    r.reopen path addressee = (r, .unknown) := by
  have hafter : ∀ {d : Path} {target : Target} {status : TargetStatus},
      r.targets.get? d = some target →
      (∀ q, (r.reopen path addressee).1.targets.get? q =
        if d.same q then
          some { target with
            subscribers := subscribe addressee target.subscribers
            status }
        else r.targets.get? q) →
      ∀ p, (r.reopen path addressee).1.subscribersAt p =
        if d.same p then subscribe addressee (r.subscribersAt p) else r.subscribersAt p := by
    intro d target status hget hreopen p
    rw [subscribersAt, hreopen, subscribersAt]
    by_cases hsame : d.same p
    · rw [PathMap.get?_congr (Path.same_iff.1 hsame)] at hget
      simp [hsame, hget]
    · simp [hsame]
  rcases reopen_cases r path addressee with ⟨d, target, hrecorded, hget, -, hanswer, hreopen⟩ |
    ⟨d, target, hrecorded, hget, -, hanswer, hreopen⟩ | hunknown
  · refine Or.inl ⟨d, hrecorded, PathMap.contains_iff.2 ⟨target, hget⟩, ?_, hafter hget hreopen⟩
    simp [hanswer]
  · refine Or.inl ⟨d, hrecorded, PathMap.contains_iff.2 ⟨target, hget⟩, ?_, hafter hget hreopen⟩
    simp [hanswer]
  · exact Or.inr hunknown

/-- The end of a build names everyone who is told of it, and the importers of the target. -/
theorem close_eq_some (h : r.targets.contains d = true) (succeeded : Bool) :
    ∃ closing, (r.close d succeeded).2 = some closing ∧
      closing.addressees = r.subscribersAt d ∧ closing.parents = r.importersOf d := by
  obtain ⟨target, hget⟩ := PathMap.contains_iff.1 h
  refine ⟨_, by rw [close, hget], ?_, ?_⟩
  · simp [subscribersAt, hget]
  · simp [importersOf, target?, recordedAs?, h, hget]

end Register

/-- What is told of a build when it ends. -/
def BuildJob.completion (job : BuildJob) (parents : List Path) :
    Except BuildError Nat → BuildEvent
  | .ok locals => .fileBuilt job.source job.dest locals parents
  | .error e => .forFile job.source e

namespace BuildSession

variable {σ : Type} [FileStore σ] {s : BuildSession σ} {task : BuildTask} {turn : Turn σ}
  {job : BuildJob} {result : Except BuildError Nat} {d d' : Path}

/-- The next step of a task attaches the request that it works for to a destination: it asks for the
target, or claims it under one of its names. -/
inductive Attaches (s : BuildSession σ) (task : BuildTask) : Path → Prop
  | enroll {path rest : Path} {requester : Option Path} : task.stage = .visit path requester →
      s.options.IsCode s.store path rest → Attaches s task (s.options.codeOutput rest)
  | reopen {path d : Path} : task.stage = .claim path →
      s.register.recordedAs? path = some d → s.register.targets.contains d = true →
      Attaches s task d

/-- The next step of a task is granted a build: the first one of a target, or another one. -/
inductive Grants (s : BuildSession σ) (task : BuildTask) : BuildJob → Prop
  | first {path rest : Path} {requester : Option Path} : task.stage = .visit path requester →
      s.options.IsCode s.store path rest →
      s.register.targets.contains (s.options.codeOutput rest) = false →
      Grants s task ⟨path, s.options.codeOutput rest⟩
  | again {path d : Path} : task.stage = .claim path →
      (s.register.reopen path task.addressee).2 = .started d → Grants s task ⟨path, d⟩

theorem Attaches.unique (h : s.Attaches task d) (h' : s.Attaches task d') : d = d' := by
  cases h with
  | enroll hstage hcode =>
      cases h' with
      | enroll hstage' hcode' =>
          obtain ⟨rfl, -⟩ := BuildTask.Stage.visit.inj (hstage.symm.trans hstage')
          rw [Except.ok.inj (hcode.below.symm.trans hcode'.below)]
      | reopen hstage' => simp [hstage] at hstage'
  | reopen hstage hrecorded =>
      cases h' with
      | enroll hstage' => simp [hstage] at hstage'
      | reopen hstage' hrecorded' =>
          obtain rfl := BuildTask.Stage.claim.inj (hstage.symm.trans hstage')
          exact Option.some.inj (hrecorded.symm.trans hrecorded')

theorem Attaches.exists_iff (h : s.Attaches task d) :
    (∃ other, s.Attaches task other ∧ other.components = d'.components) ↔ d.same d' = true := by
  rw [Path.same_iff]
  constructor
  · rintro ⟨other, hother, hsame⟩
    rwa [h.unique hother]
  · exact fun hsame => ⟨d, h, hsame⟩

/-- A build is granted of a target that is not being built. -/
theorem Grants.not_building (h : s.Grants task job) :
    s.register.statusAt job.dest ≠ some .building := by
  cases h with
  | first _ _ hnew => simp [Register.statusAt_of_not_contains hnew]
  | again _ hclaim => exact (Register.reopen_started hclaim).2.2.1

theorem Grants.job?_eq_none (h : s.Grants task job) : task.stage.job? = none := by
  cases h with
  | first hstage => simp [hstage, BuildTask.Stage.job?]
  | again hstage => simp [hstage, BuildTask.Stage.job?]

theorem Grants.attaches (h : s.Grants task job) : s.Attaches task job.dest := by
  cases h with
  | first hstage hcode => exact .enroll hstage hcode
  | again hstage hclaim =>
      obtain ⟨hrecorded, hcontains, -⟩ := Register.reopen_started hclaim
      exact .reopen hstage hrecorded hcontains

/-- A turn adds its request to those who are told of the destination that it is attached to. -/
theorem Turns.subscribersAt_cases (hturn : Turns s task turn) :
    (∃ d, s.Attaches task d ∧ ∀ p, turn.register.subscribersAt p =
      if d.same p then Register.subscribe task.addressee (s.register.subscribersAt p)
      else s.register.subscribersAt p) ∨
    ((∀ d, ¬ s.Attaches task d) ∧
      ∀ p, turn.register.subscribersAt p = s.register.subscribersAt p) := by
  have hclaimed : ∀ {path : Path}, task.stage = .claim path →
      (s.register.reopen path task.addressee).2 ≠ .unknown →
      ∃ d, s.Attaches task d ∧ ∀ p,
        (s.register.reopen path task.addressee).1.subscribersAt p =
          if d.same p then Register.subscribe task.addressee (s.register.subscribersAt p)
          else s.register.subscribersAt p := by
    intro path hstage hknown
    rcases Register.subscribersAt_reopen s.register path task.addressee with
      ⟨d, hrecorded, hcontains, -, hafter⟩ | hunknown
    · exact ⟨d, .reopen hstage hrecorded hcontains, hafter⟩
    · simp [hunknown] at hknown
  have hpassed : ∀ {path : Path} {requester : Option Path}, task.stage = .visit path requester →
      (∀ rest, ¬ s.options.IsCode s.store path rest) → ∀ d, ¬ s.Attaches task d := by
    intro path requester hstage hnot d hattaches
    cases hattaches with
    | enroll hstage' hcode =>
        obtain ⟨rfl, -⟩ := BuildTask.Stage.visit.inj (hstage.symm.trans hstage')
        exact hnot _ hcode
    | reopen hstage' => simp [hstage] at hstage'
  cases hturn with
  | claim hstage hclaim => exact Or.inl (hclaimed hstage (by simp [hclaim]))
  | attach hstage hclaim => exact Or.inl (hclaimed hstage (by simp [hclaim]))
  | @meet path hstage hclaim =>
      refine Or.inr ⟨fun d hattaches => ?_, fun p => ?_⟩
      · cases hattaches with
        | enroll hstage' => simp [hstage] at hstage'
        | reopen hstage' hrecorded hcontains =>
            obtain rfl := BuildTask.Stage.claim.inj (hstage.symm.trans hstage')
            rw [Register.not_recorded_of_unknown hclaim d hrecorded] at hcontains
            contradiction
      · rcases Register.subscribersAt_reopen s.register path task.addressee with
          ⟨d, -, -, hknown, -⟩ | hunknown
        · exact absurd hclaim hknown
        · dsimp only
          rw [hunknown]
  | pass hstage hcode => exact Or.inr ⟨hpassed hstage hcode, fun _ => rfl⟩
  | refuse e hstage hcode => exact Or.inr ⟨hpassed hstage hcode, fun _ => rfl⟩
  | asset hstage hcode => exact Or.inr ⟨hpassed hstage hcode, fun _ => rfl⟩
  | assetFailed hstage hcode => exact Or.inr ⟨hpassed hstage hcode, fun _ => rfl⟩
  | walk hstage hwalked =>
      exact Or.inr ⟨hpassed hstage hwalked.not_isCode, fun _ => rfl⟩
  | join hstage hcode =>
      exact Or.inl ⟨_, .enroll hstage hcode, Register.subscribersAt_enroll _ _ _ _ _⟩
  | begin hstage hcode =>
      exact Or.inl ⟨_, .enroll hstage hcode, Register.subscribersAt_enroll _ _ _ _ _⟩
  | _ =>
      refine Or.inr ⟨fun d hattaches => ?_, fun p => by simp [turnTo]⟩
      cases hattaches <;> simp_all

theorem Turns.mem_subscribersAt (hturn : Turns s task turn) (hattaches : s.Attaches task d) :
    task.addressee ∈ turn.register.subscribersAt d := by
  rcases hturn.subscribersAt_cases with ⟨d', hattaches', hafter⟩ | ⟨hnone, -⟩
  · rw [hattaches.unique hattaches', hafter, if_pos (Path.same_self d')]
    exact Register.mem_subscribe_self _ _
  · exact absurd hattaches (hnone d)

/-- A request is told of what it was told of, as long as its own tasks take turns. -/
theorem Turns.mem_subscribersAt_of_mem (hturn : Turns s task turn)
    (hmem : task.addressee ∈ s.register.subscribersAt d) :
    task.addressee ∈ turn.register.subscribersAt d := by
  rcases hturn.subscribersAt_cases with ⟨d', -, hafter⟩ | ⟨-, hafter⟩
  · rw [hafter]
    split
    · exact Register.mem_subscribe_self _ _
    · exact hmem
  · rwa [hafter]

/-- A task that works on a target after its turn was granted the build in this turn, or has gone on
with it in silence. -/
theorem Turns.job?_cases (hturn : Turns s task turn) (hjob : turn.stage.job? = some job) :
    (s.Grants task job ∧ turn.stage = .read job) ∨
    (task.stage.job? = some job ∧ turn.told = [] ∧ ∀ job, turn.stage ≠ .read job) := by
  cases hturn with
  | claim hstage hclaim =>
      obtain rfl := Option.some.inj hjob
      exact Or.inl ⟨.again hstage hclaim, rfl⟩
  | begin hstage hcode hnew =>
      obtain rfl := Option.some.inj hjob
      exact Or.inl ⟨.first hstage hcode hnew, rfl⟩
  | _ => simp_all [turnTo, BuildTask.Stage.job?]

/-- A record is built only if the build was granted. -/
theorem Turns.not_building (hturn : Turns s task turn)
    (hgrants : ∀ job, s.Grants task job → job.dest.components ≠ d.components)
    (h : s.register.statusAt d ≠ some .building) : turn.register.statusAt d ≠ some .building := by
  cases hturn.tenure with
  | regain hstage hclaim _ hregister =>
      have hne := hgrants _ (.again hstage hclaim)
      rw [hregister, (Register.reopen_started hclaim).2.2.2,
        if_neg fun hsame => hne (Path.same_iff.1 hsame)]
      exact h
  | gain hstage hcode hnew _ hregister =>
      have hne := hgrants _ (.first hstage hcode hnew)
      rw [hregister, Register.statusAt_enroll,
        if_neg fun hboth => hne (Path.same_iff.1 hboth.2)]
      exact h
  | lose _ _ hregister =>
      rw [hregister, Register.statusAt_close]
      split
      · exact fun hbuilding => Register.outcome_ne_building _ (Option.some.inj hbuilding)
      · exact h
  | keep _ hstatus => rwa [hstatus]

/-- Whoever is granted a build has the source to read next. -/
theorem Turns.stage_of_grants (hturn : Turns s task turn) (hgrants : s.Grants task job) :
    turn.stage = .read job := by
  cases hgrants with
  | @first path rest requester hvisit hcode hcontains =>
      cases hturn with
      | @begin path' rest' requester' hvisit' hcode' =>
          obtain ⟨rfl, -⟩ := BuildTask.Stage.visit.inj (hvisit.symm.trans hvisit')
          rw [Attaches.unique (.enroll hvisit hcode) (.enroll hvisit hcode')]
          rfl
      | @join path' rest' requester' hvisit' hcode' hcontains' =>
          obtain ⟨rfl, -⟩ := BuildTask.Stage.visit.inj (hvisit.symm.trans hvisit')
          rw [Attaches.unique (.enroll hvisit hcode) (.enroll hvisit hcode'), hcontains']
            at hcontains
          contradiction
      | pass hvisit' hnone | refuse _ hvisit' hnone | asset hvisit' hnone
      | assetFailed hvisit' hnone =>
          obtain ⟨rfl, -⟩ := BuildTask.Stage.visit.inj (hvisit.symm.trans hvisit')
          exact absurd hcode (hnone rest)
      | walk hvisit' hwalked =>
          obtain ⟨rfl, -⟩ := BuildTask.Stage.visit.inj (hvisit.symm.trans hvisit')
          exact absurd hcode (hwalked.not_isCode rest)
      | _ => simp_all
  | @again path d hclaim hstarted =>
      cases hturn with
      | claim hclaim' hstarted' =>
          obtain rfl := BuildTask.Stage.claim.inj (hclaim.symm.trans hclaim')
          rw [Register.Claim.started.inj (hstarted.symm.trans hstarted')]
          rfl
      | attach hclaim' hrefused | meet hclaim' hrefused =>
          obtain rfl := BuildTask.Stage.claim.inj (hclaim.symm.trans hclaim')
          exact Register.Claim.noConfusion (hstarted.symm.trans hrefused)
      | _ => simp_all

/-- A job is carried on until it ends, or until the transform breaks down over it. -/
theorem Turns.job?_next (hturn : Turns s task turn) (hjob : task.stage.job? = some job) :
    turn.stage.job? = some job ∨
      (∃ result count, task.stage = .finish job result ∧ turn.stage = .done count) ∨
      ∃ text, task.stage = .transform job text ∧ turn.stage = .crashed ∧
        s.sourceTransform job.source text (.ofSource s.store s.options job.source) = .crash := by
  cases hturn with
  | crash hstage hcrash =>
      rw [hstage] at hjob
      obtain rfl := Option.some.inj hjob
      exact .inr (.inr ⟨_, hstage, rfl, hcrash⟩)
  | finish hstage | finishFailed hstage =>
      rw [hstage] at hjob
      obtain rfl := Option.some.inj hjob
      exact .inr (.inl ⟨_, _, hstage, rfl⟩)
  | claim hstage | attach hstage | meet hstage | pass hstage | refuse e hstage | walk hstage
  | asset hstage | assetFailed hstage | join hstage | begin hstage | gather hstage | next hstage
  | report hstage =>
      rw [hstage] at hjob
      contradiction
  | unreadable hstage | read hstage | transform hstage | fail hstage | unresolved hstage
  | resolve hstage | gatherFile hstage | write hstage =>
      rw [hstage] at hjob
      exact .inl hjob

/-- The last turn of a build tells its end to everyone who is told of the target. -/
theorem Turns.told_finish (hturn : Turns s task turn) (hstage : task.stage = .finish job result)
    (hcontains : s.register.targets.contains job.dest = true) :
    turn.told = (s.register.subscribersAt job.dest).map fun addressee =>
      (addressee, job.completion (s.register.importersOf job.dest) result) := by
  cases hturn with
  | @finish job' locals hstage' =>
      obtain ⟨rfl, rfl⟩ := BuildTask.Stage.finish.inj (hstage.symm.trans hstage')
      obtain ⟨closing, hclosing, haddressees, hparents⟩ := Register.close_eq_some hcontains true
      simp [hclosing, haddressees, hparents, BuildJob.completion]
  | @finishFailed job' e hstage' =>
      obtain ⟨rfl, rfl⟩ := BuildTask.Stage.finish.inj (hstage.symm.trans hstage')
      obtain ⟨closing, hclosing, haddressees, hparents⟩ := Register.close_eq_some hcontains false
      simp [hclosing, haddressees, BuildJob.completion]
  | _ => simp_all

/-- All other turns tell something to the request that their task works for only. -/
theorem Turns.told_of_ne_finish (hturn : Turns s task turn)
    (hstage : ∀ job result, task.stage ≠ .finish job result) :
    ∀ message ∈ turn.told, message.1 = task.addressee := by
  cases hturn with
  | finish hfinish => exact absurd hfinish (hstage _ _)
  | finishFailed hfinish => exact absurd hfinish (hstage _ _)
  | _ => simp [turnTo]

/-- Only the end of a build that has succeeded tells of a file that is built. -/
theorem Turns.exists_finish_of_isFileBuilt (hturn : Turns s task turn)
    {message : Addressee × BuildEvent} (hmessage : message ∈ turn.told)
    (hbuilt : message.2.isFileBuilt = true) :
    ∃ job locals, task.stage = .finish job (.ok locals) := by
  cases hturn with
  | finish hstage => exact ⟨_, _, hstage⟩
  | finishFailed hstage =>
      obtain ⟨other, -, rfl⟩ := List.mem_map.1 hmessage
      contradiction
  | refuse | assetFailed | report =>
      rw [List.mem_singleton.1 hmessage] at hbuilt
      contradiction
  | _ => contradiction

end BuildSession

end LiveBuild
