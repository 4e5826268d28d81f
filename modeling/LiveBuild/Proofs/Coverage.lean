import LiveBuild.Proofs.Closure
import LiveBuild.Watch.Sources
import Mathlib.Data.List.Nodup

/-!
# Each file of a closure is built once

Every member of the closure is built by one task, from its first visit on: before that visit it is
neither recorded nor reported, afterwards it is recorded, and either a task works on it or its end
has been reported. The same holds of the sources that were read.
-/

namespace LiveBuild

/-- The source that a task works on in some stage. -/
def BuildTask.Stage.source? (stage : BuildTask.Stage) : Option Path := stage.job?.map (·.source)

/-- The source that a task is about to read. -/
def BuildTask.Stage.unread? : BuildTask.Stage → Option Path
  | .read job => some job.source
  | _ => none

namespace FreshBuild

/-- The paths that are named by what was reported. -/
def subjects (told : List (Addressee × BuildEvent)) : List Path :=
  told.filterMap fun message => WatchedSources.subject? message.2

/-- How many tasks are in a stage that concerns a path. -/
def workers (concerns : BuildTask.Stage → Option Path) (s : BuildSession FileTree) (p : Path) :
    Nat :=
  s.tasks.countP fun task => decide (concerns task.stage = some p)

/-- What an event says about a member is so. -/
def Tells (b : FreshBuild) : BuildEvent → Prop
  | .fileBuilt source dest _ _ => b.Target ⟨source, dest⟩ ∧ ∃ files, b.Resolves source files
  | .error source? _ _ => ∀ p, source? = some p → b.Member p → ¬ ∃ files, b.Resolves p files
  | .built _ => True

/-- What is recorded, reported and read while a request is carried out. -/
structure Accounted (b : FreshBuild) (s : BuildSession FileTree) : Prop where
  records : ∀ record ∈ s.register.outline,
    b.Target ⟨record.2.1, record.1⟩ ∧ record.2.2 = [b.addressee]
  nodup : s.register.sources.Nodup
  reported : ∀ p, b.Member p →
    workers (·.source?) s p + (subjects s.sent).count p = s.register.sources.count p
  unread : ∀ p, b.Member p → b.Readable p →
    workers (·.unread?) s p + s.transformed.count p = s.register.sources.count p
  readable : ∀ p ∈ s.transformed, b.Member p ∧ b.Readable p
  told : ∀ message ∈ s.sent, message.1 = b.addressee ∧ b.Tells message.2

variable {b : FreshBuild} {s : BuildSession FileTree} {task : BuildTask}
  {turn : BuildSession.Turn FileTree} {p q d : Path} {files : List Path} {job : BuildJob}

theorem subjects_append (told told' : List (Addressee × BuildEvent)) :
    subjects (told ++ told') = subjects told ++ subjects told' := List.filterMap_append

theorem Accounted.mem_sources (h : b.Accounted s) (hp : p ∈ s.register.sources) :
    b.Member p := by
  obtain ⟨record, hrecord, rfl⟩ := List.mem_map.1 hp
  exact (h.records record hrecord).1.member

theorem Accounted.contains_iff (hb : b.Proper) (h : b.Accounted s) (hjob : b.Target job) :
    s.register.targets.contains job.dest = true ↔ job.source ∈ s.register.sources := by
  rw [Register.contains_iff_outline]
  constructor
  · rintro ⟨record, hrecord, hdest⟩
    have hsame := hb.eq_of_same_output (h.records record hrecord).1 hjob hdest
    exact List.mem_map.2 ⟨record, hrecord, hsame⟩
  · intro hmem
    obtain ⟨record, hrecord, hsource⟩ := List.mem_map.1 hmem
    refine ⟨record, hrecord, ?_⟩
    have houtput : b.IsOutput job.source record.1 := by
      rw [← hsource]
      exact (h.records record hrecord).1.output
    rw [houtput.unique hjob.output]

theorem Accounted.mem_sources_of_source? (h : b.Accounted s) (htask : task ∈ s.tasks)
    (hp : b.Member p) (hsource : task.stage.source? = some p) : p ∈ s.register.sources := by
  have hworkers : 0 < workers (·.source?) s p :=
    List.countP_pos_iff.2 ⟨task, htask, by simp [hsource]⟩
  have hcount := h.reported p hp
  exact List.count_pos_iff.1 (by omega)

/-- The end of a build of a member is told to the one who made the request. -/
theorem Accounted.exists_closing (hb : b.Proper) (h : b.Accounted s) (hjob : b.Target job)
    (hrecorded : job.source ∈ s.register.sources) (succeeded : Bool) :
    ∃ closing, (s.register.close job.dest succeeded).2 = some closing ∧
      closing.addressees = [b.addressee] := by
  obtain ⟨closing, hclosing, record, hrecord, -, -, haddressees⟩ :=
    Register.exists_closing ((h.contains_iff hb hjob).2 hrecorded) succeeded
  exact ⟨closing, hclosing, haddressees.trans (h.records record hrecord).2⟩

theorem unread?_of_source? {stage : BuildTask.Stage} (h : stage.source? = none) :
    stage.unread? = none := by
  cases stage <;> simp_all [BuildTask.Stage.source?, BuildTask.Stage.job?, BuildTask.Stage.unread?]

theorem workers_perform (h : s.Orderly) (htask : task ∈ s.tasks) (hturn : s.Turns task turn)
    (concerns : BuildTask.Stage → Option Path)
    (hconcerns : ∀ stage, stage.source? = none → concerns stage = none) (p : Path) :
    workers concerns (s.perform task turn) p + (if concerns task.stage = some p then 1 else 0) =
      workers concerns s p + if concerns turn.stage = some p then 1 else 0 := by
  have hcount := BuildSession.countP_perform h htask hturn
    (f := fun task => decide (concerns task.stage = some p))
    (fun u count hcount => by
      simp [hconcerns u.stage (by simp [BuildTask.Stage.source?, BuildTask.job?_of_count? hcount])])
    (fun u hu => by
      simp [hconcerns u.stage (by simp [BuildTask.Stage.source?, hturn.job?_of_started hu])])
  simp only [decide_eq_true_eq] at hcount
  exact hcount

section Turn

variable (hb : b.Proper) (hunderway : b.Underway s) (h : b.Accounted s) (htask : task ∈ s.tasks)
  (hturn : s.Turns task turn) (hclear : b.Clear s) (hclear' : b.Clear (s.perform task turn))

include hunderway htask

include hturn in
/-- A turn records a source exactly if its task is then about to read it, and ends that exactly if
it reads the source. -/
theorem unread?_turn (hreadable : b.Readable p) :
    (if turn.stage.unread? = some p then 1 else 0) + turn.read.count p +
        s.register.sources.count p =
      (if task.stage.unread? = some p then 1 else 0) + turn.register.sources.count p := by
  have hfits := hunderway.fits task htask
  cases hturn with
  | claim hstage => simp [hstage, Fits] at hfits
  | attach hstage => simp [hstage, Fits] at hfits
  | meet hstage => simp [hstage, Fits] at hfits
  | join hstage hcode hcontains =>
      simp [hstage, BuildTask.Stage.unread?, BuildSession.turnTo,
        Register.sources_enroll_of_contains hcontains]
  | begin hstage hcode hcontains =>
      simp [hstage, BuildTask.Stage.unread?, BuildSession.turnTo,
        Register.sources_enroll_of_not_contains hcontains, List.count_singleton, Nat.add_comm]
  | @unreadable job f hstage hread =>
      rw [hstage] at hfits
      rw [hunderway.readText_eq hfits] at hread
      have hne : job.source ≠ p := by
        rintro rfl
        obtain ⟨text, htext⟩ := hreadable
        simp [hread] at htext
      simp [hstage, BuildTask.Stage.unread?, BuildSession.turnTo, hne]
  | read hstage =>
      simp [hstage, BuildTask.Stage.unread?, BuildSession.turnTo, List.count_singleton]
  | _ => simp_all [BuildTask.Stage.unread?, BuildSession.turnTo]

include hturn in
theorem read_turn : ∀ p ∈ turn.read, b.Member p ∧ b.Readable p := by
  have hfits := hunderway.fits task htask
  cases hturn with
  | @read job text hstage hread =>
      rw [hstage] at hfits
      rw [hunderway.readText_eq hfits] at hread
      simpa using ⟨hfits.member, text, hread⟩
  | _ => simp [BuildSession.turnTo]

include hclear

theorem not_member_of_visit {path : Path} {requester : Option Path}
    (hstage : task.stage = .visit path requester)
    (hcode : ∀ rest, ¬ s.options.IsCode s.store path rest) : ¬ b.Member path := by
  intro hmember
  obtain ⟨rest, hrest⟩ :=
    (hunderway.eligible_iff (hclear task htask path requester hstage)).1 hmember.eligible
  exact hcode rest hrest

include hb h in
/-- A path that turns out to be code is a member, and recorded if its output is. -/
theorem target_of_visit {path rest : Path} {requester : Option Path}
    (hstage : task.stage = .visit path requester)
    (hcode : s.options.IsCode s.store path rest) :
    b.Target ⟨path, s.options.codeOutput rest⟩ ∧
      (s.register.targets.contains (s.options.codeOutput rest) = true ↔
        path ∈ s.register.sources) := by
  have hfits := hunderway.fits task htask
  rw [hstage] at hfits
  have houtside := hclear task htask path requester hstage
  rw [hunderway.isCode_iff houtside] at hcode
  have htarget : b.Target ⟨path, s.options.codeOutput rest⟩ := by
    refine ⟨hfits.2 ⟨rest, hcode⟩, ⟨rest, hcode, ?_⟩, houtside⟩
    rw [hunderway.options]
  exact ⟨htarget, h.contains_iff hb htarget⟩

include hb h hturn

/-- A turn begins the work on a source exactly if it records it, and ends the work on a source
exactly if it reports it. -/
theorem source?_turn (hp : b.Member p) :
    (if turn.stage.source? = some p then 1 else 0) + (subjects turn.told).count p +
        s.register.sources.count p =
      (if task.stage.source? = some p then 1 else 0) + turn.register.sources.count p := by
  have hfits := hunderway.fits task htask
  cases hturn with
  | claim hstage => simp [hstage, Fits] at hfits
  | attach hstage => simp [hstage, Fits] at hfits
  | meet hstage => simp [hstage, Fits] at hfits
  | @refuse path requester e hstage hcode =>
      have hne : path ≠ p := by
        rintro rfl
        exact not_member_of_visit hunderway htask hclear hstage hcode hp
      simp [hstage, BuildTask.Stage.source?, BuildTask.Stage.job?, BuildSession.turnTo,
        subjects, BuildEvent.forFile, WatchedSources.subject?, hne]
  | @assetFailed path rest requester kind e hstage hcode =>
      have hne : path ≠ p := by
        rintro rfl
        exact not_member_of_visit hunderway htask hclear hstage hcode hp
      simp [hstage, BuildTask.Stage.source?, BuildTask.Stage.job?, BuildSession.turnTo,
        subjects, BuildEvent.forFile, WatchedSources.subject?, hne]
  | join hstage hcode hcontains =>
      simp [hstage, BuildTask.Stage.source?, BuildTask.Stage.job?, BuildSession.turnTo, subjects,
        Register.sources_enroll_of_contains hcontains]
  | @begin path rest requester hstage hcode hcontains =>
      simp [hstage, BuildTask.Stage.source?, BuildTask.Stage.job?, BuildSession.turnTo, subjects,
        Register.sources_enroll_of_not_contains hcontains, List.count_singleton, Nat.add_comm]
  | crash hstage hcrash =>
      rw [hunderway.sees.transform_eq] at hcrash
      exact absurd hcrash (hb.answers _ _ _)
  | @finish job locals hstage =>
      rw [hstage] at hfits
      obtain ⟨closing, hclosing, haddressees⟩ := h.exists_closing hb hfits.1
        (h.mem_sources_of_source? htask hfits.1.member (by rw [hstage]; rfl)) true
      simp [hstage, BuildTask.Stage.source?, BuildTask.Stage.job?, BuildSession.turnTo,
        subjects, hclosing, haddressees, WatchedSources.subject?, List.count_singleton]
  | @finishFailed job e hstage =>
      rw [hstage] at hfits
      obtain ⟨closing, hclosing, haddressees⟩ := h.exists_closing hb hfits.1
        (h.mem_sources_of_source? htask hfits.1.member (by rw [hstage]; rfl)) false
      simp [hstage, BuildTask.Stage.source?, BuildTask.Stage.job?, BuildSession.turnTo,
        subjects, hclosing, haddressees, BuildEvent.forFile, WatchedSources.subject?,
        List.count_singleton]
  | report hstage =>
      simp [hstage, BuildTask.Stage.source?, BuildTask.Stage.job?, BuildSession.turnTo, subjects,
        WatchedSources.subject?]
  | _ => simp_all [BuildTask.Stage.source?, BuildTask.Stage.job?, BuildSession.turnTo, subjects]

theorem records_turn : ∀ record ∈ turn.register.outline,
    b.Target ⟨record.2.1, record.1⟩ ∧ record.2.2 = [b.addressee] := by
  have hfits := hunderway.fits task htask
  cases hturn with
  | claim hstage => simp [hstage, Fits] at hfits
  | attach hstage => simp [hstage, Fits] at hfits
  | meet hstage => simp [hstage, Fits] at hfits
  | join hstage hcode hcontains =>
      rw [Register.outline_enroll_of_contains hcontains]
      intro record hrecord
      obtain ⟨old, hold, rfl⟩ := List.mem_map.1 hrecord
      obtain ⟨htarget, hsubscribers⟩ := h.records old hold
      refine ⟨htarget, ?_⟩
      simp [hsubscribers, hunderway.addressee task htask, Register.subscribe]
  | begin hstage hcode hcontains =>
      rw [Register.outline_enroll_of_not_contains hcontains]
      intro record hrecord
      rcases List.mem_append.1 hrecord with hold | hnew
      · exact h.records record hold
      · rw [List.mem_singleton.1 hnew]
        exact ⟨(target_of_visit hb hunderway h htask hclear hstage hcode).1,
          by rw [hunderway.addressee task htask]⟩
  | finish => simpa using h.records
  | finishFailed => simpa using h.records
  | _ => exact h.records

theorem nodup_turn : turn.register.sources.Nodup := by
  have hfits := hunderway.fits task htask
  cases hturn with
  | claim hstage => simp [hstage, Fits] at hfits
  | attach hstage => simp [hstage, Fits] at hfits
  | meet hstage => simp [hstage, Fits] at hfits
  | join hstage hcode hcontains =>
      rw [Register.sources_enroll_of_contains hcontains]
      exact h.nodup
  | begin hstage hcode hcontains =>
      rw [Register.sources_enroll_of_not_contains hcontains, List.nodup_append']
      have hnew := (target_of_visit hb hunderway h htask hclear hstage hcode).2
      rw [hcontains] at hnew
      exact ⟨h.nodup, List.nodup_singleton _, by simpa using hnew⟩
  | finish => simpa using h.nodup
  | finishFailed => simpa using h.nodup
  | _ => exact h.nodup

theorem told_turn : ∀ message ∈ turn.told, message.1 = b.addressee ∧ b.Tells message.2 := by
  have hfits := hunderway.fits task htask
  have haddressee := hunderway.addressee task htask
  cases hturn with
  | @refuse path requester e hstage hcode =>
      have hmember := not_member_of_visit hunderway htask hclear hstage hcode
      simpa [Tells, BuildEvent.forFile, haddressee] using fun hpath => absurd hpath hmember
  | @assetFailed path rest requester kind e hstage hcode =>
      have hmember := not_member_of_visit hunderway htask hclear hstage hcode
      simpa [Tells, BuildEvent.forFile, haddressee] using fun hpath => absurd hpath hmember
  | @finish job locals hstage =>
      rw [hstage] at hfits
      obtain ⟨closing, hclosing, haddressees⟩ := h.exists_closing hb hfits.1
        (h.mem_sources_of_source? htask hfits.1.member (by rw [hstage]; rfl)) true
      simpa [hclosing, haddressees, Tells] using ⟨hfits.1, hfits.2.1 ⟨locals, rfl⟩⟩
  | @finishFailed job e hstage =>
      rw [hstage] at hfits
      obtain ⟨closing, hclosing, haddressees⟩ := h.exists_closing hb hfits.1
        (h.mem_sources_of_source? htask hfits.1.member (by rw [hstage]; rfl)) false
      have hnone : ¬ ∃ files, b.Resolves job.source files := by
        intro hresolves
        obtain ⟨locals, hresult⟩ := hfits.2.2 hresolves
        contradiction
      simpa [hclosing, haddressees, Tells, BuildEvent.forFile] using fun _ => hnone
  | report => simp [Tells, haddressee]
  | _ => simp [BuildSession.turnTo]

theorem Accounted.perform : b.Accounted (s.perform task turn) where
  records := records_turn hb hunderway h htask hturn hclear
  nodup := nodup_turn hb hunderway h htask hturn hclear
  reported p hp := by
    have hworkers := workers_perform hunderway.orderly htask hturn (·.source?)
      (fun _ hstage => hstage) p
    have hbalance := source?_turn hb hunderway h htask hturn hclear hp
    have hbefore := h.reported p hp
    have htold : (subjects (s.perform task turn).sent).count p =
        (subjects s.sent).count p + (subjects turn.told).count p := by
      rw [← List.count_append, ← subjects_append]
      rfl
    change _ = turn.register.sources.count p
    omega
  unread p hp hreadable := by
    have hworkers := workers_perform hunderway.orderly htask hturn (·.unread?)
      (fun _ => unread?_of_source?) p
    have hbalance := unread?_turn hunderway htask hturn hreadable
    have hbefore := h.unread p hp hreadable
    have hread : (s.perform task turn).transformed.count p =
        s.transformed.count p + turn.read.count p := List.count_append
    change _ = turn.register.sources.count p
    omega
  readable p hp := by
    rcases List.mem_append.1 hp with hp | hp
    · exact h.readable p hp
    · exact read_turn hunderway htask hturn p hp
  told message hmessage := by
    rcases List.mem_append.1 hmessage with hmessage | hmessage
    · exact h.told message hmessage
    · exact told_turn hb hunderway h htask hturn hclear message hmessage

end Turn

theorem accounted_session : b.Accounted b.session := by
  refine ⟨?_, List.nodup_nil, fun p _ => rfl, fun p _ _ => rfl, ?_, ?_⟩
  · intro record hrecord
    cases hrecord
  · intro p hp
    cases hp
  · intro message hmessage
    cases hmessage

end FreshBuild

end LiveBuild
