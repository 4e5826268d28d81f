import LiveBuild.Proofs.RegisterCalls

/-!
# Builds of one target exclude each other

A build of a target is granted to whoever asks for it first, or to whoever claims it again when no
build of it is under way, and lasts until it is ended. So the status of a record says whether the
latest thing that happened to it was a grant, and between two grants there is an end. A record is
found under its destination or under its source, but a grant always names the destination.
-/

namespace LiveBuild.Register

variable {r : Register} {d p : Path}

/-- The status of the record of a destination. -/
def statusAt (r : Register) (d : Path) : Option TargetStatus := (r.targets.get? d).map (·.status)

theorem status?_of_contains (h : r.targets.contains d = true) : r.status? d = r.statusAt d := by
  simp [status?, target?, recordedAs?, h, statusAt]

theorem statusAt_of_not_contains (h : r.targets.contains d = false) : r.statusAt d = none := by
  rw [statusAt, PathMap.contains_eq_false_iff.1 h]
  rfl

theorem contains_iff_statusAt :
    r.targets.contains d = true ↔ ∃ status, r.statusAt d = some status := by
  rw [PathMap.contains_iff, statusAt]
  constructor
  · rintro ⟨target, h⟩
    exact ⟨target.status, by rw [h]; rfl⟩
  · rintro ⟨status, h⟩
    obtain ⟨target, htarget, -⟩ := Option.map_eq_some_iff.1 h
    exact ⟨target, htarget⟩

theorem statusAt_enroll (r : Register) (source d : Path) (requester : Option Path)
    (addressee : Addressee) (p : Path) :
    (r.enroll source d requester addressee).1.statusAt p =
      if r.targets.contains d = false ∧ d.same p then some .building else r.statusAt p := by
  cases h : r.targets.contains d with
  | true =>
      obtain ⟨gain, hget, -⟩ := get?_enroll_of_contains source requester addressee h p
      simp [statusAt, hget, Function.comp_def]
  | false =>
      rw [statusAt, get?_enroll_of_not_contains h, statusAt]
      by_cases hdp : d.same p <;> simp [hdp, newTarget]

theorem statusAt_close (r : Register) (d : Path) (succeeded : Bool) (p : Path) :
    (r.close d succeeded).1.statusAt p =
      if r.targets.contains d = true ∧ d.same p then some (outcome succeeded)
      else r.statusAt p := by
  rw [statusAt, get?_close, statusAt]
  by_cases hdp : d.same p
  · have hcontains : r.targets.contains d = (r.targets.get? p).isSome := by
      rw [PathMap.contains_congr (Path.same_iff.1 hdp), PathMap.contains, PathMap.get?,
        Option.isSome_map]
    cases hget : r.targets.get? p <;> simp [hdp, hcontains, hget]
  · cases r.targets.get? p <;> simp [hdp]

section Entries

/-- The grant of a first build of a destination. -/
def isFirstGrant (d : Path) : Call × Answer → Bool
  | (.enroll _ dest _ _, .grant .started) => dest.same d
  | _ => false

/-- The grant of a build of a destination, be it the first one or another. -/
def isGrant (d : Path) : Call × Answer → Bool
  | (.enroll _ dest _ _, .grant .started) => dest.same d
  | (.reopen _ _, .claim (.started dest)) => dest.same d
  | _ => false

/-- The end of a build of a destination. -/
def isEnd (d : Path) : Call × Answer → Bool
  | (.close dest _, _) => dest.same d
  | _ => false

/-- An answer that leaves the caller without a build. -/
def Answer.isRefusal : Answer → Bool
  | .grant .joined => true
  | .claim .underway => true
  | .claim .unknown => true
  | _ => false

/-- The latest grant or end of a build of a destination. -/
def Journal.latest? (j : Journal) (d : Path) : Option (Call × Answer) :=
  (j.past.filter fun entry => isGrant d entry || isEnd d entry).getLast?

/-- What one call means for one destination: it grants a build of it, which was not being built, it
ends one, or it leaves its status as it was. -/
theorem act_cases (r : Register) (call : Call) (hcall : call ≠ .reset) (d : Path) :
    (isGrant d (call, (r.act call).2) = true ∧
      isFirstGrant d (call, (r.act call).2) = !r.targets.contains d ∧
      r.statusAt d ≠ some .building ∧ (r.act call).1.statusAt d = some .building) ∨
    (isGrant d (call, (r.act call).2) = false ∧ isFirstGrant d (call, (r.act call).2) = false ∧
      isEnd d (call, (r.act call).2) = true ∧
      (r.act call).1.targets.contains d = r.targets.contains d ∧
      (r.act call).1.statusAt d ≠ some .building) ∨
    (isGrant d (call, (r.act call).2) = false ∧ isFirstGrant d (call, (r.act call).2) = false ∧
      isEnd d (call, (r.act call).2) = false ∧ (r.act call).1.statusAt d = r.statusAt d) := by
  cases call with
  | reset => exact absurd rfl hcall
  | look p => exact Or.inr (Or.inr ⟨rfl, rfl, rfl, rfl⟩)
  | enroll source dest requester addressee =>
      have hstatus := statusAt_enroll r source dest requester addressee d
      cases hcontains : r.targets.contains dest with
      | true =>
          right; right
          simp only [hcontains, Bool.true_eq_false, false_and, ↓reduceIte] at hstatus
          have hjoined : (r.enroll source dest requester addressee).2 = .joined := by
            rw [enroll_of_contains hcontains]
          exact ⟨by simp [act, hjoined, isGrant], by simp [act, hjoined, isFirstGrant], rfl,
            hstatus⟩
      | false =>
          simp only [hcontains, true_and] at hstatus
          have hgrant : (r.enroll source dest requester addressee).2 = .started :=
            enroll_eq_started.2 hcontains
          by_cases hdest : dest.same d
          · left
            have hcontains' : r.targets.contains d = false := by
              rw [← hcontains]
              exact PathMap.contains_congr (Path.same_iff.1 hdest).symm
            rw [if_pos hdest] at hstatus
            simp [act, hgrant, isGrant, isFirstGrant, hdest, hcontains', hstatus,
              statusAt_of_not_contains]
          · right; right
            rw [if_neg hdest] at hstatus
            simp [act, hgrant, isGrant, isFirstGrant, isEnd, hdest, hstatus]
  | reopen path addressee =>
      rcases reopen_cases r path addressee with
        ⟨dest, target, -, hget, hbuilding, hanswer, hafter⟩ |
        ⟨dest, target, -, hget, hidle, hanswer, hafter⟩ | hunknown
      · right; right
        refine ⟨by simp [act, hanswer, isGrant], rfl, rfl, ?_⟩
        by_cases hdest : dest.same d
        · rw [PathMap.get?_congr (Path.same_iff.1 hdest)] at hget
          simp [act, statusAt, hafter, hdest, hget]
        · simp [act, statusAt, hafter, hdest]
      · by_cases hdest : dest.same d
        · left
          rw [PathMap.get?_congr (Path.same_iff.1 hdest)] at hget
          have hcontains : r.targets.contains d = true := PathMap.contains_iff.2 ⟨target, hget⟩
          simp [act, hanswer, isGrant, isFirstGrant, statusAt, hafter, hdest, hget, hidle,
            hcontains]
        · right; right
          simp [act, hanswer, isGrant, isFirstGrant, isEnd, statusAt, hafter, hdest]
      · right; right
        simp [act, hunknown, isGrant, isFirstGrant, isEnd]
  | close dest succeeded =>
      have hstatus := statusAt_close r dest succeeded d
      by_cases hdest : dest.same d
      · right; left
        refine ⟨rfl, rfl, hdest, ?_, ?_⟩
        · rw [Bool.eq_iff_iff, contains_iff_statusAt, contains_iff_statusAt]
          simp only [act, hstatus, hdest, and_true,
            PathMap.contains_congr (Path.same_iff.1 hdest)]
          split <;> rename_i hcontains
          · simpa using contains_iff_statusAt.1 hcontains
          · rfl
        · simp only [act, hstatus, hdest, and_true]
          split
          · cases succeeded <;> simp [outcome]
          · rename_i hcontains
            rw [statusAt_of_not_contains]
            · simp
            · rw [← PathMap.contains_congr (Path.same_iff.1 hdest)]
              simpa using hcontains
      · right; right
        refine ⟨rfl, rfl, by simpa [isEnd] using hdest, ?_⟩
        simp [act, hstatus, hdest]

theorem not_isRefusal_of_isGrant {call : Call} {answer : Answer}
    (h : isGrant d (call, answer) = true) : answer.isRefusal = false := by
  unfold isGrant at h
  split at h
  · simp_all [Answer.isRefusal]
  · simp_all [Answer.isRefusal]
  · simp at h

theorem statusAt_act_of_isRefusal (r : Register) (call : Call)
    (hrefusal : (r.act call).2.isRefusal = true) (d : Path) :
    (r.act call).1.statusAt d = r.statusAt d := by
  have hcall : call ≠ .reset := by
    rintro rfl
    simp [act, Answer.isRefusal] at hrefusal
  rcases act_cases r call hcall d with ⟨hgrant, -⟩ | ⟨-, -, hend, -⟩ | ⟨-, -, -, hsame⟩
  · simp [not_isRefusal_of_isGrant hgrant] at hrefusal
  · cases call <;> simp [isEnd, act, Answer.isRefusal] at hend hrefusal
  · exact hsame

/-- What holds of the calls since a register was last emptied, for each destination. -/
structure Journal.Disciplined (j : Journal) (d : Path) : Prop where
  first : j.past.countP (isFirstGrant d) = if j.register.targets.contains d then 1 else 0
  latest : (j.latest? d).any (isGrant d) = true ↔ j.register.statusAt d = some .building
  apart : ∀ earlier granted between again later,
    j.past = earlier ++ granted :: (between ++ again :: later) →
    isGrant d granted = true → isGrant d again = true → ∃ ended ∈ between, isEnd d ended = true

theorem Journal.latest?_snoc (j : Journal) (d : Path) (r : Register) (entry : Call × Answer) :
    (⟨r, j.past ++ [entry]⟩ : Journal).latest? d =
      if isGrant d entry || isEnd d entry then some entry else j.latest? d := by
  rw [latest?, latest?, List.filter_append]
  by_cases hentry : isGrant d entry || isEnd d entry
  · simp [hentry]
  · simp [hentry]

/-- While no build of a destination is granted, the latest grant is followed by an end. -/
theorem Journal.exists_isEnd_of_latest {past : List (Call × Answer)} {r : Register}
    (hlatest : ¬ ((⟨r, past⟩ : Journal).latest? d).any (isGrant d) = true)
    {earlier later : List (Call × Answer)} {granted : Call × Answer}
    (hpast : past = earlier ++ granted :: later) (hgranted : isGrant d granted = true) :
    ∃ ended ∈ later, isEnd d ended = true := by
  by_contra hnone
  push Not at hnone
  apply hlatest
  have hfilter : (later.filter fun entry => isGrant d entry || isEnd d entry) =
      later.filter (isGrant d) := by
    apply List.filter_congr
    intro entry hentry
    simp [hnone entry hentry]
  have hall : ∀ entry ∈ granted :: later.filter (isGrant d), isGrant d entry = true := by
    intro entry hentry
    rcases List.mem_cons.1 hentry with rfl | hentry
    · exact hgranted
    · exact (List.mem_filter.1 hentry).2
  have hfiltered : (past.filter fun entry => isGrant d entry || isEnd d entry) =
      (earlier.filter fun entry => isGrant d entry || isEnd d entry) ++
        granted :: later.filter (isGrant d) := by
    rw [hpast, List.filter_append, List.filter_cons, hgranted, Bool.true_or, if_pos rfl, hfilter]
  rw [latest?, hfiltered, List.getLast?_append, List.getLast?_eq_some_getLast (by simp),
    Option.some_or, Option.any_some]
  exact hall _ (List.getLast_mem _)

theorem Journal.disciplined_empty (d : Path) : ({} : Journal).Disciplined d where
  first := rfl
  latest := by simp [latest?, statusAt, empty, PathMap.get?, PathMap.find?]
  apart := by
    intro earlier granted between again later hpast
    simp at hpast

theorem Journal.Disciplined.next {j : Journal} (h : j.Disciplined d) (call : Call) :
    (j.next call).Disciplined d := by
  by_cases hcall : call = .reset
  · rw [hcall]
    exact disciplined_empty d
  have hnext : j.next call =
      ⟨(j.register.act call).1, j.past ++ [(call, (j.register.act call).2)]⟩ := by
    cases call <;> first | rfl | exact absurd rfl hcall
  rw [hnext]
  have hcases := act_cases j.register call hcall d
  generalize hentry : (call, (j.register.act call).2) = entry at hcases ⊢
  generalize (j.register.act call).1 = after at hcases ⊢
  refine ⟨?_, ?_, ?_⟩
  · rw [List.countP_append, h.first, List.countP_singleton]
    rcases hcases with ⟨-, hfirst, -, hafter⟩ | ⟨-, hfirst, -, hcontains, -⟩ |
        ⟨-, hfirst, -, hafter⟩
    · have hcontains : after.targets.contains d = true := contains_iff_statusAt.2 ⟨_, hafter⟩
      cases hbefore : j.register.targets.contains d <;> simp [hfirst, hbefore, hcontains]
    · simp [hfirst, hcontains]
    · have hcontains : after.targets.contains d = j.register.targets.contains d := by
        rw [Bool.eq_iff_iff, contains_iff_statusAt, contains_iff_statusAt, hafter]
      simp [hfirst, hcontains]
  · rw [latest?_snoc]
    rcases hcases with ⟨hgrant, -, -, hafter⟩ | ⟨hgrant, -, hend, -, hafter⟩ |
        ⟨hgrant, -, hend, hafter⟩
    · simp [hgrant, hafter]
    · simp [hgrant, hend, hafter]
    · simp [hgrant, hend, hafter, h.latest]
  · intro earlier granted between again later hpast hgranted hagain
    change j.past ++ [entry] = _ at hpast
    -- Either the second grant was there before, or it is the new entry.
    rcases List.eq_nil_or_concat later with rfl | ⟨later, last, rfl⟩
    · obtain ⟨hbefore, rfl⟩ : j.past = earlier ++ granted :: between ∧ entry = again := by
        have hconcat : j.past ++ [entry] = (earlier ++ granted :: between) ++ [again] := by
          rw [hpast]
          simp
        obtain ⟨hpast, hlast⟩ := List.append_inj' hconcat rfl
        exact ⟨hpast, List.singleton_inj.1 hlast⟩
      have hidle : j.register.statusAt d ≠ some .building := by
        rcases hcases with ⟨-, -, hidle, -⟩ | ⟨hgrant, -⟩ | ⟨hgrant, -⟩
        · exact hidle
        · simp [hgrant] at hagain
        · simp [hgrant] at hagain
      exact exists_isEnd_of_latest (fun hlatest => hidle (h.latest.1 hlatest)) hbefore hgranted
    · have hsplit : j.past = earlier ++ granted :: (between ++ again :: later) := by
        have hconcat : j.past ++ [entry] =
            (earlier ++ granted :: (between ++ again :: later)) ++ [last] := by
          rw [hpast]
          simp
        exact (List.append_inj' hconcat rfl).1
      exact h.apart _ _ _ _ _ hsplit hgranted hagain

/-- **Builds of one target exclude each other.** Whatever is asked of a register and in whatever
order, the first build of a destination is granted at most once between two resets, two grants have
an end between them, a destination is being built exactly while the latest of its grants and ends is
a grant, and no answer that grants nothing changes the status of any target. -/
theorem grants_exclude (calls : List Call) (d : Path) :
    (Journal.run {} calls).past.countP (isFirstGrant d) ≤ 1 ∧
    (∀ earlier granted between again later,
      (Journal.run {} calls).past = earlier ++ granted :: (between ++ again :: later) →
      isGrant d granted = true → isGrant d again = true →
      ∃ ended ∈ between, isEnd d ended = true) ∧
    ((∃ entry, (Journal.run {} calls).latest? d = some entry ∧ isGrant d entry = true) ↔
      (Journal.run {} calls).register.targets.contains d = true ∧
        (Journal.run {} calls).register.status? d = some .building) ∧
    ∀ call, ((Journal.run {} calls).register.act call).2.isRefusal = true → ∀ p,
      ((Journal.run {} calls).register.act call).1.statusAt p =
        (Journal.run {} calls).register.statusAt p := by
  have hrun : (Journal.run {} calls).Disciplined d :=
    Journal.run_induction (P := fun j => j.Disciplined d) (fun _ call h => h.next call)
      (Journal.disciplined_empty d) calls
  refine ⟨?_, hrun.apart, ?_, fun call hrefusal p =>
    statusAt_act_of_isRefusal _ call hrefusal p⟩
  · rw [hrun.first]
    split <;> omega
  · rw [← Option.any_eq_true, hrun.latest]
    constructor
    · intro hbuilding
      have hcontains := contains_iff_statusAt.2 ⟨_, hbuilding⟩
      exact ⟨hcontains, by rw [status?_of_contains hcontains, hbuilding]⟩
    · rintro ⟨hcontains, hstatus⟩
      rwa [status?_of_contains hcontains] at hstatus

end Entries

end LiveBuild.Register
