import LiveBuild.Build.Register
import LiveBuild.Proofs.PathTables

/-!
# What each call on a register changes

Every operation of a register is described by what can be found in its table afterwards. A journal
holds a register together with the calls that were made on it since it was last emptied, and their
answers.
-/

namespace LiveBuild.Register

variable {r : Register} {d p q : Path} {parents : PathSet}

section Parents

@[simp]
theorem targets_connect (r : Register) (p q : Path) : (r.connect p q).targets = r.targets := by
  unfold connect
  split <;> rfl

@[simp]
theorem aliases_connect (r : Register) (p q : Path) : (r.connect p q).aliases = r.aliases := by
  unfold connect
  split <;> rfl

/-- Targets that differ in nothing but their parents. -/
def Target.withParents (target : Target) (parents : PathSet) : Target := { target with parents }

theorem get?_adopt : (r.adopt parents d).targets.get? q =
    (r.targets.get? q).map fun target => target.withParents
      (if d.same q then
        target.parents.union ⟨parents.items.filter fun parent => !parent.same d⟩
      else target.parents) := by
  rw [adopt, PathMap.get?_modify]
  by_cases hdq : d.same q
  · simp [hdq, Target.withParents]
  · simp [hdq, Target.withParents]

theorem contains_filter_not_same (hdq : d.components = q.components) (p : Path) :
    (⟨parents.items.filter fun parent => !parent.same d⟩ : PathSet).contains p =
      (parents.contains p && !p.same q) := by
  have herase : (⟨parents.items.filter fun parent => !parent.same d⟩ : PathSet) =
      parents.erase d := rfl
  rw [herase, PathSet.contains_erase, Bool.and_comm, Path.same_congr_left hdq, Path.same_comm]

theorem get?_foldl_adopt (reached : List Path) (q : Path) :
    ∃ gain : PathSet → PathSet,
      (reached.foldl (fun r p => r.adopt parents p) r).targets.get? q =
        (r.targets.get? q).map (fun target => target.withParents (gain target.parents)) ∧
      (∀ s p, (gain s).contains p =
        (s.contains p || (reached.any (·.same q) && (parents.contains p && !p.same q)))) ∧
      ∀ s, s.Ordered → (gain s).Ordered := by
  induction reached generalizing r with
  | nil =>
      refine ⟨id, ?_, by simp, fun _ h => h⟩
      simp [Target.withParents]
  | cons first rest ih =>
      obtain ⟨gain, hget, hcontains, hordered⟩ := ih (r := r.adopt parents first)
      by_cases hfirst : first.same q
      · refine ⟨fun s => gain (s.union ⟨parents.items.filter fun parent => !parent.same first⟩),
          ?_, ?_, fun s hs => hordered _ (hs.union _)⟩
        · rw [List.foldl_cons, hget, get?_adopt, Option.map_map]
          simp [hfirst, Function.comp_def, Target.withParents]
        · intro s p
          rw [hcontains, PathSet.contains_union,
            contains_filter_not_same (Path.same_iff.1 hfirst)]
          cases s.contains p <;> simp [hfirst]
      · refine ⟨gain, ?_, ?_, hordered⟩
        · rw [List.foldl_cons, hget, get?_adopt, Option.map_map]
          simp [hfirst, Function.comp_def, Target.withParents]
        · intro s p
          rw [hcontains]
          simp [hfirst]

theorem aliases_foldl_adopt (reached : List Path) :
    (reached.foldl (fun r p => r.adopt parents p) r).aliases = r.aliases := by
  induction reached generalizing r with
  | nil => rfl
  | cons first rest ih => exact ih

theorem imports_foldl_adopt (reached : List Path) :
    (reached.foldl (fun r p => r.adopt parents p) r).imports = r.imports := by
  induction reached generalizing r with
  | nil => rfl
  | cons first rest ih => exact ih

@[simp]
theorem aliases_passDown (r : Register) (d : Path) (parents : PathSet) :
    (r.passDown d parents).aliases = r.aliases := by
  unfold passDown
  split
  · rfl
  · split
    · rfl
    · exact aliases_foldl_adopt _

@[simp]
theorem imports_passDown (r : Register) (d : Path) (parents : PathSet) :
    (r.passDown d parents).imports = r.imports := by
  unfold passDown
  split
  · rfl
  · split
    · rfl
    · exact imports_foldl_adopt _

/-- The places that parents given to a target are passed down to. -/
def reach (r : Register) (d : Path) : List Path :=
  match r.targets.get? d with
  | none => []
  | some target => (r.imports.reachable target.node).filterMap r.imports.label?

theorem get?_passDown (r : Register) (d : Path) (parents : PathSet) (q : Path) :
    ∃ gain : PathSet → PathSet,
      (r.passDown d parents).targets.get? q =
        (r.targets.get? q).map (fun target => target.withParents (gain target.parents)) ∧
      (∀ s p, (gain s).contains p =
        (s.contains p || ((r.reach d).any (·.same q) && (parents.contains p && !p.same q)))) ∧
      ∀ s, s.Ordered → (gain s).Ordered := by
  by_cases hempty : parents.isEmpty
  · refine ⟨id, ?_, ?_, fun _ h => h⟩
    · simp [passDown, hempty, Target.withParents]
    · simp [PathSet.isEmpty_iff.1 hempty]
  · have hfold : r.passDown d parents =
        (r.reach d).foldl (fun r p => r.adopt parents p) r := by
      rw [passDown, if_neg hempty, reach]
      cases r.targets.get? d <;> rfl
    rw [hfold]
    exact get?_foldl_adopt _ q

theorem contains_inherited_some (r : Register) (requester p : Path) :
    (r.inherited (some requester)).contains p = true ↔
      requester.components = p.components ∨
        ∃ target, r.targets.get? requester = some target ∧ target.parents.contains p = true := by
  rw [inherited, PathSet.contains_insert, Bool.or_eq_true, Path.same_iff]
  cases r.targets.get? requester <;> simp

theorem ordered_inherited (r : Register) (requester : Option Path)
    (h : ∀ d target, r.targets.get? d = some target → target.parents.Ordered) :
    (r.inherited requester).Ordered := by
  cases requester with
  | none => exact PathSet.ordered_empty
  | some requester =>
      refine PathSet.Ordered.insert ?_ _
      cases hget : r.targets.get? requester with
      | none => exact PathSet.ordered_empty
      | some target => exact h _ _ hget

end Parents

section Operations

variable {source : Path} {requester : Option Path} {addressee : Addressee} {succeeded : Bool}

/-- One more request is told of a target. -/
def subscribed (r : Register) (d : Path) (addressee : Addressee) : Register :=
  { r with targets := r.targets.modify d fun target =>
      { target with subscribers := subscribe addressee target.subscribers } }

/-- The register with the edge that a request for a target adds. -/
def connectFrom (r : Register) (requester : Option Path) (d : Path) : Register :=
  match requester with
  | some requester => r.connect requester d
  | none => r

/-- The record of a target that is asked for the first time. -/
def newTarget (r : Register) (source d : Path) (requester : Option Path) (addressee : Addressee) :
    Target :=
  { source, status := .building, subscribers := [addressee],
    parents := (r.inherited requester).erase d, node := r.imports.nodes.length }

/-- The register with a new record, which no edge leads to yet. -/
def recorded (r : Register) (source d : Path) (requester : Option Path) (addressee : Addressee) :
    Register :=
  { targets := r.targets.insert d (r.newTarget source d requester addressee)
    aliases := r.aliases.insert source d
    imports := (r.imports.addNode d).1 }

@[simp]
theorem targets_connectFrom : (r.connectFrom requester d).targets = r.targets := by
  cases requester <;> simp [connectFrom]

@[simp]
theorem aliases_connectFrom : (r.connectFrom requester d).aliases = r.aliases := by
  cases requester <;> simp [connectFrom]

theorem enroll_of_contains (h : r.targets.contains d = true) :
    r.enroll source d requester addressee =
      (((r.subscribed d addressee).connectFrom requester d).passDown d (r.inherited requester),
        .joined) := by
  rw [enroll, if_pos h]
  cases requester <;> rfl

theorem enroll_of_not_contains (h : r.targets.contains d = false) :
    r.enroll source d requester addressee =
      ((r.recorded source d requester addressee).connectFrom requester d, .started) := by
  rw [enroll, if_neg (by simp [h])]
  cases requester <;> rfl

theorem enroll_eq_started :
    (r.enroll source d requester addressee).2 = .started ↔ r.targets.contains d = false := by
  cases h : r.targets.contains d with
  | false => simp [enroll_of_not_contains h]
  | true => simp [enroll_of_contains h]

theorem get?_enroll_of_contains (source : Path) (requester : Option Path) (addressee : Addressee)
    (h : r.targets.contains d = true) (q : Path) :
    ∃ gain : PathSet → PathSet,
      (r.enroll source d requester addressee).1.targets.get? q =
        (r.targets.get? q).map (fun target =>
          { target with
            subscribers :=
              if d.same q then subscribe addressee target.subscribers else target.subscribers
            parents := gain target.parents }) ∧
      (∀ s p, (gain s).contains p =
        (s.contains p ||
          (((r.subscribed d addressee).connectFrom requester d).reach d).any (·.same q) &&
            ((r.inherited requester).contains p && !p.same q))) ∧
      ∀ s, s.Ordered → (gain s).Ordered := by
  obtain ⟨gain, hget, hgain⟩ := get?_passDown
    ((r.subscribed d addressee).connectFrom requester d) d (r.inherited requester) q
  refine ⟨gain, ?_, hgain⟩
  rw [enroll_of_contains h, hget, targets_connectFrom, subscribed, PathMap.get?_modify]
  by_cases hdq : d.same q
  · simp [hdq, Function.comp_def, Target.withParents]
  · simp [hdq, Target.withParents]

theorem get?_enroll_of_not_contains (h : r.targets.contains d = false) (q : Path) :
    (r.enroll source d requester addressee).1.targets.get? q =
      if d.same q then some (r.newTarget source d requester addressee) else r.targets.get? q := by
  rw [enroll_of_not_contains h, targets_connectFrom, recorded, PathMap.get?_insert]

theorem aliases_enroll :
    (r.enroll source d requester addressee).1.aliases =
      if r.targets.contains d then r.aliases else r.aliases.insert source d := by
  cases h : r.targets.contains d with
  | false => simp [enroll_of_not_contains h, recorded]
  | true => simp [enroll_of_contains h, subscribed]

@[simp]
theorem aliases_reopen : (r.reopen p addressee).1.aliases = r.aliases := by
  unfold reopen
  split
  · rfl
  · split
    · rfl
    · dsimp only
      split <;> rfl

@[simp]
theorem imports_reopen : (r.reopen p addressee).1.imports = r.imports := by
  unfold reopen
  split
  · rfl
  · split
    · rfl
    · dsimp only
      split <;> rfl

/-- What a claim to build a target again does depends on the record that it finds. -/
theorem reopen_cases (r : Register) (p : Path) (addressee : Addressee) :
    (∃ d target, r.recordedAs? p = some d ∧ r.targets.get? d = some target ∧
      target.status = .building ∧ (r.reopen p addressee).2 = .underway ∧
      ∀ q, (r.reopen p addressee).1.targets.get? q =
        if d.same q then
          some { target with subscribers := subscribe addressee target.subscribers }
        else r.targets.get? q) ∨
    (∃ d target, r.recordedAs? p = some d ∧ r.targets.get? d = some target ∧
      target.status ≠ .building ∧ (r.reopen p addressee).2 = .started d ∧
      ∀ q, (r.reopen p addressee).1.targets.get? q =
        if d.same q then
          some { target with
            subscribers := subscribe addressee target.subscribers
            status := .building }
        else r.targets.get? q) ∨
    r.reopen p addressee = (r, .unknown) := by
  cases hrecorded : r.recordedAs? p with
  | none => exact Or.inr (Or.inr (by simp [reopen, hrecorded]))
  | some d =>
      cases hget : r.targets.get? d with
      | none => exact Or.inr (Or.inr (by simp [reopen, hrecorded, hget]))
      | some target =>
          have hfound : ∀ q, d.same q = true → r.targets.get? q = some target := by
            intro q hdq
            rw [← hget]
            exact PathMap.get?_congr (Path.same_iff.1 hdq).symm
          by_cases hstatus : target.status = .building
          · refine Or.inl ⟨d, target, rfl, hget, hstatus, ?_, fun q => ?_⟩
            · simp [reopen, hrecorded, hget, hstatus]
            · simp only [reopen, hrecorded, hget, hstatus, ↓reduceIte, PathMap.get?_modify]
              by_cases hdq : d.same q
              · simp [hdq, hfound q hdq, hstatus]
              · simp [hdq]
          · refine Or.inr (Or.inl ⟨d, target, rfl, hget, hstatus, ?_, fun q => ?_⟩)
            · simp [reopen, hrecorded, hget, hstatus]
            · simp only [reopen, hrecorded, hget, hstatus, ↓reduceIte, PathMap.get?_modify]
              by_cases hdq : d.same q
              · simp [hdq, hfound q hdq]
              · simp [hdq]

/-- The status that the end of a build leaves. -/
def outcome (succeeded : Bool) : TargetStatus := if succeeded then .built else .failed

theorem outcome_ne_building (succeeded : Bool) : outcome succeeded ≠ .building := by
  cases succeeded <;> simp [outcome]

@[simp]
theorem aliases_close : (r.close d succeeded).1.aliases = r.aliases := by
  unfold close
  split <;> rfl

@[simp]
theorem imports_close : (r.close d succeeded).1.imports = r.imports := by
  unfold close
  split <;> rfl

theorem get?_close (r : Register) (d : Path) (succeeded : Bool) (q : Path) :
    (r.close d succeeded).1.targets.get? q =
      (r.targets.get? q).map fun target =>
        if d.same q then { target with status := outcome succeeded } else target := by
  rw [close]
  cases hget : r.targets.get? d with
  | none =>
      by_cases hdq : d.same q
      · rw [PathMap.get?_congr (Path.same_iff.1 hdq)] at hget
        simp [hget]
      · simp [hdq]
  | some target =>
      simp only [PathMap.get?_modify]
      by_cases hdq : d.same q
      · simp [hdq, outcome]
      · simp [hdq]

end Operations

section Outline

/-- The records without what changes about them while a build goes on: the destination and the
source of each, and who is told of it. -/
def outline (r : Register) : List (Path × Path × List Addressee) :=
  r.targets.entries.map fun entry => (entry.1, entry.2.source, entry.2.subscribers)

theorem outline_modify (f : Target → Target)
    (hf : ∀ target, (f target).source = target.source) (d : Path) :
    ({ r with targets := r.targets.modify d f } : Register).outline =
      r.targets.entries.map fun entry => (entry.1, entry.2.source,
        if entry.1.same d then (f entry.2).subscribers else entry.2.subscribers) := by
  rw [outline, PathMap.modify, List.map_map]
  apply List.map_congr_left
  intro entry _
  rw [Function.comp_apply]
  split <;> simp [hf]

theorem outline_of_targets {r r' : Register} (h : r.targets = r'.targets) :
    r.outline = r'.outline := by
  rw [outline, outline, h]

theorem outline_adopt (r : Register) (parents : PathSet) (d : Path) :
    (r.adopt parents d).outline = r.outline := by
  rw [adopt, outline_modify _ (by intro; rfl), outline]
  simp

theorem outline_passDown (r : Register) (d : Path) (parents : PathSet) :
    (r.passDown d parents).outline = r.outline := by
  have hfold : ∀ (reached : List Path) (r : Register),
      (reached.foldl (fun r p => r.adopt parents p) r).outline = r.outline := by
    intro reached
    induction reached with
    | nil => exact fun _ => rfl
    | cons first rest ih =>
        intro r
        rw [List.foldl_cons, ih, outline_adopt]
  unfold passDown
  split
  · rfl
  · split
    · rfl
    · exact hfold _ _

variable {source : Path} {requester : Option Path} {addressee : Addressee}

theorem outline_enroll_of_contains (h : r.targets.contains d = true) :
    (r.enroll source d requester addressee).1.outline = r.outline.map fun record =>
      (record.1, record.2.1,
        if record.1.same d then subscribe addressee record.2.2 else record.2.2) := by
  rw [enroll_of_contains h, outline_passDown,
    outline_of_targets targets_connectFrom, subscribed,
    outline_modify _ (by intro; rfl), outline, List.map_map]
  rfl

theorem outline_enroll_of_not_contains (h : r.targets.contains d = false) :
    (r.enroll source d requester addressee).1.outline =
      r.outline ++ [(d, source, [addressee])] := by
  rw [enroll_of_not_contains h, outline_of_targets targets_connectFrom,
    outline, recorded, PathMap.insert, if_neg (by simp [h]), List.map_append]
  rfl

@[simp]
theorem outline_close (r : Register) (d : Path) (succeeded : Bool) :
    (r.close d succeeded).1.outline = r.outline := by
  rw [close]
  split
  · rfl
  · rw [outline_modify _ (by intro; rfl), outline]
    simp

theorem contains_iff_outline :
    r.targets.contains d = true ↔ ∃ record ∈ r.outline, record.1.components = d.components := by
  rw [PathMap.contains, PathMap.find?, List.find?_isSome]
  simp only [outline, List.mem_map, Path.same_iff]
  constructor
  · rintro ⟨entry, hentry, hsame⟩
    exact ⟨_, ⟨entry, hentry, rfl⟩, hsame⟩
  · rintro ⟨_, ⟨entry, hentry, rfl⟩, hsame⟩
    exact ⟨entry, hentry, hsame⟩

/-- The sources of the records. -/
def sources (r : Register) : List Path := r.outline.map (·.2.1)

theorem sources_enroll_of_contains (h : r.targets.contains d = true) :
    (r.enroll source d requester addressee).1.sources = r.sources := by
  rw [sources, outline_enroll_of_contains h, List.map_map]
  rfl

theorem sources_enroll_of_not_contains (h : r.targets.contains d = false) :
    (r.enroll source d requester addressee).1.sources = r.sources ++ [source] := by
  rw [sources, outline_enroll_of_not_contains h, List.map_append]
  rfl

@[simp]
theorem sources_close (r : Register) (d : Path) (succeeded : Bool) :
    (r.close d succeeded).1.sources = r.sources := by
  rw [sources, outline_close, sources]

theorem exists_closing (h : r.targets.contains d = true) (succeeded : Bool) :
    ∃ closing, (r.close d succeeded).2 = some closing ∧
      ∃ record ∈ r.outline, record.1.components = d.components ∧
        closing.source = record.2.1 ∧ closing.addressees = record.2.2 := by
  obtain ⟨target, hget⟩ := PathMap.contains_iff.1 h
  obtain ⟨k, hmem, hk⟩ := PathMap.exists_mem_of_get? hget
  refine ⟨_, by rw [close, hget], (k, target.source, target.subscribers), ?_, hk, rfl, rfl⟩
  exact List.mem_map_of_mem (f := fun entry : Path × Target =>
    (entry.1, entry.2.source, entry.2.subscribers)) hmem

end Outline

/-! ### Journals -/

/-- What can be asked of a register. -/
inductive Call where
  | enroll (source dest : Path) (requester : Option Path) (addressee : Addressee)
  | reopen (path : Path) (addressee : Addressee)
  | close (dest : Path) (succeeded : Bool)
  /-- Any question about a path. -/
  | look (path : Path)
  /-- Forget every target. -/
  | reset
deriving Inhabited

inductive Answer where
  | grant (grant : Grant)
  | claim (claim : Claim)
  | closing (closing : Option Closing)
  | silence
deriving Inhabited

def act (r : Register) : Call → Register × Answer
  | .enroll source dest requester addressee =>
      let (r, grant) := r.enroll source dest requester addressee
      (r, .grant grant)
  | .reopen path addressee =>
      let (r, claim) := r.reopen path addressee
      (r, .claim claim)
  | .close dest succeeded =>
      let (r, closing) := r.close dest succeeded
      (r, .closing closing)
  | .look _ => (r, .silence)
  | .reset => (empty, .silence)

/-- A register, and the calls made on it since it was last emptied. -/
structure Journal where
  register : Register := empty
  past : List (Call × Answer) := []
deriving Inhabited

namespace Journal

def next (j : Journal) : Call → Journal
  | .reset => {}
  | call => ⟨(j.register.act call).1, j.past ++ [(call, (j.register.act call).2)]⟩

def run (j : Journal) (calls : List Call) : Journal := calls.foldl next j

/-- What one step keeps, a run keeps. -/
theorem run_induction {P : Journal → Prop} (hnext : ∀ j call, P j → P (j.next call))
    {j : Journal} (hj : P j) (calls : List Call) : P (j.run calls) := by
  induction calls generalizing j with
  | nil => exact hj
  | cons call rest ih => exact ih (hnext j call hj)

end Journal

end LiveBuild.Register
