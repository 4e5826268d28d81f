import LiveBuild.Proofs.Importers

/-!
# The tables of a register

A register keeps three tables: the records under their destinations, the destinations of the sources
that records were made for, and the graph of imports, in which each record has a node. A request for
a new target changes all three, one after the other, and an edge is drawn only between records that
are there. So the tables stay in step whoever the requester is, recorded or not: the nodes of the
graph are the destinations in the order in which their records were made. What is looked up in one
table through another is therefore always found.
-/

namespace LiveBuild.Register

open Relation

variable {r : Register} {d p source : Path} {requester : Option Path} {addressee : Addressee}
  {target : Target} {a b : Nat}

/-- What the tables of a register say about each other. -/
structure Agrees (r : Register) : Prop where
  /-- A place has one record at most. -/
  distinct : r.targets.Distinct
  /-- The node of a record is in the graph and labelled with the destination of the record. -/
  labelled : ∀ record ∈ r.targets.entries, r.imports.label? record.2.node = some record.1
  /-- No two records have one node. -/
  separate : (r.targets.entries.map fun record => record.2.node).Nodup
  /-- Every node of the graph is the node of a record. -/
  covered : ∀ node label, r.imports.label? node = some label →
    ∃ record ∈ r.targets.entries, record.1 = label ∧ record.2.node = node
  aliased : ∀ entry ∈ r.aliases.entries, entry.2 ∈ r.targets.keys
  /-- No record is its own parent. -/
  apart : ∀ record ∈ r.targets.entries, record.2.parents.contains record.1 = false
  joined : ∀ a b, r.imports.Edge a b → ∃ importer ∈ r.targets.entries,
    ∃ imported ∈ r.targets.entries, importer.2.node = a ∧ imported.2.node = b
  /-- Whatever a search from the node of a record comes to is a record again. -/
  reached : ∀ record ∈ r.targets.entries, ∀ node ∈ r.imports.reachable record.2.node,
    ∃ reached ∈ r.targets.entries, reached.2.node = node ∧ r.imports.label? node = some reached.1
  /-- What a path is recorded as has a record. -/
  resolved : ∀ p d, r.recordedAs? p = some d → r.targets.contains d = true
  /-- A path is unknown to a claim only if nothing is recorded for it. -/
  claimed : ∀ p addressee, (r.reopen p addressee).2 = .unknown ↔ r.recordedAs? p = none

/-- The destination and the node of each record, in the order in which the records were made. -/
def numbering (r : Register) : List (Path × Nat) :=
  r.targets.entries.map fun record => (record.1, record.2.node)

/-- What every call keeps of the tables: the records are numbered as the nodes of the graph are. -/
structure InStep (r : Register) : Prop where
  distinct : r.targets.Distinct
  numbered : r.numbering = r.imports.nodes.zipIdx
  aliased : ∀ entry ∈ r.aliases.entries, entry.2 ∈ r.targets.keys
  apart : ∀ record ∈ r.targets.entries, record.2.parents.contains record.1 = false
  joined : ∀ a b, r.imports.Edge a b → a < r.imports.nodes.length ∧ b < r.imports.nodes.length

section Lookups

theorem mem_numbering {n : Nat} :
    (d, n) ∈ r.numbering ↔ ∃ target, (d, target) ∈ r.targets.entries ∧ target.node = n := by
  rw [numbering, List.mem_map]
  constructor
  · rintro ⟨⟨k, target⟩, hmem, heq⟩
    obtain ⟨rfl, rfl⟩ := Prod.mk.inj heq
    exact ⟨target, hmem, rfl⟩
  · rintro ⟨target, hmem, rfl⟩
    exact ⟨(d, target), hmem, rfl⟩

theorem InStep.label?_eq_some_iff (h : r.InStep) {n : Nat} :
    r.imports.label? n = some d ↔
      ∃ target, (d, target) ∈ r.targets.entries ∧ target.node = n := by
  rw [← mem_numbering, h.numbered, List.mem_zipIdx_iff_getElem?, ImportGraph.label?]

theorem InStep.exists_record (h : r.InStep) {n : Nat} (hn : n < r.imports.nodes.length) :
    ∃ record ∈ r.targets.entries, record.2.node = n ∧ r.imports.label? n = some record.1 := by
  have hlabel : r.imports.label? n = some r.imports.nodes[n] := List.getElem?_eq_getElem hn
  obtain ⟨target, hmem, hnode⟩ := h.label?_eq_some_iff.1 hlabel
  exact ⟨_, hmem, hnode, hlabel⟩

theorem InStep.node_lt (h : r.InStep) (hget : r.targets.get? p = some target) :
    target.node < r.imports.nodes.length := by
  obtain ⟨k, hmem, -⟩ := PathMap.exists_mem_of_get? hget
  have hlabel : r.imports.label? target.node = some k :=
    h.label?_eq_some_iff.2 ⟨target, hmem, rfl⟩
  exact (List.getElem?_eq_some_iff.1 hlabel).1

theorem InStep.lt_of_reachable (h : r.InStep) (ha : a < r.imports.nodes.length)
    (hreach : ReflTransGen r.imports.Edge a b) : b < r.imports.nodes.length := by
  induction hreach with
  | refl => exact ha
  | tail _ hedge _ => exact (h.joined _ _ hedge).2

theorem InStep.contains_of_recordedAs (h : r.InStep) (hrecorded : r.recordedAs? p = some d) :
    r.targets.contains d = true := by
  rw [recordedAs?] at hrecorded
  split at hrecorded
  · rename_i hcontains
    rwa [← Option.some.inj hrecorded]
  · obtain ⟨k, hmem, -⟩ := PathMap.exists_mem_of_get? hrecorded
    obtain ⟨record, hrecord, hkey⟩ := List.mem_map.1 (h.aliased _ hmem)
    exact PathMap.contains_iff_mem.2 ⟨record, hrecord, by rw [hkey]; exact Path.same_self d⟩

theorem InStep.reopen_eq_unknown (h : r.InStep) :
    (r.reopen p addressee).2 = .unknown ↔ r.recordedAs? p = none := by
  cases hrecorded : r.recordedAs? p with
  | none => simp [reopen, hrecorded]
  | some d =>
      obtain ⟨target, hget⟩ := PathMap.contains_iff.1 (h.contains_of_recordedAs hrecorded)
      simp only [reopen, hrecorded, hget, reduceCtorEq, iff_false]
      split <;> simp

theorem InStep.agrees (h : r.InStep) : r.Agrees where
  distinct := h.distinct
  labelled record hrecord := h.label?_eq_some_iff.2 ⟨record.2, hrecord, rfl⟩
  separate := by
    have hnodes : (r.targets.entries.map fun record => record.2.node) =
        r.numbering.map Prod.snd := by
      rw [numbering, List.map_map]
      rfl
    rw [hnodes, h.numbered, List.zipIdx_map_snd]
    exact List.nodup_range'
  covered node label hlabel := by
    obtain ⟨target, hmem, hnode⟩ := h.label?_eq_some_iff.1 hlabel
    exact ⟨_, hmem, rfl, hnode⟩
  aliased := h.aliased
  apart := h.apart
  joined a b hedge := by
    obtain ⟨ha, hb⟩ := h.joined a b hedge
    obtain ⟨importer, himporter, hnode, -⟩ := h.exists_record ha
    obtain ⟨imported, himported, hnode', -⟩ := h.exists_record hb
    exact ⟨importer, himporter, imported, himported, hnode, hnode'⟩
  reached record hrecord node hnode := by
    have hlabel := h.label?_eq_some_iff.2 ⟨record.2, hrecord, rfl⟩
    have hlt : record.2.node < r.imports.nodes.length := (List.getElem?_eq_some_iff.1 hlabel).1
    exact h.exists_record (h.lt_of_reachable hlt (ImportGraph.mem_reachable.1 hnode))
  resolved p d := h.contains_of_recordedAs
  claimed p addressee := h.reopen_eq_unknown

end Lookups

section Calls

theorem inStep_empty : empty.InStep where
  distinct := List.Pairwise.nil
  numbered := rfl
  aliased := by simp [empty]
  apart := by simp [empty]
  joined := by simp [empty, ImportGraph.Edge]

/-- A record can be changed in everything but its node, as long as it does not become its own
parent. -/
theorem InStep.modify (h : r.InStep) {f : Target → Target}
    (hnode : ∀ target, (f target).node = target.node)
    (hparents : ∀ k target, k.same d = true → target.parents.contains k = false →
      (f target).parents.contains k = false) :
    ({ r with targets := r.targets.modify d f } : Register).InStep where
  distinct := h.distinct.modify d f
  numbered := by
    rw [← h.numbered, numbering, numbering, PathMap.modify, List.map_map]
    apply List.map_congr_left
    intro record _
    rw [Function.comp_apply]
    split
    · rw [hnode]
    · rfl
  aliased entry hentry := by
    rw [PathMap.keys_modify]
    exact h.aliased entry hentry
  apart record hrecord := by
    obtain ⟨old, hold, rfl⟩ := List.mem_map.1 hrecord
    have hbefore := h.apart old hold
    split
    · rename_i hsame
      exact hparents old.1 old.2 hsame hbefore
    · exact hbefore
  joined := h.joined

/-- Most calls leave the node of a record and its parents as they are. -/
theorem InStep.amend (h : r.InStep) {f : Target → Target}
    (hnode : ∀ target, (f target).node = target.node)
    (hparents : ∀ target, (f target).parents = target.parents) :
    ({ r with targets := r.targets.modify d f } : Register).InStep := by
  apply h.modify hnode
  intro k target _ hbefore
  rw [hparents]
  exact hbefore

theorem InStep.subscribed (h : r.InStep) (d : Path) (addressee : Addressee) :
    (r.subscribed d addressee).InStep :=
  h.amend (fun _ => rfl) fun _ => rfl

theorem InStep.adopt (h : r.InStep) (parents : PathSet) (d : Path) :
    (r.adopt parents d).InStep := by
  apply h.modify
  · exact fun _ => rfl
  · intro k target hsame hparents
    rw [PathSet.contains_union, hparents,
      contains_filter_not_same (Path.same_iff.1 hsame).symm, Path.same_self]
    simp

theorem InStep.passDown (h : r.InStep) (d : Path) (parents : PathSet) :
    (r.passDown d parents).InStep := by
  have hfold : ∀ (reached : List Path) (r : Register), r.InStep →
      (reached.foldl (fun r p => r.adopt parents p) r).InStep := by
    intro reached
    induction reached with
    | nil => exact fun _ h => h
    | cons first rest ih => exact fun r h => ih _ (h.adopt parents first)
  unfold Register.passDown
  split
  · exact h
  · split
    · exact h
    · exact hfold _ _ h

/-- An edge is drawn only if the two records are there. -/
theorem InStep.connectFrom (h : r.InStep) (requester : Option Path) (d : Path) :
    (r.connectFrom requester d).InStep where
  distinct := by
    rw [targets_connectFrom]
    exact h.distinct
  numbered := by
    rw [numbering, targets_connectFrom, nodes_connectFrom]
    exact h.numbered
  aliased := by
    rw [aliases_connectFrom, targets_connectFrom]
    exact h.aliased
  apart := by
    rw [targets_connectFrom]
    exact h.apart
  joined a b hedge := by
    rw [nodes_connectFrom]
    cases requester with
    | none => exact h.joined a b hedge
    | some requester =>
        rw [Register.connectFrom, connect] at hedge
        split at hedge
        · rename_i importer imported himporter himported
          rcases (ImportGraph.edge_addEdge _ _).1 hedge with ⟨rfl, rfl⟩ | hedge
          · exact ⟨h.node_lt himporter, h.node_lt himported⟩
          · exact h.joined a b hedge
        · exact h.joined a b hedge

theorem InStep.recorded (h : r.InStep) (hd : r.targets.contains d = false) :
    (r.recorded source d requester addressee).InStep := by
  have hentries : (r.recorded source d requester addressee).targets.entries =
      r.targets.entries ++ [(d, r.newTarget source d requester addressee)] := by
    rw [Register.recorded, PathMap.insert, if_neg (by simp [hd])]
  have hkeys : (r.recorded source d requester addressee).targets.keys = r.targets.keys ++ [d] := by
    rw [PathMap.keys, hentries, List.map_append]
    rfl
  refine ⟨h.distinct.insert _ _, ?_, fun entry hentry => ?_, fun record hrecord => ?_,
    fun a b hedge => ?_⟩
  · have hnodes : (r.recorded source d requester addressee).imports.nodes =
        r.imports.nodes ++ [d] := rfl
    rw [numbering, hentries, hnodes, List.map_append, List.zipIdx_append, ← h.numbered, numbering,
      Nat.zero_add]
    rfl
  · rw [hkeys, List.mem_append]
    rcases PathMap.mem_insert hentry with hbefore | ⟨hnew, -⟩
    · exact .inl (h.aliased entry hbefore)
    · exact .inr (List.mem_singleton.2 hnew)
  · rw [hentries, List.mem_append] at hrecord
    rcases hrecord with hbefore | hnew
    · exact h.apart record hbefore
    · rw [List.mem_singleton.1 hnew, newTarget, PathSet.contains_erase, Path.same_self]
      rfl
  · obtain ⟨ha, hb⟩ := h.joined a b hedge
    change a < (r.imports.nodes ++ [d]).length ∧ b < (r.imports.nodes ++ [d]).length
    rw [List.length_append]
    omega

theorem InStep.enroll (h : r.InStep) (source d : Path) (requester : Option Path)
    (addressee : Addressee) : (r.enroll source d requester addressee).1.InStep := by
  cases hd : r.targets.contains d with
  | true =>
      rw [enroll_of_contains hd]
      exact ((h.subscribed d addressee).connectFrom requester d).passDown d _
  | false =>
      rw [enroll_of_not_contains hd]
      exact (h.recorded hd).connectFrom requester d

theorem InStep.reopen (h : r.InStep) (p : Path) (addressee : Addressee) :
    (r.reopen p addressee).1.InStep := by
  rw [Register.reopen]
  split
  · exact h
  · split
    · exact h
    · rename_i target _
      dsimp only
      split
      · exact h.amend (fun _ => rfl) fun _ => rfl
      · exact h.amend (fun _ => rfl) fun _ => rfl

theorem InStep.close (h : r.InStep) (d : Path) (succeeded : Bool) :
    (r.close d succeeded).1.InStep := by
  rw [Register.close]
  split
  · exact h
  · exact h.amend (fun _ => rfl) fun _ => rfl

theorem InStep.act (h : r.InStep) (call : Call) : (r.act call).1.InStep := by
  cases call with
  | enroll source dest requester addressee => exact h.enroll source dest requester addressee
  | reopen path addressee => exact h.reopen path addressee
  | close dest succeeded => exact h.close dest succeeded
  | look path => exact h
  | reset => exact inStep_empty

theorem inStep_next {j : Journal} (h : j.register.InStep) (call : Call) :
    (j.next call).register.InStep := by
  cases call with
  | reset => exact inStep_empty
  | _ => exact h.act _

end Calls

/-- **The tables of a register agree.** Whatever is asked of a register, in whatever order and on
behalf of whatever requester, the records, their aliases and the graph of imports fit together. -/
theorem tables_agree (calls : List Call) : (Journal.run {} calls).register.Agrees := by
  apply InStep.agrees
  exact Journal.run_induction (P := fun j => j.register.InStep) (fun _ call h => inStep_next h call)
    inStep_empty calls

end LiveBuild.Register
