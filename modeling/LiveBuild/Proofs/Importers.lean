import LiveBuild.Proofs.ImportGraph
import LiveBuild.Proofs.RegisterCalls

/-!
# The importers of a target

A record lists the targets that import it, directly or through others. The list is kept up to date
on every request: a new record inherits the importers of its requester, and a request for a record
that was there passes them down along the edges drawn so far. Whatever the order of the requests,
this comes to what the requests themselves say: one target imports another if a chain of requests
leads from the one to the other.
-/

namespace LiveBuild.Register

open Relation

variable {r after : Register} {d p q : Path} {requester : Option Path}
  {requests : List (Path × Path)}

/-- Some request says that one place imports another. -/
def Leads (requests : List (Path × Path)) (a b : List Component) : Prop :=
  ∃ request ∈ requests, request.1.components = a ∧ request.2.components = b

/-- What a request for a target on behalf of another, if any, says. -/
def asked (requester : Option Path) (d : Path) : List (Path × Path) :=
  requester.toList.map fun requester => (requester, d)

theorem leads_append (a b : List Component) :
    Leads (requests ++ asked requester d) a b ↔
      Leads requests a b ∨ (∃ q ∈ requester, q.components = a) ∧ d.components = b := by
  simp only [Leads, List.mem_append, or_and_right, exists_or]
  cases requester <;> simp [asked]

theorem leads_le : Leads requests ≤ Leads (requests ++ asked requester d) :=
  fun a b h => (leads_append a b).2 (Or.inl h)

/-- A chain of requests that was not there before goes through the new one. -/
theorem transGen_append (a b : List Component) :
    TransGen (Leads (requests ++ asked requester d)) a b ↔
      TransGen (Leads requests) a b ∨
        (∃ q ∈ requester, ReflTransGen (Leads requests) a q.components) ∧
          ReflTransGen (Leads (requests ++ asked requester d)) d.components b := by
  constructor
  · intro hchain
    induction hchain with
    | single hab =>
        rcases (leads_append _ _).1 hab with hab | ⟨⟨q, hq, rfl⟩, rfl⟩
        · exact Or.inl (.single hab)
        · exact Or.inr ⟨⟨q, hq, .refl⟩, .refl⟩
    | tail _ hbc ih =>
        rcases ih with hab | ⟨hleft, hright⟩
        · rcases (leads_append _ _).1 hbc with hbc' | ⟨⟨q, hq, rfl⟩, rfl⟩
          · exact Or.inl (hab.tail hbc')
          · exact Or.inr ⟨⟨q, hq, hab.to_reflTransGen⟩, .refl⟩
        · exact Or.inr ⟨hleft, hright.tail hbc⟩
  · rintro (hchain | ⟨⟨q, hq, hleft⟩, hright⟩)
    · exact TransGen.mono leads_le _ _ hchain
    · have hnew : Leads (requests ++ asked requester d) q.components d.components :=
        (leads_append _ _).2 (Or.inr ⟨⟨q, hq, rfl⟩, rfl⟩)
      exact (TransGen.tail' (ReflTransGen.mono leads_le _ _ hleft) hnew).trans_left hright

section Graph

def nodeAt? (r : Register) (d : Path) : Option Nat := (r.targets.get? d).map (·.node)

theorem nodeAt?_congr (h : p.components = q.components) : r.nodeAt? p = r.nodeAt? q := by
  rw [nodeAt?, nodeAt?, PathMap.get?_congr h]

theorem contains_iff_nodeAt? : r.targets.contains d = true ↔ ∃ n, r.nodeAt? d = some n := by
  rw [PathMap.contains_iff, nodeAt?]
  constructor
  · rintro ⟨target, h⟩
    exact ⟨target.node, by rw [h]; rfl⟩
  · rintro ⟨n, h⟩
    obtain ⟨target, htarget, -⟩ := Option.map_eq_some_iff.1 h
    exact ⟨target, htarget⟩

/-- The graph of a register has a node for every record and an edge for every request. -/
structure Drawn (r : Register) (requests : List (Path × Path)) : Prop where
  label : ∀ d n, r.nodeAt? d = some n →
    ∃ label, r.imports.label? n = some label ∧ label.components = d.components
  edge : ∀ n m, r.imports.Edge n m ↔
    ∃ request ∈ requests, r.nodeAt? request.1 = some n ∧ r.nodeAt? request.2 = some m
  ends : ∀ request ∈ requests,
    r.targets.contains request.1 = true ∧ r.targets.contains request.2 = true

theorem Drawn.congr (h : r.Drawn requests) (himports : after.imports = r.imports)
    (hnode : ∀ q, after.nodeAt? q = r.nodeAt? q) : after.Drawn requests where
  label d n hd := by
    rw [himports]
    exact h.label d n (by rw [← hnode, hd])
  edge n m := by
    rw [himports, h.edge]
    simp only [hnode]
  ends request hrequest := by
    simp only [contains_iff_nodeAt?, hnode] at *
    simpa only [contains_iff_nodeAt?] using h.ends request hrequest

theorem Drawn.components_eq (h : r.Drawn requests) {n : Nat} (hp : r.nodeAt? p = some n)
    (hq : r.nodeAt? q = some n) : p.components = q.components := by
  obtain ⟨label, hlabel, hlabelp⟩ := h.label p n hp
  obtain ⟨label', hlabel', hlabelq⟩ := h.label q n hq
  rw [hlabel, Option.some.injEq] at hlabel'
  rw [← hlabelp, ← hlabelq, hlabel']

theorem Drawn.contains_of_transGen (h : r.Drawn requests) {b : List Component}
    (hchain : TransGen (Leads requests) p.components b) : r.targets.contains p = true := by
  obtain ⟨c, hfirst, -⟩ := TransGen.head'_iff.1 hchain
  obtain ⟨request, hrequest, hp, -⟩ := hfirst
  rw [← PathMap.contains_congr hp]
  exact (h.ends request hrequest).1

/-- The places that a search of the graph reaches are those that a chain of requests leads to. -/
theorem Drawn.any_reach (h : r.Drawn requests) (hd : r.targets.contains d = true)
    (hq : r.targets.contains q = true) :
    (r.reach d).any (·.same q) = true ↔
      ReflTransGen (Leads requests) d.components q.components := by
  obtain ⟨target, hget⟩ := PathMap.contains_iff.1 hd
  have hnode : r.nodeAt? d = some target.node := by rw [nodeAt?, hget]; rfl
  obtain ⟨m, hm⟩ := contains_iff_nodeAt?.1 hq
  have hreach : (r.reach d).any (·.same q) = true ↔ ReflTransGen r.imports.Edge target.node m := by
    simp only [reach, hget, List.any_eq_true, List.mem_filterMap, ImportGraph.mem_reachable,
      Path.same_iff]
    constructor
    · rintro ⟨label, ⟨n, hreach, hlabel⟩, hsame⟩
      have hrecorded : ∃ e, r.nodeAt? e = some n := by
        rcases ReflTransGen.cases_tail hreach with rfl | ⟨c, -, hedge⟩
        · exact ⟨d, hnode⟩
        · obtain ⟨request, -, -, hend⟩ := (h.edge c n).1 hedge
          exact ⟨_, hend⟩
      obtain ⟨e, he⟩ := hrecorded
      obtain ⟨label', hlabel', hsame'⟩ := h.label e n he
      rw [hlabel, Option.some.injEq] at hlabel'
      rw [nodeAt?_congr (p := q) (q := e) (by rw [← hsame', ← hsame, hlabel']), he,
        Option.some.injEq] at hm
      rwa [← hm]
    · intro hreach
      obtain ⟨label, hlabel, hsame⟩ := h.label q m hm
      exact ⟨label, ⟨m, hreach, hlabel⟩, hsame⟩
  rw [hreach]
  constructor
  · intro hchain
    -- Every node on the way belongs to a record, and the last one to `q`.
    have hall : ∀ n, ReflTransGen r.imports.Edge target.node n → ∀ e, r.nodeAt? e = some n →
        ReflTransGen (Leads requests) d.components e.components := by
      intro n hn
      induction hn with
      | refl =>
          intro e he
          rw [h.components_eq hnode he]
      | tail _ hedge ih =>
          intro e he
          obtain ⟨request, hrequest, hstart, hend⟩ := (h.edge _ _).1 hedge
          exact (ih _ hstart).tail ⟨request, hrequest, rfl, h.components_eq hend he⟩
    exact hall m hchain q hm
  · intro hchain
    have hall : ∀ b, ReflTransGen (Leads requests) d.components b → ∀ e : Path, e.components = b →
        ∀ n, r.nodeAt? e = some n → ReflTransGen r.imports.Edge target.node n := by
      intro b hb
      induction hb with
      | refl =>
          intro e he n hn
          rw [nodeAt?_congr he, hnode, Option.some.injEq] at hn
          rw [hn]
      | tail _ hleads ih =>
          intro e he n hn
          obtain ⟨request, hrequest, hstart, hend⟩ := hleads
          obtain ⟨k, hk⟩ := contains_iff_nodeAt?.1 (h.ends request hrequest).1
          refine (ih request.1 hstart k hk).tail ((h.edge k n).2 ⟨request, hrequest, hk, ?_⟩)
          rw [nodeAt?_congr (hend.trans he.symm), hn]
    exact hall _ hchain q rfl m hm

@[simp]
theorem nodes_connectFrom : (r.connectFrom requester d).imports.nodes = r.imports.nodes := by
  cases requester with
  | none => rfl
  | some requester =>
      rw [connectFrom, connect]
      split
      · rw [ImportGraph.addEdge]
        split <;> rfl
      · rfl

theorem edge_connectFrom (hrequester : ∀ q ∈ requester, r.targets.contains q = true)
    (hd : r.targets.contains d = true) (n m : Nat) :
    (r.connectFrom requester d).imports.Edge n m ↔
      (∃ request ∈ asked requester d,
        r.nodeAt? request.1 = some n ∧ r.nodeAt? request.2 = some m) ∨ r.imports.Edge n m := by
  cases requester with
  | none => simp [connectFrom, asked]
  | some requester =>
      obtain ⟨source, hsource⟩ := PathMap.contains_iff.1 (hrequester requester rfl)
      obtain ⟨target, htarget⟩ := PathMap.contains_iff.1 hd
      simp [connectFrom, connect, hsource, htarget, ImportGraph.edge_addEdge, asked, nodeAt?,
        eq_comm]

theorem Drawn.connectFrom (h : r.Drawn requests)
    (hrequester : ∀ q ∈ requester, r.targets.contains q = true)
    (hd : r.targets.contains d = true) :
    (r.connectFrom requester d).Drawn (requests ++ asked requester d) where
  label e n he := by
    obtain ⟨label, hlabel, hsame⟩ := h.label e n (by simpa [nodeAt?] using he)
    refine ⟨label, ?_, hsame⟩
    rw [← hlabel, ImportGraph.label?, ImportGraph.label?, nodes_connectFrom]
  edge n m := by
    rw [edge_connectFrom hrequester hd, h.edge]
    simp only [List.mem_append, or_and_right, exists_or, nodeAt?, targets_connectFrom]
    exact or_comm
  ends request hrequest := by
    rw [targets_connectFrom]
    rcases List.mem_append.1 hrequest with hrequest | hrequest
    · exact h.ends request hrequest
    · obtain ⟨q, hq, rfl⟩ := List.mem_map.1 hrequest
      exact ⟨hrequester q (by simpa using hq), hd⟩

theorem Drawn.recorded {source : Path} {addressee : Addressee} (h : r.Drawn requests)
    (hd : r.targets.contains d = false) :
    (r.recorded source d requester addressee).Drawn requests := by
  have hnode : ∀ q, (r.recorded source d requester addressee).nodeAt? q =
      if d.same q then some r.imports.nodes.length else r.nodeAt? q := by
    intro q
    rw [nodeAt?, Register.recorded, PathMap.get?_insert, nodeAt?]
    by_cases hdq : d.same q <;> simp [hdq, newTarget]
  have hother : ∀ q, r.targets.contains q = true →
      (r.recorded source d requester addressee).nodeAt? q = r.nodeAt? q := by
    intro q hq
    rw [hnode, if_neg]
    intro hdq
    rw [PathMap.contains_congr (Path.same_iff.1 hdq), hq] at hd
    contradiction
  refine ⟨fun q n hq => ?_, fun n m => ?_, fun request hrequest => ?_⟩
  · rw [hnode] at hq
    by_cases hdq : d.same q
    · rw [if_pos hdq, Option.some.injEq] at hq
      subst hq
      exact ⟨d, by simp [Register.recorded, ImportGraph.addNode, ImportGraph.label?],
        Path.same_iff.1 hdq⟩
    · rw [if_neg hdq] at hq
      obtain ⟨label, hlabel, hsame⟩ := h.label q n hq
      refine ⟨label, ?_, hsame⟩
      have hlt : n < r.imports.nodes.length := (List.getElem?_eq_some_iff.1 hlabel).1
      rw [← hlabel, Register.recorded, ImportGraph.addNode, ImportGraph.label?, ImportGraph.label?,
        List.getElem?_append_left hlt]
  · change r.imports.Edge n m ↔ _
    rw [h.edge]
    refine exists_congr fun request => and_congr_right fun hrequest => ?_
    obtain ⟨hleft, hright⟩ := h.ends request hrequest
    rw [hother _ hleft, hother _ hright]
  · obtain ⟨hleft, hright⟩ := h.ends request hrequest
    simp [Register.recorded, PathMap.contains_insert, hleft, hright]

end Graph

section Parents

/-- Every record lists the targets that a chain of requests leads from, but never itself. -/
def Informed (r : Register) (requests : List (Path × Path)) : Prop :=
  ∀ d target, r.targets.get? d = some target →
    (∀ p, target.parents.contains p = true ↔
      p.components ≠ d.components ∧ TransGen (Leads requests) p.components d.components) ∧
    target.parents.Ordered

/-- What is inherited from a requester: itself, and all that a chain of requests leads to it
from. -/
theorem Informed.contains_inherited (h : r.Informed requests)
    (hrequester : ∀ q ∈ requester, r.targets.contains q = true) (p : Path) :
    (r.inherited requester).contains p = true ↔
      ∃ q ∈ requester, ReflTransGen (Leads requests) p.components q.components := by
  cases requester with
  | none => simp [inherited]
  | some q =>
      obtain ⟨target, hget⟩ := PathMap.contains_iff.1 (hrequester q rfl)
      rw [contains_inherited_some]
      simp only [hget, Option.some.injEq, exists_eq_left', (h q target hget).1, Option.mem_def,
        reflTransGen_iff_eq_or_transGen]
      by_cases hpq : q.components = p.components
      · simp [hpq]
      · simp [hpq, Ne.symm hpq]

theorem Informed.ordered_inherited (h : r.Informed requests) (requester : Option Path) :
    (r.inherited requester).Ordered :=
  Register.ordered_inherited r requester fun d target hget => (h d target hget).2

/-- What a register knows of the requests that were made. -/
structure Traced (r : Register) (requests : List (Path × Path)) : Prop where
  drawn : r.Drawn requests
  informed : r.Informed requests

theorem Traced.congr (h : r.Traced requests) (himports : after.imports = r.imports)
    (hget : ∀ q, (after.targets.get? q).map (fun target => (target.node, target.parents)) =
      (r.targets.get? q).map fun target => (target.node, target.parents)) :
    after.Traced requests := by
  refine ⟨h.drawn.congr himports fun q => ?_, fun d target hafter => ?_⟩
  · have hnode := congrArg (Option.map Prod.fst) (hget q)
    rwa [Option.map_map, Option.map_map] at hnode
  · have hbefore := hget d
    rw [hafter, Option.map_some] at hbefore
    obtain ⟨old, hold, heq⟩ := Option.map_eq_some_iff.1 hbefore.symm
    rw [← (Prod.mk.inj heq).2]
    exact h.informed d old hold

theorem traced_empty : empty.Traced [] := by
  refine ⟨⟨?_, ?_, by simp⟩, ?_⟩
  · intro d n hd
    simp [nodeAt?, empty, PathMap.get?, PathMap.find?] at hd
  · intro n m
    simp [empty, ImportGraph.Edge]
  · intro d target hget
    simp [empty, PathMap.get?, PathMap.find?] at hget

/-- A request for a target that is recorded passes the importers of the requester down to all that
the target imports. -/
theorem Traced.join {source : Path} {addressee : Addressee} (h : r.Traced requests)
    (hrequester : ∀ q ∈ requester, r.targets.contains q = true)
    (hd : r.targets.contains d = true) :
    (r.enroll source d requester addressee).1.Traced (requests ++ asked requester d) := by
  have hsubscribed : (r.subscribed d addressee).Drawn requests := by
    refine h.drawn.congr rfl fun q => ?_
    rw [nodeAt?, subscribed, PathMap.get?_modify, nodeAt?]
    by_cases hdq : d.same q <;> simp [hdq, Function.comp_def]
  have hcontains : ∀ q, (r.subscribed d addressee).targets.contains q = r.targets.contains q :=
    fun q => PathMap.contains_modify _
  have hconnected : ((r.subscribed d addressee).connectFrom requester d).Drawn
      (requests ++ asked requester d) := by
    refine hsubscribed.connectFrom (fun q hq => ?_) ?_
    · rw [hcontains, hrequester q hq]
    · rw [hcontains, hd]
  refine ⟨hconnected.congr ?_ fun q => ?_, fun x target hget => ?_⟩
  · rw [enroll_of_contains hd, imports_passDown]
  · obtain ⟨gain, hgain, -⟩ := get?_enroll_of_contains source requester addressee hd q
    rw [nodeAt?, hgain, Option.map_map, nodeAt?, targets_connectFrom, subscribed,
      PathMap.get?_modify]
    by_cases hdq : d.same q <;> simp [hdq, Function.comp_def]
  · obtain ⟨gain, hgain, hparents, hordered⟩ := get?_enroll_of_contains source
      requester addressee hd x
    rw [hget] at hgain
    obtain ⟨old, hold, rfl⟩ := Option.map_eq_some_iff.1 hgain.symm
    obtain ⟨hbefore, hold_ordered⟩ := h.informed x old hold
    refine ⟨fun p => ?_, hordered _ hold_ordered⟩
    have hx : ((r.subscribed d addressee).connectFrom requester d).targets.contains x = true := by
      rw [targets_connectFrom, hcontains]
      exact PathMap.contains_iff.2 ⟨old, hold⟩
    have hd' : ((r.subscribed d addressee).connectFrom requester d).targets.contains d = true := by
      rw [targets_connectFrom, hcontains, hd]
    simp only [hparents, Bool.or_eq_true, Bool.and_eq_true, hbefore,
      hconnected.any_reach hd' hx, h.informed.contains_inherited hrequester, Bool.not_eq_true',
      Bool.eq_false_iff, ne_eq, Path.same_iff, transGen_append]
    tauto

/-- A request for a target that is not recorded makes a record that inherits the importers of the
requester. -/
theorem Traced.create {source : Path} {addressee : Addressee} (h : r.Traced requests)
    (hrequester : ∀ q ∈ requester, r.targets.contains q = true)
    (hd : r.targets.contains d = false) :
    (r.enroll source d requester addressee).1.Traced (requests ++ asked requester d) := by
  have hunrecorded : ∀ x, r.targets.contains x = true → x.components ≠ d.components := by
    intro x hx hxd
    rw [PathMap.contains_congr hxd, hd] at hx
    contradiction
  -- No request was made for the new target, and none on its behalf.
  have hin : ∀ a, ¬ TransGen (Leads requests) a d.components := by
    intro a hchain
    obtain ⟨b, -, request, hrequest, -, hend⟩ := TransGen.tail'_iff.1 hchain
    exact hunrecorded _ (h.drawn.ends request hrequest).2 hend
  have hout : ∀ b, ReflTransGen (Leads (requests ++ asked requester d)) d.components b →
      b = d.components := by
    intro b hchain
    rcases ReflTransGen.cases_head hchain with heq | ⟨c, hleads, -⟩
    · exact heq.symm
    · exfalso
      rcases (leads_append _ _).1 hleads with ⟨request, hrequest, hstart, -⟩ | ⟨⟨q, hq, hqd⟩, -⟩
      · exact hunrecorded _ (h.drawn.ends request hrequest).1 hstart
      · exact hunrecorded q (hrequester q hq) hqd
  have hkept : ∀ q, r.targets.contains q = true →
      (r.recorded source d requester addressee).targets.contains q = true := by
    intro q hq
    rw [recorded, PathMap.contains_insert, hq, Bool.or_true]
  have hself : (r.recorded source d requester addressee).targets.contains d = true := by
    rw [recorded, PathMap.contains_insert, Path.same_self, Bool.true_or]
  refine ⟨?_, fun x target hget => ?_⟩
  · rw [enroll_of_not_contains hd]
    exact (h.drawn.recorded hd).connectFrom (fun q hq => hkept q (hrequester q hq)) hself
  · rw [get?_enroll_of_not_contains hd] at hget
    by_cases hdx : d.same x
    · rw [if_pos hdx, Option.some.injEq] at hget
      rw [← hget]
      refine ⟨fun p => ?_, (h.informed.ordered_inherited requester).erase d⟩
      simp only [newTarget, PathSet.contains_erase, Bool.and_eq_true, Bool.not_eq_true',
        Bool.eq_false_iff, ne_eq, Path.same_iff, h.informed.contains_inherited hrequester,
        ← Path.same_iff.1 hdx, transGen_append, hin, false_or, and_true, ReflTransGen.refl,
        eq_comm (a := d.components)]
    · rw [if_neg hdx] at hget
      obtain ⟨hbefore, hordered⟩ := h.informed x target hget
      refine ⟨fun p => ?_, hordered⟩
      rw [hbefore, transGen_append]
      apply and_congr_right
      intro _
      constructor
      · exact Or.inl
      · rintro (hchain | ⟨-, hright⟩)
        · exact hchain
        · exact absurd (Path.same_iff.2 (hout _ hright).symm) hdx

theorem Traced.reopen (h : r.Traced requests) (p : Path) (addressee : Addressee) :
    (r.reopen p addressee).1.Traced requests := by
  apply h.congr (imports_reopen ..)
  intro q
  rcases reopen_cases r p addressee with ⟨d, target, -, hget, -, -, hafter⟩ |
    ⟨d, target, -, hget, -, -, hafter⟩ | hunknown
  · by_cases hdq : d.same q
    · simp [hafter, hdq, ← PathMap.get?_congr (Path.same_iff.1 hdq), hget]
    · simp [hafter, hdq]
  · by_cases hdq : d.same q
    · simp [hafter, hdq, ← PathMap.get?_congr (Path.same_iff.1 hdq), hget]
    · simp [hafter, hdq]
  · rw [hunknown]

theorem Traced.close (h : r.Traced requests) (d : Path) (succeeded : Bool) :
    (r.close d succeeded).1.Traced requests := by
  apply h.congr (imports_close ..)
  intro q
  rw [get?_close, Option.map_map]
  congr 1
  funext target
  simp only [Function.comp_apply]
  split <;> rfl

/-- The importers of a recorded target are those from which a chain of requests leads to it. -/
theorem Traced.importersOf (h : r.Traced requests) (hd : r.targets.contains d = true) :
    (r.importersOf d).Pairwise (fun p q => compare p.components q.components = .lt) ∧
    ∀ p : Path, (∃ k ∈ r.importersOf d, k.components = p.components) ↔
      p.components ≠ d.components ∧ TransGen (Leads requests) p.components d.components := by
  obtain ⟨target, hget⟩ := PathMap.contains_iff.1 hd
  obtain ⟨hparents, hordered⟩ := h.informed d target hget
  have himporters : r.importersOf d = target.parents.items := by
    simp [Register.importersOf, target?, recordedAs?, hd, hget]
  rw [himporters]
  refine ⟨hordered, fun p => ?_⟩
  rw [← PathSet.contains_iff, hparents]

end Parents

/-- Whoever asks on behalf of a target asks on behalf of one that is recorded. -/
def Call.Legal (r : Register) : Call → Prop
  | .enroll _ _ requester _ => ∀ q ∈ requester, r.targets.contains q = true
  | _ => True

end LiveBuild.Register

namespace LiveBuild.Register.Journal

open Relation

def Legal (j : Journal) : List Call → Prop
  | [] => True
  | call :: rest => call.Legal j.register ∧ (j.next call).Legal rest

/-- The requester and the destination of each request that names a requester. -/
def requests (j : Journal) : List (Path × Path) :=
  j.past.flatMap fun entry =>
    match entry.1 with
    | .enroll _ dest requester _ => asked requester dest
    | _ => []

theorem traced_next {j : Journal} {call : Call} (h : j.register.Traced j.requests)
    (hcall : call.Legal j.register) :
    (j.next call).register.Traced (j.next call).requests := by
  cases call with
  | reset => exact traced_empty
  | look p => simpa [next, act, requests] using h
  | enroll source dest requester addressee =>
      have hrequests : (j.next (.enroll source dest requester addressee)).requests =
          j.requests ++ asked requester dest := by
        simp [next, requests]
      rw [hrequests]
      cases hcontains : j.register.targets.contains dest with
      | true => exact h.join hcall hcontains
      | false => exact h.create hcall hcontains
  | reopen p addressee =>
      have hrequests : (j.next (.reopen p addressee)).requests = j.requests := by
        simp [next, requests]
      rw [hrequests]
      exact h.reopen p addressee
  | close dest succeeded =>
      have hrequests : (j.next (.close dest succeeded)).requests = j.requests := by
        simp [next, requests]
      rw [hrequests]
      exact h.close dest succeeded

theorem traced_run {j : Journal} (calls : List Call) (hlegal : j.Legal calls)
    (h : j.register.Traced j.requests) :
    (j.run calls).register.Traced (j.run calls).requests := by
  induction calls generalizing j with
  | nil => exact h
  | cons call rest ih => exact ih hlegal.2 (traced_next h hlegal.1)

/-- **The importers of a target are those that the requests say.** After any calls on an empty
register, the importers of a recorded destination are the recorded destinations from which a chain
of requests leads to it, except itself, in path order and each once. -/
theorem mem_importersOf (calls : List Call) (hlegal : Legal {} calls) (d : Path)
    (hd : (run {} calls).register.targets.contains d = true) :
    ((run {} calls).register.importersOf d).Pairwise
      (fun p q => compare p.components q.components = .lt) ∧
    ∀ p, (∃ k ∈ (run {} calls).register.importersOf d, k.components = p.components) ↔
      (run {} calls).register.targets.contains p = true ∧ p.components ≠ d.components ∧
        TransGen (Leads (run {} calls).requests) p.components d.components := by
  have htraced : (run {} calls).register.Traced (run {} calls).requests :=
    traced_run calls hlegal traced_empty
  obtain ⟨target, hget⟩ := PathMap.contains_iff.1 hd
  obtain ⟨hparents, hordered⟩ := htraced.informed d target hget
  have himporters : (run {} calls).register.importersOf d = target.parents.items := by
    simp [importersOf, target?, recordedAs?, hd, hget]
  rw [himporters]
  refine ⟨hordered, fun p => ?_⟩
  rw [← PathSet.contains_iff, hparents]
  constructor
  · rintro ⟨hne, hchain⟩
    exact ⟨htraced.drawn.contains_of_transGen hchain, hne, hchain⟩
  · exact And.right

/-- Two targets that import each other, and one of them itself: the second request for `/out/a`
finds the cycle. -/
def cycle : List Call :=
  [.enroll "/a" "/out/a" none ⟨1, 0⟩, .enroll "/b" "/out/b" (some "/out/a") ⟨1, 0⟩,
    .enroll "/a" "/out/a" (some "/out/b") ⟨1, 0⟩, .close "/out/b" true,
    .enroll "/a" "/out/a" (some "/out/a") ⟨2, 0⟩]

theorem mem_importersOf_cycle :
    Legal {} cycle ∧ (run {} cycle).register.targets.contains "/out/a" = true ∧
    ((run {} cycle).register.importersOf "/out/a").Pairwise
      (fun p q => compare p.components q.components = .lt) ∧
    ∀ p : Path, (∃ k ∈ (run {} cycle).register.importersOf "/out/a",
        k.components = p.components) ↔
      (run {} cycle).register.targets.contains p = true ∧
        p.components ≠ (Path.ofString "/out/a").components ∧
        TransGen (Leads (run {} cycle).requests) p.components
          (Path.ofString "/out/a").components := by
  have hlegal : Legal {} cycle := by
    refine ⟨?_, ?_, ?_, trivial, ?_, trivial⟩ <;> rintro q ⟨⟩
    all_goals decide
  have hd : (run {} cycle).register.targets.contains "/out/a" = true := by decide
  exact ⟨hlegal, hd, mem_importersOf cycle hlegal "/out/a" hd⟩

end LiveBuild.Register.Journal
