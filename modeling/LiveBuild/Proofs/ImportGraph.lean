import LiveBuild.Build.Graph
import Mathlib.Logic.Relation
import Mathlib.Tactic.Common

/-!
# What a search of an import graph finds

The search is bounded by a number of steps. Every step takes one node off the stack, and an edge
puts a node on the stack at most once, so the bound is never reached and the search finds exactly
what can be reached along edges.
-/

namespace LiveBuild.ImportGraph

open Relation

variable {g : ImportGraph} {a b node : Nat} {visited stack : List Nat}

/-- There is an edge from one node to another. -/
def Edge (g : ImportGraph) (a b : Nat) : Prop := (a, b) ∈ g.edges

theorem mem_successors : b ∈ g.successors a ↔ g.Edge a b := by
  rw [successors, List.mem_filterMap, Edge]
  constructor
  · rintro ⟨⟨source, target⟩, hmem, htarget⟩
    by_cases hsource : source = a
    · simp only [hsource, ↓reduceIte, Option.some.injEq] at htarget
      rwa [← htarget, ← hsource]
    · simp [hsource] at htarget
  · intro hmem
    exact ⟨(a, b), hmem, by simp⟩

theorem edge_addEdge (source target : Nat) :
    (g.addEdge source target).Edge a b ↔ (a = source ∧ b = target) ∨ g.Edge a b := by
  by_cases hcontains : g.edges.contains (source, target)
  · rw [addEdge, if_pos hcontains]
    constructor
    · exact Or.inr
    · rintro (⟨rfl, rfl⟩ | hedge)
      · exact List.contains_iff_mem.1 hcontains
      · exact hedge
  · rw [addEdge, if_neg hcontains]
    simp only [Edge, List.mem_append, List.mem_singleton, Prod.mk.injEq]
    exact or_comm

/-- How many edges start at nodes that were not visited. -/
def openEdges (g : ImportGraph) (visited : List Nat) : Nat :=
  g.edges.countP fun edge => edge.1 ∉ visited

theorem openEdges_visit (h : node ∉ visited) :
    g.openEdges (visited ++ [node]) + (g.successors node).length = g.openEdges visited := by
  rw [openEdges, openEdges, successors]
  induction g.edges with
  | nil => rfl
  | cons edge rest ih =>
      simp only [List.countP_cons, List.filterMap_cons, List.mem_append, List.mem_singleton, not_or,
        Bool.decide_and] at ih ⊢
      by_cases hsource : edge.1 = node
      · simp only [hsource, h, ↓reduceIte, List.length_cons, not_true_eq_false, not_false_eq_true,
          decide_true, decide_false, Bool.and_false, Bool.false_eq_true]
        omega
      · by_cases hvisited : edge.1 ∈ visited
        · simpa [hsource, hvisited] using ih
        · simp only [hsource, hvisited, ↓reduceIte, not_false_eq_true, decide_true, Bool.and_true]
          omega

/-- Every edge from a visited node leads to a visited node or to one on the stack. -/
def Frontier (g : ImportGraph) (visited stack : List Nat) : Prop :=
  ∀ a ∈ visited, ∀ b, g.Edge a b → b ∈ visited ∨ b ∈ stack

theorem Frontier.visit (h : g.Frontier visited (node :: stack)) :
    g.Frontier (visited ++ [node]) (g.successors node ++ stack) := by
  intro a ha b hedge
  rcases List.mem_append.1 ha with ha | ha
  · rcases h a ha b hedge with hb | hb
    · exact Or.inl (List.mem_append_left _ hb)
    · rcases List.mem_cons.1 hb with rfl | hb
      · exact Or.inl (by simp)
      · exact Or.inr (List.mem_append_right _ hb)
  · rw [List.mem_singleton.1 ha] at hedge
    exact Or.inr (List.mem_append_left _ (mem_successors.2 hedge))

theorem Frontier.skip (h : g.Frontier visited (node :: stack)) (hnode : node ∈ visited) :
    g.Frontier visited stack := by
  intro a ha b hedge
  rcases h a ha b hedge with hb | hb
  · exact Or.inl hb
  · rcases List.mem_cons.1 hb with rfl | hb
    · exact Or.inl hnode
    · exact Or.inr hb

/-- With enough steps a search ends with everything that it was to look at, and with all that edges
lead to from there. -/
theorem search_closed (fuel : Nat) (hfuel : stack.length + g.openEdges visited ≤ fuel)
    (hfrontier : g.Frontier visited stack) :
    visited ⊆ g.search fuel visited stack ∧ stack ⊆ g.search fuel visited stack ∧
      g.Frontier (g.search fuel visited stack) [] := by
  induction fuel generalizing visited stack with
  | zero =>
      obtain rfl : stack = [] := List.length_eq_zero_iff.1 (by omega)
      exact ⟨List.Subset.refl _, List.nil_subset _, hfrontier⟩
  | succ fuel ih =>
      cases stack with
      | nil => exact ⟨List.Subset.refl _, List.nil_subset _, hfrontier⟩
      | cons node rest =>
          rw [List.length_cons] at hfuel
          by_cases hnode : node ∈ visited
          · rw [search, if_pos (List.contains_iff_mem.2 hnode)]
            obtain ⟨hvisited, hrest, hclosed⟩ := ih (by omega) (hfrontier.skip hnode)
            exact ⟨hvisited, List.cons_subset.2 ⟨hvisited hnode, hrest⟩, hclosed⟩
          · rw [search, if_neg (by simpa using hnode)]
            have hopen := openEdges_visit (g := g) hnode
            obtain ⟨hvisited, hrest, hclosed⟩ := ih
              (by rw [List.length_append]; omega) hfrontier.visit
            refine ⟨fun a ha => hvisited (List.mem_append_left _ ha), ?_, hclosed⟩
            exact List.cons_subset.2 ⟨hvisited (by simp),
              fun a ha => hrest (List.mem_append_right _ ha)⟩

theorem search_sound {P : Nat → Prop} (hedge : ∀ a b, P a → g.Edge a b → P b) (fuel : Nat)
    (hvisited : ∀ a ∈ visited, P a) (hstack : ∀ a ∈ stack, P a) :
    ∀ a ∈ g.search fuel visited stack, P a := by
  induction fuel generalizing visited stack with
  | zero => exact hvisited
  | succ fuel ih =>
      cases stack with
      | nil => exact hvisited
      | cons node rest =>
          obtain ⟨hnode, hrest⟩ := List.forall_mem_cons.1 hstack
          rw [search]
          split
          · exact ih hvisited hrest
          · refine ih ?_ ?_
            · intro a ha
              rcases List.mem_append.1 ha with ha | ha
              · exact hvisited a ha
              · rwa [List.mem_singleton.1 ha]
            · intro a ha
              rcases List.mem_append.1 ha with ha | ha
              · exact hedge node a hnode (mem_successors.1 ha)
              · exact hrest a ha

/-- The search finds exactly the nodes that edges lead to. -/
theorem mem_reachable : b ∈ g.reachable a ↔ ReflTransGen g.Edge a b := by
  constructor
  · refine fun hb => search_sound (fun x y hx hxy => hx.tail hxy) _ (by simp) ?_ b hb
    intro c hc
    rw [List.mem_singleton.1 hc]
  · intro hreach
    have hfuel : [a].length + g.openEdges [] ≤ g.edges.length + 2 := by
      have hcount : g.openEdges [] ≤ g.edges.length := List.countP_le_length
      simp only [List.length_cons, List.length_nil]
      omega
    obtain ⟨-, hstart, hclosed⟩ := search_closed _ hfuel (by simp [Frontier])
    induction hreach with
    | refl => exact hstart (by simp)
    | tail _ hedge ih => exact (hclosed _ ih _ hedge).resolve_right (by simp)

end LiveBuild.ImportGraph
