import LiveBuild.Path.Basic

/-!
# Import graphs

A directed graph over numbered nodes, each labelled with a path. Edges point from the importer to
what it imports.
-/

namespace LiveBuild

structure ImportGraph where
  nodes : List Path := []
  edges : List (Nat × Nat) := []
deriving Inhabited

namespace ImportGraph

def empty : ImportGraph := {}

def addNode (g : ImportGraph) (label : Path) : ImportGraph × Nat :=
  ({ g with nodes := g.nodes ++ [label] }, g.nodes.length)

def addEdge (g : ImportGraph) (source target : Nat) : ImportGraph :=
  if g.edges.contains (source, target) then g
  else { g with edges := g.edges ++ [(source, target)] }

def successors (g : ImportGraph) (node : Nat) : List Nat :=
  g.edges.filterMap fun edge => if edge.1 = node then some edge.2 else none

/-- Depth-first search: the nodes visited so far, and those still to be looked at. -/
def search (g : ImportGraph) : Nat → List Nat → List Nat → List Nat
  | 0, visited, _ => visited
  | _, visited, [] => visited
  | fuel + 1, visited, node :: rest =>
      if visited.contains node then
        g.search fuel visited rest
      else
        g.search fuel (visited ++ [node]) (g.successors node ++ rest)

/-- All nodes that can be reached from a node along edges, itself among them. Every edge is followed
at most once, which bounds the search. -/
def reachable (g : ImportGraph) (node : Nat) : List Nat :=
  g.search (g.edges.length + 2) [] [node]

def label? (g : ImportGraph) (node : Nat) : Option Path := g.nodes[node]?

end ImportGraph

end LiveBuild
