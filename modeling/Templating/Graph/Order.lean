import Templating.Graph

/-!
# Ordering a graph

A depth-first search puts every node after its dependencies. Nodes are taken up in batch order, so
an entry moves forward only when one that stands before it needs it. A search that meets a node of
its own path has found a cycle.
-/

namespace Templating.Graph

inductive Mark where
  | inProgress
  | done
  deriving DecidableEq

structure Search where
  marks : NameMap Mark
  /-- The nodes that are in progress, from the outermost. -/
  path : List String
  /-- The nodes that are done, in the order in which they were finished. -/
  order : List String

namespace Search

def start : Search := ⟨NameMap.empty, [], []⟩

def enter (search : Search) (node : String) : Search :=
  { search with marks := search.marks.insert node .inProgress, path := search.path ++ [node] }

def leave (search : Search) (node : String) : Search :=
  { marks := search.marks.insert node .done
    path := search.path.dropLast
    order := search.order ++ [node] }

/-- The names along the cycle that `node` closes, with `node` at both ends. -/
def cycle (search : Search) (node : String) : List String :=
  search.path.drop ((search.path.idxOf? node).getD 0) ++ [node]

end Search

/-- Visits a node and everything that it needs, at most `depth` nodes deep; gives the names along a
cycle if it meets one. -/
def visit (graph : Graph) : Nat → Search → String → Except (List String) Search
  | depth, search, node =>
      match search.marks.get? node, depth with
      | some .done, _ => .ok search
      | some .inProgress, _ => .error (search.cycle node)
      | none, 0 => .ok search
      | none, depth + 1 =>
          ((graph.successors node).foldlM (visit graph depth) (search.enter node)).map
            fun search => search.leave node

/-- Visits all nodes. No path holds a node twice, so it is never longer than their number. -/
def search (graph : Graph) : Except (List String) Search :=
  graph.nodes.foldlM (visit graph graph.edges.size) .start

/-- The nodes, each after those that it depends on. -/
def topologicalOrder (graph : Graph) : Except TemplateError (List String) :=
  match graph.search with
  | .ok search => .ok search.order
  | .error chain => .error (.circularDependency chain)

end Templating.Graph
