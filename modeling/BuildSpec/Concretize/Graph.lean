import BuildSpec.Catalog.Package

/-!
# The discovery graph

Concretization records what it discovered and how: a node per package or virtual package, by
name, and edges from the user's request to each requested package, from a package to what it may
depend on (labelled with the phases), and from a virtual package to each provider. A node is
added once per name and an edge once per source, target and label.
-/

namespace BuildSpec

/-- What an edge of the discovery graph says. -/
inductive Graph.Label where
  /-- The user asked for the target. -/
  | requested
  /-- The source may depend on the target in these phases. -/
  | depends (phases : List Dependency.Phase)
  /-- The source is virtual and the target provides it. -/
  | providedBy
  deriving DecidableEq, Repr

/-- An edge: its source (`none` for the user's request), target and label. -/
structure Graph.Edge where
  source : Option String
  target : String
  label : Graph.Label
  deriving DecidableEq, Repr

/-- The discovery graph. Nodes are names in the order they were added, each marked virtual or
not; the user's request is a node of its own that has no name. -/
structure Graph where
  nodes : List (String × Bool) := []
  edges : List Graph.Edge := []
  deriving Repr

namespace Graph

/-- Adds a node unless one of that name exists; `isVirtual` is its kind when added. -/
def touch (g : Graph) (name : String) (isVirtual : Bool) : Graph :=
  if g.nodes.any (·.1 == name) then g else { g with nodes := g.nodes ++ [(name, isVirtual)] }

/-- Adds an edge unless an equal one exists, and tells whether it was added. -/
def addEdgeOnce (g : Graph) (e : Graph.Edge) : Graph × Bool :=
  if g.edges.contains e then (g, false) else ({ g with edges := g.edges ++ [e] }, true)

/-- The position of a node: the request is 0 and named nodes count from 1. -/
def index? (g : Graph) (name : String) : Option Nat := (g.nodes.findIdx? (·.1 == name)).map (· + 1)

/-- The name of the node at a position; the request has none. -/
def identifier? (g : Graph) (i : Nat) : Option String :=
  if i == 0 then none else (g.nodes[i - 1]?).map (·.1)

/-- Sorts names and drops repeats. -/
def sortedNames (xs : List String) : List String :=
  (xs.mergeSort (· ≤ ·)).eraseDups

/-- The packages the user asked for, in name order. -/
def requested (g : Graph) : List String :=
  sortedNames ((g.edges.filter (·.source == none)).map (·.target))

/-- The names a node has edges to, in name order. -/
def successors (g : Graph) (name : String) : List String :=
  sortedNames ((g.edges.filter (·.source == some name)).map (·.target))

/-- The number of named nodes. -/
def nodeCount (g : Graph) : Nat := g.nodes.length

/-- The number of edges. -/
def edgeCount (g : Graph) : Nat := g.edges.length

end Graph

end BuildSpec
