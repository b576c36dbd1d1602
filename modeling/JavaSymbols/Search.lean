/-!
# Depth-first search

A search visits the nodes of a graph depth first, in the order in which edges
are listed, and enters no node whose key it has seen.  It stops at the first
node that gives an answer.  Visiting, listing edges and entering them may have
effects, so the search runs in any monad.

The number of steps into the depth is bounded.  Every step sees a new key, so a
bound above the number of keys is never reached.
-/

namespace JavaSymbols

universe u

/-- How the nodes of a graph are searched in a monad. -/
structure Search (m : Type → Type u) (Node Key Edge Answer : Type) where
  /-- Nodes with equal keys count as one. -/
  key : Node → Key
  /-- Look at a node; an answer ends the search. -/
  visit : Node → m (Option Answer)
  /-- The edges out of a node. -/
  edges : Node → m (List Edge)
  /-- Follow an edge out of a node; it may lead nowhere. -/
  enter : Node → Edge → m (Option Node)

namespace Search

variable {m : Type → Type u} [Monad m] {Node Key Edge Answer : Type} [DecidableEq Key]

/-- Whether a node with this node's key is among those seen. -/
def isSeen (search : Search m Node Key Edge Answer) (seen : List Node) (node : Node) : Bool :=
  seen.any fun other => decide (search.key other = search.key node)

/-- Follow the edges out of a node one after another, exploring each node they
lead to, until there is an answer. -/
def follow (search : Search m Node Key Edge Answer)
    (explore : List Node → Node → m (List Node × Option Answer)) (node : Node) :
    List Node → List Edge → m (List Node × Option Answer)
  | seen, [] => pure (seen, none)
  | seen, edge :: rest => do
      match ← search.enter node edge with
      | none => search.follow explore node seen rest
      | some next =>
          match ← explore seen next with
          | (seen, some answer) => pure (seen, some answer)
          | (seen, none) => search.follow explore node seen rest

/-- Explore a node and what can be reached from it, unless it has been seen.
The result lists all nodes seen so far in the order of their first visits. -/
def explore (search : Search m Node Key Edge Answer) :
    (depth : Nat) → List Node → Node → m (List Node × Option Answer)
  | 0, seen, _ => pure (seen, none)
  | depth + 1, seen, node =>
      if search.isSeen seen node then pure (seen, none)
      else do
        let seen := seen ++ [node]
        match ← search.visit node with
        | some answer => pure (seen, some answer)
        | none => do
            let edges ← search.edges node
            search.follow (search.explore depth) node seen edges

/-- Search from a node to a depth: the nodes seen, in order, and the answer. -/
def run (search : Search m Node Key Edge Answer) (depth : Nat) (start : Node) :
    m (List Node × Option Answer) :=
  search.explore depth [] start

end Search

end JavaSymbols
