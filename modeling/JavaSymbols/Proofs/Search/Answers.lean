import JavaSymbols.Proofs.Search.Preorder

/-!
# The answer of a search

A search that stops at the first answer has seen nodes in the same order as one
that goes on to the end.  So its answer is that of the first node which answers,
among all that the longer search collects.
-/

namespace JavaSymbols.Search

variable {Node Key Answer : Type} [DecidableEq Key]
variable {key : Node → Key} {visit : Node → Option Answer} {successors : Node → List Node}

/-- Where a search that stops at an answer has come to, next to all nodes that it
would have seen. -/
structure Stops (visit : Node → Option Answer) (seen all : List Node)
    (result : List Node × Option Answer) : Prop where
  first : ∃ new, all = seen ++ new ∧ result.2 = new.findSome? visit
  whole : result.2 = none → result.1 = all

omit [DecidableEq Key] in
theorem stops_at_once (seen : List Node) : Stops visit seen seen (seen, none) where
  first := ⟨[], (List.append_nil seen).symm, rfl⟩
  whole _ := rfl

omit [DecidableEq Key] in
theorem stops_follow {explore : List Node → Node → Id (List Node × Option Answer)}
    {collect : List Node → Node → Id (List Node × Option Empty)}
    (each : ∀ seen node, Stops visit seen (collect seen node).1 (explore seen node)) (node : Node)
    (nexts : List Node) : ∀ seen, Stops visit seen
      ((collecting key successors).follow collect node seen nexts).1
      ((plain key visit successors).follow explore node seen nexts) := by
  induction nexts with
  | nil =>
      intro seen
      exact stops_at_once seen
  | cons next rest ih =>
      intro seen
      rcases each seen next with ⟨⟨new, isNew, answered⟩, whole⟩
      rcases ih (collect seen next).1 with ⟨⟨more, isMore, answeredMore⟩, wholeMore⟩
      rw [collecting_follow_cons, follow_cons]
      rcases ran : explore seen next with ⟨last, answer⟩
      rw [ran] at answered whole
      change answer = _ at answered
      cases answer with
      | some answer =>
          constructor
          · refine ⟨new ++ more, ?_, ?_⟩
            · rw [isMore, isNew, List.append_assoc]
            · rw [List.findSome?_append, ← answered]
              rfl
          · nofun
      | none =>
          have same : last = (collect seen next).1 := whole rfl
          subst same
          constructor
          · refine ⟨new ++ more, ?_, ?_⟩
            · rw [isMore, isNew, List.append_assoc]
            · rw [List.findSome?_append, ← answered]
              exact answeredMore
          · exact wholeMore

theorem stops_explore (depth : Nat) : ∀ seen node, Stops visit seen
    ((collecting key successors).explore depth seen node).1
    ((plain key visit successors).explore depth seen node) := by
  induction depth with
  | zero =>
      intro seen node
      exact stops_at_once seen
  | succ depth ih =>
      intro seen node
      by_cases isSeen : key node ∈ seen.map key
      · rw [explore_of_seen isSeen, explore_of_seen isSeen]
        exact stops_at_once seen
      · have below : Stops visit (seen ++ [node])
            ((collecting key successors).follow ((collecting key successors).explore depth) node
              (seen ++ [node]) (successors node)).1
            ((plain key visit successors).follow ((plain key visit successors).explore depth) node
              (seen ++ [node]) (successors node)) :=
          stops_follow ih node (successors node) (seen ++ [node])
        rw [explore_succ_of_silent isSeen rfl]
        rcases below with ⟨⟨new, isNew, answered⟩, whole⟩
        cases answers : visit node with
        | some answer =>
            rw [explore_succ_of_answer isSeen answers]
            constructor
            · refine ⟨node :: new, ?_, ?_⟩
              · rw [isNew, List.append_assoc]
                rfl
              · rw [List.findSome?_cons, answers]
            · nofun
        | none =>
            rw [explore_succ_of_silent isSeen answers]
            constructor
            · refine ⟨node :: new, ?_, ?_⟩
              · rw [isNew, List.append_assoc]
                rfl
              · rw [List.findSome?_cons, answers]
                exact answered
            · exact whole

/-- A search gives the first answer among the nodes that it would collect. -/
theorem run_eq_findSome? (depth : Nat) (start : Node) :
    ((plain key visit successors).run depth start).2 =
      ((collecting key successors).run depth start).1.findSome? visit := by
  have stops : Stops visit [] ((collecting key successors).explore depth [] start).1
      ((plain key visit successors).explore depth [] start) := stops_explore depth [] start
  rcases stops.first with ⟨new, isNew, answered⟩
  rw [List.nil_append] at isNew
  rw [run, run, isNew]
  exact answered

/-- Nodes that stand for places are collected as the places are, when they have the
keys and the successors of their places. -/
theorem map_run {Place : Type} {place : Node → Place} {spot : Place → Key}
    {placesAbove : Place → List Place} {Within : Node → Prop}
    (keyed : ∀ node, key node = spot (place node))
    (steps : ∀ node, Within node → (successors node).map place = placesAbove (place node))
    (within : ∀ node, Within node → ∀ next ∈ successors node, Within next) (depth : Nat)
    {start : Node} (here : Within start) :
    ((collecting key successors).run depth start).1.map place =
      ((collecting spot placesAbove).run depth (place start)).1 := by
  have faulty : Faulty key (fun node => .ok (successors node)) (fun _ next => .ok next) spot
      placesAbove place (fun _ => False) Within := by
    constructor
    · exact keyed
    · intro node inside _
      refine ⟨successors node, rfl, ?_⟩
      rw [← steps node inside, List.forall₂_map_right_iff, List.forall₂_same]
      intro next member
      exact ⟨next, rfl, rfl, within node inside next member⟩
    · intro node _ flawed
      exact flawed.elim
  have paced := paced_explore faulty depth [] start here
  rw [outline_explore_of_graph, List.map_nil] at paced
  rw [run, run]
  generalize (collecting key successors).explore depth [] start = found at paced
  generalize (collecting spot placesAbove).explore depth [] (place start) = places at paced
  cases paced with
  | value fine => rfl

end JavaSymbols.Search
