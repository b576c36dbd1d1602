import JavaSymbols.Proofs.Search.Plain
import JavaSymbols.Traced

/-!
# Traced searches

A search whose steps report events and may fail runs in step with the plain
search over the nodes that its edges lead to.  As long as nothing fails, both
see the same nodes and give the same answer.  When it fails, the plain search
goes on without it, and has seen the node that the fault comes from.
-/

namespace JavaSymbols.Search

variable {Node Key Edge Answer : Type} {search : Search Traced Node Key Edge Answer}
variable {visit : Node → Option Answer} {successors : Node → List Node}
variable {fails : Node → Fault → Prop} {Within : Node → Prop}

/-! ## Steps -/

/-- Edges that lead to the successors of a node one after another, up to the
first that fails. -/
inductive Advances (enter : Edge → Except Fault (Option Node)) (fails : Fault → Prop) :
    List Edge → List Node → Prop where
  | done : Advances enter fails [] []
  | step {edge : Edge} {next : Node} {edges : List Edge} {nexts : List Node}
      (entered : enter edge = .ok (some next)) (onward : Advances enter fails edges nexts) :
      Advances enter fails (edge :: edges) (next :: nexts)
  | pass {edge : Edge} {edges : List Edge} {nexts : List Node}
      (nowhere : enter edge = .ok none) (onward : Advances enter fails edges nexts) :
      Advances enter fails (edge :: edges) nexts
  | fault {edge : Edge} {edges : List Edge} {nexts : List Node} {fault : Fault}
      (failed : enter edge = .error fault) (isFault : fails fault) :
      Advances enter fails (edge :: edges) nexts

/-- Edges that never fail lead to what they lead to. -/
theorem advances_filterMap {enter : Edge → Except Fault (Option Node)} {fails : Fault → Prop}
    {leads : Edge → Option Node} {edges : List Edge}
    (entered : ∀ edge ∈ edges, enter edge = .ok (leads edge)) :
    Advances enter fails edges (edges.filterMap leads) := by
  induction edges with
  | nil => exact .done
  | cons edge rest ih =>
      have here := entered edge List.mem_cons_self
      have later := ih fun other member => entered other (List.mem_cons_of_mem edge member)
      cases lead : leads edge with
      | none =>
          rw [List.filterMap_cons_none lead]
          exact .pass (here.trans (congrArg Except.ok lead)) later
      | some next =>
          rw [List.filterMap_cons_some lead]
          exact .step (here.trans (congrArg Except.ok lead)) later

/-- A traced search whose edges lead, on the nodes it can meet, to the successors
of a plain one, unless a node has a fault. -/
structure Shadows (search : Search Traced Node Key Edge Answer) (visit : Node → Option Answer)
    (successors : Node → List Node) (fails : Node → Fault → Prop) (Within : Node → Prop) :
    Prop where
  visited : ∀ node, Within node → (search.visit node).outcome = .ok (visit node)
  entered : ∀ node, Within node → ∃ edges, (search.edges node).outcome = .ok edges ∧
    Advances (fun edge => (search.enter node edge).outcome) (fails node) edges (successors node)
  within : ∀ node, Within node → ∀ next ∈ successors node, Within next

/-- What a search comes to, next to a plain one: the same result, or a fault of a
node that the plain search has seen. -/
inductive Shadowed (fails : Node → Fault → Prop) (result : List Node × Option Answer) :
    Except Fault (List Node × Option Answer) → Prop where
  | same : Shadowed fails result (.ok result)
  | fault {origin : Node} {fault : Fault} (seen : origin ∈ result.1)
      (isFault : fails origin fault) : Shadowed fails result (.error fault)

/-! ## Runs -/

theorem shadowed_follow {explore : List Node → Node → Traced (List Node × Option Answer)}
    {plainExplore : List Node → Node → Id (List Node × Option Answer)}
    (each : ∀ seen node, Within node → Shadowed fails (plainExplore seen node)
      (explore seen node).outcome)
    (mono : ∀ seen node, ∀ other ∈ seen, other ∈ (plainExplore seen node).1)
    {node : Node} {edges : List Edge} {nexts : List Node}
    (advances : Advances (fun edge => (search.enter node edge).outcome) (fails node) edges nexts)
    (within : ∀ next ∈ nexts, Within next) :
    ∀ seen, node ∈ seen →
      Shadowed fails ((plain search.key visit successors).follow plainExplore node seen nexts)
        (search.follow explore node seen edges).outcome := by
  induction advances with
  | done => exact fun _ _ => .same
  | pass nowhere _ ih =>
      intro seen isSeen
      rw [follow, Traced.outcome_bind, nowhere]
      exact ih within seen isSeen
  | fault failed isFault =>
      intro seen isSeen
      rw [follow, Traced.outcome_bind, failed]
      exact .fault (follow_mono mono node _ seen node isSeen) isFault
  | @step edge next edges nexts entered _ ih =>
      intro seen isSeen
      have head := each seen next (within next List.mem_cons_self)
      have kept := mono seen next node isSeen
      rw [follow_cons, follow, Traced.outcome_bind, entered]
      simp only [Except.bind, Traced.outcome_bind]
      rcases result : plainExplore seen next with ⟨after, answer⟩
      rw [result] at head kept
      generalize (explore seen next).outcome = outcome at head
      cases answer with
      | some answer =>
          cases head with
          | same => exact .same
          | fault seen isFault => exact .fault seen isFault
      | none =>
          cases head with
          | same =>
              exact ih (fun other member => within other (List.mem_cons_of_mem next member)) after
                kept
          | fault seen isFault => exact .fault (follow_mono mono node _ after _ seen) isFault

variable [DecidableEq Key]

theorem Shadows.explore (shadows : Shadows search visit successors fails Within) (depth : Nat) :
    ∀ seen node, Within node →
      Shadowed fails ((plain search.key visit successors).explore depth seen node)
        (search.explore depth seen node).outcome := by
  induction depth with
  | zero => exact fun _ _ _ => .same
  | succ depth ih =>
      intro seen node inside
      by_cases isSeen : search.key node ∈ seen.map search.key
      · have found : search.isSeen seen node = true := (isSeen_iff search).mpr isSeen
        rw [explore_of_seen isSeen, Search.explore, if_pos found, Traced.outcome_pure]
        exact .same
      · have unseen : ¬ search.isSeen seen node = true := fun found =>
          isSeen ((isSeen_iff search).mp found)
        cases answers : visit node with
        | some answer =>
            rw [explore_succ_of_answer isSeen answers, Search.explore, if_neg unseen,
              Traced.outcome_bind, shadows.visited node inside, answers]
            exact .same
        | none =>
            obtain ⟨edges, listed, advances⟩ := shadows.entered node inside
            rw [explore_succ_of_silent isSeen answers, Search.explore, if_neg unseen,
              Traced.outcome_bind, shadows.visited node inside, answers]
            simp only [Except.bind, Traced.outcome_bind, listed]
            exact shadowed_follow ih (explore_mono depth) advances (shadows.within node inside)
              (seen ++ [node]) (by simp)

/-- A whole search next to the plain one. -/
theorem Shadows.run (shadows : Shadows search visit successors fails Within) (depth : Nat)
    {start : Node} (inside : Within start) :
    Shadowed fails ((plain search.key visit successors).run depth start)
      (search.run depth start).outcome :=
  shadows.explore depth [] start inside

/-- A search fails when its start gives no answer and its first edge fails. -/
theorem outcome_run_of_fault {depth : Nat} {start : Node} {edge : Edge} {rest : List Edge}
    {fault : Fault} (silent : (search.visit start).outcome = .ok none)
    (listed : (search.edges start).outcome = .ok (edge :: rest))
    (failed : (search.enter start edge).outcome = .error fault) :
    (search.run (depth + 1) start).outcome = .error fault := by
  have unseen : ¬ search.isSeen [] start = true := by simp [isSeen]
  rw [Search.run, Search.explore, if_neg unseen, Traced.outcome_bind, silent]
  simp only [Except.bind, Traced.outcome_bind, listed, follow, failed]

/-! ## Searches without faults -/

/-- A traced search gives, on the nodes it can meet, the answers and successors
of a plain one. -/
structure Mirrors (search : Search Traced Node Key Edge Answer) (visit : Node → Option Answer)
    (successors : Node → List Node) (Within : Node → Prop) : Prop where
  visited : ∀ node, Within node → (search.visit node).outcome = .ok (visit node)
  entered : ∀ node, Within node → ∃ edges, (search.edges node).outcome = .ok edges ∧
    ∃ leads : Edge → Option Node,
      (∀ edge ∈ edges, (search.enter node edge).outcome = .ok (leads edge)) ∧
      successors node = edges.filterMap leads
  within : ∀ node, Within node → ∀ next ∈ successors node, Within next

omit [DecidableEq Key] in
/-- Only the successors of nodes that can be met matter. -/
theorem Mirrors.congr (mirrors : Mirrors search visit successors Within)
    {others : Node → List Node} (agree : ∀ node, Within node → successors node = others node) :
    Mirrors search visit others Within where
  visited := mirrors.visited
  entered node inside := agree node inside ▸ mirrors.entered node inside
  within node inside := agree node inside ▸ mirrors.within node inside

omit [DecidableEq Key] in
/-- A search that mirrors a plain one is shadowed by it and never fails. -/
theorem Mirrors.shadows (mirrors : Mirrors search visit successors Within) :
    Shadows search visit successors (fun _ _ => False) Within where
  visited := mirrors.visited
  entered node inside := by
    obtain ⟨edges, listed, leads, entered, same⟩ := mirrors.entered node inside
    exact ⟨edges, listed, same ▸ advances_filterMap entered⟩
  within := mirrors.within

/-- The outcome of a whole traced search. -/
theorem Mirrors.outcome_run (mirrors : Mirrors search visit successors Within) (depth : Nat)
    {start : Node} (inside : Within start) :
    (search.run depth start).outcome =
      .ok ((plain search.key visit successors).run depth start) := by
  have shadowed := mirrors.shadows.run depth inside
  generalize (search.run depth start).outcome = outcome at shadowed
  cases shadowed with
  | same => rfl
  | fault _ isFault => exact isFault.elim

end JavaSymbols.Search
