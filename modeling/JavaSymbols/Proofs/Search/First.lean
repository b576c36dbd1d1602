import JavaSymbols.Proofs.Search.Plain

/-!
# The first way to a goal

A depth-first search tries the successors of a node in order.  It comes to a
goal along the first way there is: at each node through the first successor from
which a goal can be reached.  Nodes that have been seen are not entered again,
but in an acyclic graph no way is lost by that.
-/

namespace JavaSymbols.Search

open Relation

variable {Node Key Answer : Type}

/-- One node leads to another along successors. -/
def Leads (successors : Node → List Node) : Node → Node → Prop :=
  ReflTransGen fun a b => b ∈ successors a

/-- A goal can be reached from a node. -/
def Reaches (successors : Node → List Node) (goal : Node → Prop) (node : Node) : Prop :=
  ∃ final, Leads successors node final ∧ goal final

/-- A goal that a node comes to along the first way there is. -/
inductive First (successors : Node → List Node) (goal : Node → Prop) : Node → Node → Prop where
  | here {node : Node} (hit : goal node) : First successors goal node node
  | step {node next final : Node} {before after : List Node} (missed : ¬ goal node)
      (given : successors node = before ++ next :: after)
      (misses : ∀ other ∈ before, ¬ Reaches successors goal other)
      (onward : First successors goal next final) : First successors goal node final

section

variable {successors : Node → List Node} {goal : Node → Prop} {node final : Node}

theorem First.leads (first : First successors goal node final) : Leads successors node final := by
  induction first with
  | here hit => exact .refl
  | step missed given misses onward ih => exact .head (by rw [given]; simp) ih

theorem First.hits (first : First successors goal node final) : goal final := by
  induction first with
  | here hit => exact hit
  | step missed given misses onward ih => exact ih

theorem First.reaches (first : First successors goal node final) :
    Reaches successors goal node :=
  ⟨final, first.leads, first.hits⟩

end

variable [DecidableEq Key] {key : Node → Key} {visit : Node → Option Answer}
variable {successors : Node → List Node} {Within : Node → Prop} {keys : List Key}
variable {goal : Node → Prop}

/-- A graph without cycles in which it depends on the key of a node alone
whether a goal can be reached, and in which only goals answer. -/
structure Directed (key : Node → Key) (visit : Node → Option Answer)
    (successors : Node → List Node) (Within : Node → Prop) (keys : List Key)
    (goal : Node → Prop) : Prop where
  region : Region key successors Within keys
  acyclic : ∀ lower upper, Within lower →
    TransGen (fun a b => b ∈ successors a) lower upper → key lower ≠ key upper
  keyed : ∀ node twin, Within node → Within twin → key node = key twin →
    Reaches successors goal node → Reaches successors goal twin
  silent : ∀ node, Within node → ¬ goal node → visit node = none

/-- A search has come to a goal: it has seen it, and answers as the goal does, if
that answers. -/
def CameTo (visit : Node → Option Answer) (final : Node)
    (result : List Node × Option Answer) : Prop :=
  final ∈ result.1 ∧ ∀ answer, visit final = some answer → result.2 = some answer

/-- Nodes seen before a node is explored from which a goal can be reached are
those that lead to the node. -/
def Approached (successors : Node → List Node) (goal : Node → Prop) (seen : List Node)
    (node : Node) : Prop :=
  ∀ other ∈ seen, Reaches successors goal other →
    TransGen (fun a b => b ∈ successors a) other node

/-- Going on to a successor of the node. -/
theorem Approached.push {seen : List Node} {node next : Node}
    (approached : Approached successors goal seen node) (isNext : next ∈ successors node) :
    Approached successors goal (seen ++ [node]) next := by
  intro other isSeen reaches
  rcases List.mem_append.mp isSeen with early | late
  · exact (approached other early reaches).tail isNext
  · rw [List.mem_singleton.mp late]
    exact .single isNext

/-- Nodes that do not lead to a goal make no difference. -/
theorem Approached.append {seen new : List Node} {node : Node}
    (approached : Approached successors goal seen node)
    (hopeless : ∀ found ∈ new, ¬ Reaches successors goal found) :
    Approached successors goal (seen ++ new) node := by
  intro other isSeen reaches
  rcases List.mem_append.mp isSeen with early | late
  · exact approached other early reaches
  · exact absurd reaches (hopeless other late)

omit [DecidableEq Key] in
theorem Directed.unseen (directed : Directed key visit successors Within keys goal)
    {seen : List Node} {node final : Node} (within : Within node)
    (inside : ∀ other ∈ seen, Within other) (first : First successors goal node final)
    (approached : Approached successors goal seen node) : key node ∉ seen.map key := by
  intro isSeen
  obtain ⟨twin, member, same⟩ := List.mem_map.mp isSeen
  have reaches := directed.keyed node twin within (inside twin member) same.symm first.reaches
  exact directed.acyclic twin node (inside twin member) (approached twin member reaches) same

/-- Exploring a node that does not lead to a goal answers nothing and adds only
such nodes. -/
theorem Directed.explore_missed (directed : Directed key visit successors Within keys goal)
    {depth : Nat} {seen : List Node} {node : Node}
    (ready : Ready key Within (keys.length - depth) seen) (within : Within node)
    (missed : ¬ Reaches successors goal node) :
    ∃ new, (plain key visit successors).explore depth seen node = (seen ++ new, none) ∧
      Added key visit successors Within [node] seen new none ∧
      ∀ found ∈ new, ¬ Reaches successors goal found := by
  obtain ⟨new, reached, added⟩ := (explore_adds directed.region depth).adds ready within
  have hopeless : ∀ found ∈ new, ¬ Reaches successors goal found := by
    rintro found isNew ⟨last, leads, hit⟩
    obtain ⟨start, isStart, path⟩ := added.reached found isNew
    rw [List.mem_singleton.mp isStart] at path
    exact missed ⟨last, path.trans leads, hit⟩
  rcases ran : (plain key visit successors).explore depth seen node with ⟨last, answer⟩
  rw [ran] at reached added
  obtain rfl : last = seen ++ new := reached
  cases answer with
  | none => exact ⟨new, rfl, added, hopeless⟩
  | some answer =>
      obtain ⟨found, isNew, answers⟩ := added.answered answer rfl
      have apart : ¬ goal found := fun hit => hopeless found isNew ⟨found, .refl, hit⟩
      rw [directed.silent found (added.within found isNew) apart] at answers
      cases answers

/-- Following nodes comes to the goal that exploring the first of them comes to. -/
theorem Directed.follow_cameTo (directed : Directed key visit successors Within keys goal)
    {depth : Nat} {seen : List Node} {node next final : Node} {after : List Node}
    (ready : Ready key Within (keys.length - depth) seen)
    (within : ∀ other ∈ next :: after, Within other)
    (came : CameTo visit final ((plain key visit successors).explore depth seen next)) :
    CameTo visit final ((plain key visit successors).follow
      ((plain key visit successors).explore depth) node seen (next :: after)) := by
  obtain ⟨member, answers⟩ := came
  obtain ⟨new, reached, added⟩ :=
    (explore_adds directed.region depth).adds ready (within next List.mem_cons_self)
  rw [follow_cons]
  rcases ran : (plain key visit successors).explore depth seen next with ⟨last, answer⟩
  rw [ran] at member answers reached added
  cases answer with
  | some answer => exact ⟨member, answers⟩
  | none =>
      obtain rfl : last = seen ++ new := reached
      obtain ⟨more, reachedMore, _⟩ := follow_adds (explore_adds directed.region depth) node after
        (fun other listed => within other (List.mem_cons_of_mem next listed))
        (seen ++ new) (ready.append added)
      constructor
      · rw [reachedMore]
        exact List.mem_append_left more member
      · intro answer isAnswer
        cases answers answer isAnswer

/-- Following the successors of a node comes to the goal that the first of them
from which a goal can be reached comes to. -/
theorem Directed.follow_first (directed : Directed key visit successors Within keys goal)
    {depth : Nat} {node next final : Node} {after : List Node}
    (each : ∀ seen, Ready key Within (keys.length - depth) seen →
      Approached successors goal seen next →
      CameTo visit final ((plain key visit successors).explore depth seen next))
    (before : List Node) (misses : ∀ other ∈ before, ¬ Reaches successors goal other)
    (within : ∀ other ∈ before ++ next :: after, Within other) :
    ∀ seen, Ready key Within (keys.length - depth) seen → Approached successors goal seen next →
      CameTo visit final ((plain key visit successors).follow
        ((plain key visit successors).explore depth) node seen (before ++ next :: after)) := by
  induction before with
  | nil =>
      intro seen ready approached
      exact directed.follow_cameTo ready within (each seen ready approached)
  | cons other before ih =>
      intro seen ready approached
      obtain ⟨new, ran, added, hopeless⟩ := directed.explore_missed ready
        (within other List.mem_cons_self) (misses other List.mem_cons_self)
      rw [List.cons_append, follow_cons, ran]
      exact ih (fun one listed => misses one (List.mem_cons_of_mem other listed))
        (fun one listed => within one (List.mem_cons_of_mem other listed))
        (seen ++ new) (ready.append added) (approached.append hopeless)

/-- An exploration comes to the goal along the first way. -/
theorem Directed.explore_first (directed : Directed key visit successors Within keys goal)
    (depth : Nat) : ∀ seen node final, Within node → Ready key Within (keys.length - depth) seen →
      First successors goal node final → Approached successors goal seen node →
      CameTo visit final ((plain key visit successors).explore depth seen node) := by
  induction depth with
  | zero =>
      intro seen node final within ready first approached
      exact absurd (ready.isSeen directed.region within)
        (directed.unseen within ready.inside first approached)
  | succ depth ih =>
      intro seen node final within ready first approached
      have unseen := directed.unseen within ready.inside first approached
      have pushed := ready.push within unseen
      have nextWithin := directed.region.within node within
      cases answers : visit node with
      | some answer =>
          rw [explore_succ_of_answer unseen answers]
          cases first with
          | here hit => exact ⟨by simp, fun other isOther => answers.symm.trans isOther⟩
          | step missed given misses onward =>
              rw [directed.silent node within missed] at answers
              cases answers
      | none =>
          rw [explore_succ_of_silent unseen answers]
          cases first with
          | here hit =>
              obtain ⟨new, reached, _⟩ := follow_adds (explore_adds directed.region depth) node
                (successors node) nextWithin (seen ++ [node]) pushed
              constructor
              · rw [reached]
                simp
              · intro answer isAnswer
                rw [answers] at isAnswer
                cases isAnswer
          | @step _ next _ before after missed given misses onward =>
              have isNext : next ∈ successors node := by
                rw [given]
                simp
              rw [given] at nextWithin ⊢
              exact directed.follow_first
                (fun others readyOthers =>
                  ih others next final (nextWithin next (by simp)) readyOthers onward)
                before misses nextWithin (seen ++ [node]) pushed (approached.push isNext)

/-- A whole search comes to the goal along the first way. -/
theorem Directed.run_first (directed : Directed key visit successors Within keys goal)
    {depth : Nat} {start final : Node} (within : Within start) (enough : keys.length ≤ depth)
    (first : First successors goal start final) :
    CameTo visit final ((plain key visit successors).run depth start) := by
  apply directed.explore_first depth [] start final within (ready_nil enough) first
  intro other isSeen
  cases isSeen

/-- What a whole search sees and answers. -/
theorem Directed.run_adds (directed : Directed key visit successors Within keys goal)
    {depth : Nat} {start : Node} (within : Within start) (enough : keys.length ≤ depth) :
    Added key visit successors Within [start] []
      ((plain key visit successors).run depth start).1
      ((plain key visit successors).run depth start).2 :=
  Search.run_adds directed.region within enough

end JavaSymbols.Search
