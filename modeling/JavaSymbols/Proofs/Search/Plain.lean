import Mathlib.Data.List.Nodup
import Mathlib.Data.List.Perm.Subperm
import Mathlib.Logic.Relation
import JavaSymbols.Search

/-!
# Search without effects

A plain search walks a graph whose successor lists are known beforehand.  Every
exploration adds nodes with new keys to those seen before.  The nodes it adds
are reachable, and when it ends without an answer, none of them has one and all
of their successors have been seen.

The depth of a search bounds the keys that may still be new, so a search to a
depth above the number of keys is exact: it answers just when a reachable node
does.
-/

namespace JavaSymbols.Search

open Relation

variable {Node Key Answer : Type}

section Steps

variable [DecidableEq Key]

/-- The search over a graph of nodes with known successors. -/
def plain (key : Node → Key) (visit : Node → Option Answer) (successors : Node → List Node) :
    Search Id Node Key Node Answer where
  key := key
  visit node := pure (visit node)
  edges node := pure (successors node)
  enter _ next := pure (some next)

/-- A node counts as seen when its key is among those seen. -/
theorem isSeen_iff {m : Type → Type} {Edge : Type} (search : Search m Node Key Edge Answer)
    {seen : List Node} {node : Node} :
    search.isSeen seen node = true ↔ search.key node ∈ seen.map search.key := by
  simp only [isSeen, List.any_eq_true, decide_eq_true_eq, List.mem_map]

variable {key : Node → Key} {visit : Node → Option Answer} {successors : Node → List Node}

omit [DecidableEq Key] in
@[simp]
theorem follow_nil (explore : List Node → Node → Id (List Node × Option Answer))
    (node : Node) (seen : List Node) :
    (plain key visit successors).follow explore node seen [] = (seen, none) :=
  rfl

omit [DecidableEq Key] in
theorem follow_cons (explore : List Node → Node → Id (List Node × Option Answer))
    (node next : Node) (seen rest : List Node) :
    (plain key visit successors).follow explore node seen (next :: rest) =
      match explore seen next with
      | (seen, some answer) => (seen, some answer)
      | (seen, none) => (plain key visit successors).follow explore node seen rest :=
  rfl

@[simp]
theorem explore_zero (seen : List Node) (node : Node) :
    (plain key visit successors).explore 0 seen node = (seen, none) :=
  rfl

theorem explore_of_seen {depth : Nat} {seen : List Node} {node : Node}
    (isSeen : key node ∈ seen.map key) :
    (plain key visit successors).explore depth seen node = (seen, none) := by
  cases depth with
  | zero => rfl
  | succ depth =>
      rw [explore, if_pos ((isSeen_iff _).mpr isSeen)]
      rfl

theorem explore_succ_of_answer {depth : Nat} {seen : List Node} {node : Node} {answer : Answer}
    (unseen : key node ∉ seen.map key) (answers : visit node = some answer) :
    (plain key visit successors).explore (depth + 1) seen node =
      (seen ++ [node], some answer) := by
  rw [explore, if_neg (fun isSeen => unseen ((isSeen_iff _).mp isSeen))]
  have visited : (plain key visit successors).visit node = some answer := answers
  simp only [visited]
  rfl

theorem explore_succ_of_silent {depth : Nat} {seen : List Node} {node : Node}
    (unseen : key node ∉ seen.map key) (silent : visit node = none) :
    (plain key visit successors).explore (depth + 1) seen node =
      (plain key visit successors).follow ((plain key visit successors).explore depth) node
        (seen ++ [node]) (successors node) := by
  rw [explore, if_neg (fun isSeen => unseen ((isSeen_iff _).mp isSeen))]
  have visited : (plain key visit successors).visit node = none := silent
  simp only [visited]
  rfl

omit [DecidableEq Key] in
theorem follow_mono {explore : List Node → Node → Id (List Node × Option Answer)}
    (each : ∀ seen node, ∀ other ∈ seen, other ∈ (explore seen node).1) (node : Node)
    (nexts : List Node) : ∀ seen, ∀ other ∈ seen,
      other ∈ ((plain key visit successors).follow explore node seen nexts).1 := by
  induction nexts with
  | nil => exact fun _ _ member => member
  | cons next rest ih =>
      intro seen other member
      have kept := each seen next other member
      rw [follow_cons]
      rcases result : explore seen next with ⟨after, answer⟩
      rw [result] at kept
      cases answer with
      | some answer => exact kept
      | none => exact ih after other kept

/-- What has been seen stays seen, also when there is an answer. -/
theorem explore_mono (depth : Nat) :
    ∀ (seen : List Node) (node : Node), ∀ other ∈ seen,
      other ∈ ((plain key visit successors).explore depth seen node).1 := by
  induction depth with
  | zero => exact fun _ _ _ member => member
  | succ depth ih =>
      intro seen node other member
      by_cases isSeen : key node ∈ seen.map key
      · rw [explore_of_seen isSeen]
        exact member
      · have kept : other ∈ seen ++ [node] := List.mem_append_left _ member
        cases answers : visit node with
        | some answer =>
            rw [explore_succ_of_answer isSeen answers]
            exact kept
        | none =>
            rw [explore_succ_of_silent isSeen answers]
            exact follow_mono ih node (successors node) _ other kept

end Steps

/-! ## Paths -/

/-- Paths are the same along steps that agree wherever a path can come to. -/
theorem reflTransGen_iff_of_within {Within : Node → Prop} {step other : Node → Node → Prop}
    (closed : ∀ node, Within node → ∀ next, step node next → Within next)
    (same : ∀ node, Within node → ∀ next, step node next ↔ other node next) {start node : Node}
    (within : Within start) : ReflTransGen step start node ↔ ReflTransGen other start node := by
  constructor
  · intro path
    have along : Within node ∧ ReflTransGen other start node := by
      induction path with
      | refl => exact ⟨within, .refl⟩
      | tail _ isNext ih =>
          exact ⟨closed _ ih.1 _ isNext, ih.2.tail ((same _ ih.1 _).mp isNext)⟩
    exact along.2
  · intro path
    have along : Within node ∧ ReflTransGen step start node := by
      induction path with
      | refl => exact ⟨within, .refl⟩
      | tail _ isNext ih =>
          have isStep := (same _ ih.1 _).mpr isNext
          exact ⟨closed _ ih.1 _ isStep, ih.2.tail isStep⟩
    exact along.2

/-- Wherever paths come to is within what steps do not leave. -/
theorem within_of_reflTransGen {Within : Node → Prop} {step : Node → Node → Prop}
    (closed : ∀ node, Within node → ∀ next, step node next → Within next) {start node : Node}
    (within : Within start) (path : ReflTransGen step start node) : Within node := by
  induction path with
  | refl => exact within
  | tail _ isNext ih => exact closed _ ih _ isNext

/-! ## What an exploration adds -/

section Additions

variable {key : Node → Key} {visit : Node → Option Answer} {successors : Node → List Node}

/-- The nodes of a graph that a search can meet, with a list of all of their
keys. -/
structure Region (key : Node → Key) (successors : Node → List Node) (Within : Node → Prop)
    (keys : List Key) : Prop where
  within : ∀ node, Within node → ∀ next ∈ successors node, Within next
  listed : ∀ node, Within node → key node ∈ keys

/-- What is added to the nodes seen when some nodes are explored one after
another, up to the first answer. -/
structure Added (key : Node → Key) (visit : Node → Option Answer)
    (successors : Node → List Node) (Within : Node → Prop) (starts seen new : List Node)
    (answer : Option Answer) : Prop where
  fresh : ((seen ++ new).map key).Nodup
  within : ∀ node ∈ new, Within node
  reached : ∀ node ∈ new, ∃ start ∈ starts, ReflTransGen (fun a b => b ∈ successors a) start node
  answered : ∀ found, answer = some found → ∃ node ∈ new, visit node = some found
  covered : answer = none → ∀ start ∈ starts, key start ∈ (seen ++ new).map key
  silent : answer = none → ∀ node ∈ new, visit node = none
  closed : answer = none → ∀ node ∈ new, ∀ next ∈ successors node,
    key next ∈ (seen ++ new).map key

variable {Within : Node → Prop} {keys : List Key} {seen : List Node} {node : Node}

theorem nodup_append_new (fresh : (seen.map key).Nodup) (unseen : key node ∉ seen.map key) :
    ((seen ++ [node]).map key).Nodup := by
  rw [List.map_append, List.map_singleton, ← List.concat_eq_append]
  exact fresh.concat unseen

/-- Nothing is added when there is nothing to explore. -/
theorem added_nil (fresh : (seen.map key).Nodup) :
    Added key visit successors Within [] seen [] none where
  fresh := by simpa using fresh
  within := by simp
  reached := by simp
  answered := by simp
  covered := by simp
  silent := by simp
  closed := by simp

/-- Nothing is added when the node to explore has been seen. -/
theorem added_of_seen (fresh : (seen.map key).Nodup) (isSeen : key node ∈ seen.map key) :
    Added key visit successors Within [node] seen [] none where
  fresh := by simpa using fresh
  within := by simp
  reached := by simp
  answered := by simp
  covered := by
    intro _ start member
    rw [List.mem_singleton.mp member, List.append_nil]
    exact isSeen
  silent := by simp
  closed := by simp

/-- Exploring one node and then more of them. -/
theorem Added.trans {starts first second : List Node} {answer : Option Answer}
    (head : Added key visit successors Within [node] seen first none)
    (tail : Added key visit successors Within starts (seen ++ first) second answer) :
    Added key visit successors Within (node :: starts) seen (first ++ second) answer where
  fresh := by simpa using tail.fresh
  within := by
    intro found member
    rcases List.mem_append.mp member with early | late
    · exact head.within found early
    · exact tail.within found late
  reached := by
    intro found member
    rcases List.mem_append.mp member with early | late
    · obtain ⟨start, isStart, path⟩ := head.reached found early
      exact ⟨node, List.mem_cons_self, List.mem_singleton.mp isStart ▸ path⟩
    · obtain ⟨start, isStart, path⟩ := tail.reached found late
      exact ⟨start, List.mem_cons_of_mem node isStart, path⟩
  answered := by
    intro found same
    obtain ⟨last, member, answers⟩ := tail.answered found same
    exact ⟨last, List.mem_append_right first member, answers⟩
  covered := by
    intro none start member
    rw [← List.append_assoc]
    rcases List.mem_cons.mp member with rfl | later
    · have early := head.covered rfl start List.mem_cons_self
      rw [List.map_append]
      exact List.mem_append_left _ early
    · exact tail.covered none start later
  silent := by
    intro none found member
    rcases List.mem_append.mp member with early | late
    · exact head.silent rfl found early
    · exact tail.silent none found late
  closed := by
    intro none found member next isNext
    rw [← List.append_assoc]
    rcases List.mem_append.mp member with early | late
    · have before := head.closed rfl found early next isNext
      rw [List.map_append]
      exact List.mem_append_left _ before
    · exact tail.closed none found late next isNext

/-- An answer ends the exploration of the nodes that follow. -/
theorem Added.stop {starts first : List Node} {answer : Answer}
    (head : Added key visit successors Within [node] seen first (some answer)) :
    Added key visit successors Within (node :: starts) seen first (some answer) where
  fresh := head.fresh
  within := head.within
  reached := by
    intro found member
    obtain ⟨start, isStart, path⟩ := head.reached found member
    exact ⟨node, List.mem_cons_self, List.mem_singleton.mp isStart ▸ path⟩
  answered := head.answered
  covered := by simp
  silent := by simp
  closed := by simp

/-- Seeing a new node that answers. -/
theorem added_of_answer {answer : Answer} (fresh : (seen.map key).Nodup)
    (unseen : key node ∉ seen.map key) (within : Within node)
    (answers : visit node = some answer) :
    Added key visit successors Within [node] seen [node] (some answer) where
  fresh := nodup_append_new fresh unseen
  within := by simpa using within
  reached := by
    intro found member
    exact ⟨node, List.mem_cons_self, List.mem_singleton.mp member ▸ ReflTransGen.refl⟩
  answered := by
    intro found same
    exact ⟨node, List.mem_cons_self, answers.trans same⟩
  covered := by simp
  silent := by simp
  closed := by simp

/-- Seeing a new node without an answer and then exploring its successors. -/
theorem Added.below {new : List Node} {answer : Option Answer} (within : Within node)
    (silent : visit node = none)
    (below : Added key visit successors Within (successors node) (seen ++ [node]) new answer) :
    Added key visit successors Within [node] seen (node :: new) answer where
  fresh := by simpa using below.fresh
  within := by
    intro found member
    rcases List.mem_cons.mp member with rfl | later
    · exact within
    · exact below.within found later
  reached := by
    intro found member
    refine ⟨node, List.mem_cons_self, ?_⟩
    rcases List.mem_cons.mp member with rfl | later
    · exact ReflTransGen.refl
    · obtain ⟨start, isStart, path⟩ := below.reached found later
      exact ReflTransGen.head isStart path
  answered := by
    intro found same
    obtain ⟨last, member, answers⟩ := below.answered found same
    exact ⟨last, List.mem_cons_of_mem node member, answers⟩
  covered := by
    intro _ start member
    rw [List.mem_singleton.mp member]
    simp
  silent := by
    intro none found member
    rcases List.mem_cons.mp member with rfl | later
    · exact silent
    · exact below.silent none found later
  closed := by
    intro none found member next isNext
    have regroup : seen ++ node :: new = (seen ++ [node]) ++ new := by simp
    rw [regroup]
    rcases List.mem_cons.mp member with rfl | later
    · exact below.covered none next isNext
    · exact below.closed none found later next isNext

/-- A search that ends without an answer adds just what can be reached, provided
that nodes are told apart by their keys. -/
theorem Added.mem_iff {start : Node} {new : List Node}
    (region : Region key successors Within keys) (within : Within start)
    (apart : ∀ a b, Within a → Within b → key a = key b → a = b)
    (added : Added key visit successors Within [start] [] new none) :
    node ∈ new ↔ ReflTransGen (fun a b => b ∈ successors a) start node := by
  constructor
  · intro member
    obtain ⟨origin, isStart, path⟩ := added.reached node member
    exact List.mem_singleton.mp isStart ▸ path
  · intro path
    have mem_of_key : ∀ next, Within next → key next ∈ ([] ++ new).map key → next ∈ new := by
      intro next inside keyed
      obtain ⟨twin, member, same⟩ := List.mem_map.mp keyed
      exact apart twin next (added.within twin member) inside same ▸ member
    -- what is added contains the start and is closed under successors
    have along : Within node ∧ node ∈ new := by
      induction path with
      | refl => exact ⟨within, mem_of_key start within (added.covered rfl start List.mem_cons_self)⟩
      | tail _ isNext ih =>
          have inside := region.within _ ih.1 _ isNext
          exact ⟨inside, mem_of_key _ inside (added.closed rfl _ ih.2 _ isNext)⟩
    exact along.2

end Additions

/-! ## Exploration -/

section Exploration

variable [DecidableEq Key] {key : Node → Key} {visit : Node → Option Answer}
variable {successors : Node → List Node} {Within : Node → Prop} {keys : List Key}

/-- What a way to explore adds, provided that at least a number of nodes has
been seen. -/
def Exact (key : Node → Key) (visit : Node → Option Answer) (successors : Node → List Node)
    (Within : Node → Prop) (bound : Nat)
    (explore : List Node → Node → Id (List Node × Option Answer)) : Prop :=
  ∀ seen next, Within next → (seen.map key).Nodup → (∀ other ∈ seen, Within other) →
    bound ≤ seen.length →
    ∃ new, (explore seen next).1 = seen ++ new ∧
      Added key visit successors Within [next] seen new (explore seen next).2

/-- Nodes seen from which an exploration can go on: they are within, each has a
key of its own, and they are at least as many as a bound. -/
structure Ready (key : Node → Key) (Within : Node → Prop) (bound : Nat)
    (seen : List Node) : Prop where
  fresh : (seen.map key).Nodup
  inside : ∀ other ∈ seen, Within other
  long : bound ≤ seen.length

section Ready

variable {seen : List Node} {node : Node} {bound depth : Nat}

omit [DecidableEq Key] in
/-- A search to a sufficient depth starts without any nodes seen. -/
theorem ready_nil (enough : keys.length ≤ depth) :
    Ready key Within (keys.length - depth) [] where
  fresh := List.nodup_nil
  inside := by simp
  long := by
    rw [List.length_nil]
    omega

omit [DecidableEq Key] in
/-- A new node makes up for one step of depth. -/
theorem Ready.push (ready : Ready key Within (keys.length - (depth + 1)) seen)
    (within : Within node) (unseen : key node ∉ seen.map key) :
    Ready key Within (keys.length - depth) (seen ++ [node]) where
  fresh := nodup_append_new ready.fresh unseen
  inside := by
    intro other member
    rcases List.mem_append.mp member with early | late
    · exact ready.inside other early
    · exact List.mem_singleton.mp late ▸ within
  long := by
    have long := ready.long
    rw [List.length_append, List.length_singleton]
    omega

omit [DecidableEq Key] in
/-- Whatever has been added, the exploration can go on. -/
theorem Ready.append {starts new : List Node} {answer : Option Answer}
    (ready : Ready key Within bound seen)
    (added : Added key visit successors Within starts seen new answer) :
    Ready key Within bound (seen ++ new) where
  fresh := added.fresh
  inside := by
    intro other member
    rcases List.mem_append.mp member with early | late
    · exact ready.inside other early
    · exact added.within other late
  long := by
    rw [List.length_append]
    exact Nat.le_trans ready.long (Nat.le_add_right _ _)

omit [DecidableEq Key] in
/-- As many nodes as there are keys leave no key for another node. -/
theorem Ready.isSeen (region : Region key successors Within keys)
    (ready : Ready key Within keys.length seen) (within : Within node) :
    key node ∈ seen.map key := by
  by_contra unseen
  have nodup : (key node :: seen.map key).Nodup := List.nodup_cons.mpr ⟨unseen, ready.fresh⟩
  have listed : key node :: seen.map key ⊆ keys := by
    intro other member
    rcases List.mem_cons.mp member with rfl | earlier
    · exact region.listed node within
    · obtain ⟨before, isBefore, rfl⟩ := List.mem_map.mp earlier
      exact region.listed before (ready.inside before isBefore)
  have short := (List.subperm_of_subset nodup listed).length_le
  have long := ready.long
  simp only [List.length_cons, List.length_map] at short
  omega

omit [DecidableEq Key] in
theorem Exact.adds {explore : List Node → Node → Id (List Node × Option Answer)}
    (each : Exact key visit successors Within bound explore)
    (ready : Ready key Within bound seen) (within : Within node) :
    ∃ new, (explore seen node).1 = seen ++ new ∧
      Added key visit successors Within [node] seen new (explore seen node).2 :=
  each seen node within ready.fresh ready.inside ready.long

end Ready

omit [DecidableEq Key] in
theorem follow_adds {explore : List Node → Node → Id (List Node × Option Answer)} {bound : Nat}
    (each : Exact key visit successors Within bound explore)
    (node : Node) (nexts : List Node) (inside : ∀ next ∈ nexts, Within next) :
    ∀ seen : List Node, Ready key Within bound seen →
      ∃ new, ((plain key visit successors).follow explore node seen nexts).1 = seen ++ new ∧
        Added key visit successors Within nexts seen new
          ((plain key visit successors).follow explore node seen nexts).2 := by
  induction nexts with
  | nil =>
      intro seen ready
      exact ⟨[], by simp, added_nil ready.fresh⟩
  | cons next rest ih =>
      intro seen ready
      obtain ⟨first, reached, added⟩ := each.adds ready (inside next List.mem_cons_self)
      rw [follow_cons]
      rcases result : explore seen next with ⟨after, answer⟩
      rw [result] at reached added
      cases answer with
      | some answer => exact ⟨first, reached, added.stop⟩
      | none =>
          obtain rfl : after = seen ++ first := reached
          obtain ⟨second, onward, more⟩ :=
            ih (fun other member => inside other (List.mem_cons_of_mem next member))
              (seen ++ first) (ready.append added)
          exact ⟨first ++ second, by rw [onward, List.append_assoc], added.trans more⟩

/-- An exploration is complete when its depth and the nodes seen make up for all
keys. -/
theorem explore_adds (region : Region key successors Within keys) (depth : Nat) :
    Exact key visit successors Within (keys.length - depth)
      ((plain key visit successors).explore depth) := by
  induction depth with
  | zero =>
      intro seen node within fresh inside enough
      have isSeen : key node ∈ seen.map key := Ready.isSeen region ⟨fresh, inside, enough⟩ within
      exact ⟨[], by simp, added_of_seen fresh isSeen⟩
  | succ depth ih =>
      intro seen node within fresh inside enough
      have ready : Ready key Within (keys.length - (depth + 1)) seen := ⟨fresh, inside, enough⟩
      by_cases isSeen : key node ∈ seen.map key
      · rw [explore_of_seen isSeen]
        exact ⟨[], by simp, added_of_seen fresh isSeen⟩
      · cases answers : visit node with
        | some answer =>
            rw [explore_succ_of_answer isSeen answers]
            exact ⟨[node], rfl, added_of_answer fresh isSeen within answers⟩
        | none =>
            rw [explore_succ_of_silent isSeen answers]
            obtain ⟨new, reached, added⟩ :=
              follow_adds ih node (successors node) (region.within node within)
                (seen ++ [node]) (ready.push within isSeen)
            exact ⟨node :: new, by rw [reached]; simp, added.below within answers⟩

/-- What a whole search sees and answers. -/
theorem run_adds (region : Region key successors Within keys) {depth : Nat} {start : Node}
    (within : Within start) (enough : keys.length ≤ depth) :
    Added key visit successors Within [start] []
      ((plain key visit successors).run depth start).1
      ((plain key visit successors).run depth start).2 := by
  obtain ⟨new, reached, added⟩ := (explore_adds region depth).adds (ready_nil enough) within
  rw [run, reached]
  exact added

/-- A search answers just when some reachable node does, provided that nodes
are told apart by their keys. -/
theorem run_answers_iff (region : Region key successors Within keys) {depth : Nat} {start : Node}
    (within : Within start) (enough : keys.length ≤ depth)
    (distinct : ∀ a b, Within a → Within b → key a = key b → a = b) :
    ((plain key visit successors).run depth start).2.isSome = true ↔
      ∃ node, ReflTransGen (fun a b => b ∈ successors a) start node ∧
        (visit node).isSome = true := by
  have added : Added key visit successors Within [start] []
      ((plain key visit successors).run depth start).1
      ((plain key visit successors).run depth start).2 := run_adds region within enough
  constructor
  · intro isSome
    obtain ⟨answer, same⟩ := Option.isSome_iff_exists.mp isSome
    obtain ⟨node, member, answers⟩ := added.answered answer same
    obtain ⟨origin, isStart, path⟩ := added.reached node member
    exact ⟨node, List.mem_singleton.mp isStart ▸ path, by simp [answers]⟩
  · rintro ⟨node, path, answers⟩
    cases result : ((plain key visit successors).run depth start).2 with
    | some answer => rfl
    | none =>
        rw [result] at added
        have isSeen := (added.mem_iff region within distinct).mpr path
        rw [added.silent rfl node isSeen] at answers
        cases answers

end Exploration

end JavaSymbols.Search
