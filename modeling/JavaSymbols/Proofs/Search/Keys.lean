import JavaSymbols.Search

/-!
# Searches with other keys

A search uses the keys of nodes only to compare nodes with each other.  So keys
that tell the nodes apart in the same way make no difference.  It is enough that
they do so for the nodes that the search can come to, which are the images of the
nodes of a search of their own.
-/

namespace JavaSymbols.Search

universe u

variable {m : Type → Type u} [Monad m] {Inner Node Key Other Edge Answer : Type}

/-- The search with other keys. -/
def keyedBy (search : Search m Node Key Edge Answer) (key : Node → Other) :
    Search m Node Other Edge Answer :=
  ⟨key, search.visit, search.edges, search.enter⟩

section

variable {search : Search m Node Key Edge Answer} {key : Node → Other}

theorem follow_keyedBy (explore : List Node → Node → m (List Node × Option Answer)) (node : Node)
    (edges : List Edge) : ∀ seen,
      (search.keyedBy key).follow explore node seen edges =
        search.follow explore node seen edges := by
  induction edges with
  | nil =>
      intro seen
      rfl
  | cons edge rest ih =>
      intro seen
      simp only [follow, ih]
      rfl

variable [DecidableEq Key] [DecidableEq Other]

/-- Keys that tell the same nodes apart make no difference. -/
theorem explore_keyedBy
    (same : ∀ node other, key node = key other ↔ search.key node = search.key other)
    (depth : Nat) : ∀ seen node,
      (search.keyedBy key).explore depth seen node = search.explore depth seen node := by
  induction depth with
  | zero =>
      intro seen node
      rfl
  | succ depth ih =>
      intro seen node
      have seenAlike : (search.keyedBy key).isSeen seen node = search.isSeen seen node := by
        unfold isSeen
        congr 1
        funext other
        exact decide_eq_decide.mpr (same other node)
      have below : (search.keyedBy key).explore depth = search.explore depth :=
        funext fun seen => funext fun node => ih seen node
      simp only [explore, seenAlike, below, follow_keyedBy]
      rfl

end

variable {embed : Inner → Node}

/-- A search does with the images of nodes what another does with the nodes, and
comes from them to images alone. -/
structure Embeds (embed : Inner → Node) (inner : Search m Inner Key Edge Answer)
    (search : Search m Node Key Edge Answer) : Prop where
  key : ∀ node, search.key (embed node) = inner.key node
  visit : ∀ node, search.visit (embed node) = inner.visit node
  edges : ∀ node, search.edges (embed node) = inner.edges node
  enter : ∀ node edge, search.enter (embed node) edge = Option.map embed <$> inner.enter node edge

namespace Embeds

variable [LawfulMonad m] {inner : Search m Inner Key Edge Answer}
variable {search : Search m Node Key Edge Answer}

theorem follow (embeds : Embeds embed inner search)
    {explore : List Node → Node → m (List Node × Option Answer)}
    {exploreInner : List Inner → Inner → m (List Inner × Option Answer)}
    (each : ∀ seen node, explore (seen.map embed) (embed node) =
      Prod.map (List.map embed) id <$> exploreInner seen node) (node : Inner) (edges : List Edge) :
    ∀ seen, search.follow explore (embed node) (seen.map embed) edges =
      Prod.map (List.map embed) id <$> inner.follow exploreInner node seen edges := by
  induction edges with
  | nil =>
      intro seen
      simp [Search.follow]
  | cons edge rest ih =>
      intro seen
      simp only [Search.follow, embeds.enter, bind_map_left, map_bind]
      congr 1
      funext next
      cases next with
      | none => exact ih seen
      | some next =>
          simp only [Option.map_some, each, bind_map_left, map_bind]
          congr 1
          funext found
          rcases found with ⟨more, answer⟩
          cases answer with
          | none => exact ih more
          | some answer => simp

variable [DecidableEq Key]

theorem explore (embeds : Embeds embed inner search) (depth : Nat) : ∀ seen node,
    search.explore depth (seen.map embed) (embed node) =
      Prod.map (List.map embed) id <$> inner.explore depth seen node := by
  induction depth with
  | zero =>
      intro seen node
      simp [Search.explore]
  | succ depth ih =>
      intro seen node
      have seenAlike : search.isSeen (seen.map embed) (embed node) = inner.isSeen seen node := by
        simp [isSeen, embeds.key, Function.comp_def]
      have extended : seen.map embed ++ [embed node] = (seen ++ [node]).map embed := by simp
      by_cases isSeen : inner.isSeen seen node = true
      · simp [Search.explore, seenAlike, isSeen]
      · simp only [Search.explore, seenAlike, isSeen, Bool.false_eq_true, if_false, extended,
          embeds.visit, embeds.edges, map_bind]
        congr 1
        funext answer
        cases answer with
        | some answer => simp
        | none =>
            simp only [map_bind]
            congr 1
            funext edges
            exact embeds.follow ih node edges (seen ++ [node])

end Embeds

/-- Two searches that do the same with the nodes they can come to, and tell those
apart in the same way, run alike. -/
theorem run_eq_of_embeds [LawfulMonad m] [DecidableEq Key] [DecidableEq Other]
    {inner : Search m Inner Key Edge Answer} {search : Search m Node Key Edge Answer}
    {twin : Search m Node Other Edge Answer} {key : Inner → Other}
    (embeds : Embeds embed inner search) (embedsTwin : Embeds embed (inner.keyedBy key) twin)
    (same : ∀ node other, key node = key other ↔ inner.key node = inner.key other) (depth : Nat)
    (start : Inner) : search.run depth (embed start) = twin.run depth (embed start) := by
  have ran := embeds.explore depth [] start
  have ranTwin := embedsTwin.explore depth [] start
  rw [explore_keyedBy same] at ranTwin
  exact ran.trans ranTwin.symm

end JavaSymbols.Search
