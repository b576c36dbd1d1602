import JavaSymbols.Proofs.Search.Plain
import JavaSymbols.Proofs.Session.Runs

/-!
# Searches in sessions

A search whose steps keep an invariant keeps it as a whole.  What is known of
the nodes and edges that its steps deal with is known of all nodes it sees, and
of its answer.  A search whose steps have the same outcomes in all sessions has
the outcome of a plain search.
-/

namespace JavaSymbols.Search

open Query

variable {Node Key Edge Answer : Type} [DecidableEq Key]
variable {invariant : Session → Prop} {follows : Session → Session → Prop}
variable [IsPreorder Session follows] {search : Search Query Node Key Edge Answer}
variable {node : Session → Node → Prop} {edge : Session → Node → Edge → Prop}
variable {answer : Session → Answer → Prop}

/-- What is known of nodes, edges and answers is kept by the steps of a search
and lasts.  Steps end with allowed faults alone. -/
structure Steps (allowed : Fault → Prop) (search : Search Query Node Key Edge Answer)
    (invariant : Session → Prop) (follows : Session → Session → Prop)
    (node : Session → Node → Prop) (edge : Session → Node → Edge → Prop)
    (answer : Session → Answer → Prop) : Prop where
  visit : ∀ session start, invariant session → node session start →
    Runs invariant follows session (search.visit start)
      (Judged allowed fun after found => ∀ result, found = some result → answer after result)
  edges : ∀ session start, invariant session → node session start →
    Runs invariant follows session (search.edges start)
      (Judged allowed fun after listed => ∀ one ∈ listed, edge after start one)
  enter : ∀ session start one, invariant session → node session start → edge session start one →
    Runs invariant follows session (search.enter start one)
      (Judged allowed fun after next => ∀ entered, next = some entered → node after entered)
  nodeLasts : ∀ old new start, follows old new → node old start → node new start
  edgeLasts : ∀ old new start one, follows old new → edge old start one → edge new start one

/-- What is known of the nodes seen and of the answer. -/
def Result (node : Session → Node → Prop) (answer : Session → Answer → Prop) (session : Session)
    (result : List Node × Option Answer) : Prop :=
  (∀ start ∈ result.1, node session start) ∧
    ∀ found, result.2 = some found → answer session found

variable {allowed : Fault → Prop}

omit [DecidableEq Key] in
theorem runs_follow (steps : Steps allowed search invariant follows node edge answer)
    {explore : List Node → Node → Query (List Node × Option Answer)}
    (each : ∀ session seen start, invariant session → (∀ other ∈ seen, node session other) →
      node session start →
      Runs invariant follows session (explore seen start) (Judged allowed (Result node answer)))
    {start : Node} (edges : List Edge) :
    ∀ session seen, invariant session → (∀ other ∈ seen, node session other) →
      node session start → (∀ one ∈ edges, edge session start one) →
      Runs invariant follows session (search.follow explore start seen edges)
        (Judged allowed (Result node answer)) := by
  induction edges with
  | nil =>
      intro session seen before known _ _
      exact runs_pure before (judged_ok ⟨known, by simp⟩)
  | cons one rest ih =>
      intro session seen before known here listed
      rw [follow]
      have entered := steps.enter session start one before here (listed one List.mem_cons_self)
      refine entered.bind_judged ?_
      intro after next kept onward nextKnown
      have knownAfter : ∀ other ∈ seen, node after other := fun other member =>
        steps.nodeLasts _ _ other onward (known other member)
      have hereAfter := steps.nodeLasts _ _ start onward here
      have listedAfter : ∀ other ∈ rest, edge after start other := fun other member =>
        steps.edgeLasts _ _ start other onward (listed other (List.mem_cons_of_mem one member))
      cases next with
      | none => exact ih after seen kept knownAfter hereAfter listedAfter
      | some next =>
          refine (each after seen next kept knownAfter (nextKnown next rfl)).bind_judged ?_
          rintro last ⟨seenLast, found⟩ keptLast onwardLast result
          cases found with
          | some found => exact runs_pure keptLast (judged_ok result)
          | none =>
              exact ih last seenLast keptLast result.1
                (steps.nodeLasts _ _ start onwardLast hereAfter)
                fun other member => steps.edgeLasts _ _ start other onwardLast
                  (listedAfter other member)

theorem runs_explore (steps : Steps allowed search invariant follows node edge answer)
    (depth : Nat) : ∀ session seen start, invariant session → (∀ other ∈ seen, node session other) →
      node session start →
      Runs invariant follows session (search.explore depth seen start)
        (Judged allowed (Result node answer)) := by
  induction depth with
  | zero =>
      intro session seen start before known _
      exact runs_pure before (judged_ok ⟨known, by simp⟩)
  | succ depth ih =>
      intro session seen start before known here
      rw [explore]
      split
      · exact runs_pure before (judged_ok ⟨known, by simp⟩)
      · have seenKnown : ∀ other ∈ seen ++ [start], node session other := by
          intro other member
          rcases List.mem_append.mp member with early | late
          · exact known other early
          · exact List.mem_singleton.mp late ▸ here
        refine (steps.visit session start before here).bind_judged ?_
        intro after found kept onward answered
        cases found with
        | some found =>
            refine runs_pure kept (judged_ok ⟨?_, ?_⟩)
            · exact fun other member => steps.nodeLasts _ _ other onward (seenKnown other member)
            · exact fun result same => answered result same
        | none =>
            have hereAfter := steps.nodeLasts _ _ start onward here
            refine (steps.edges after start kept hereAfter).bind_judged ?_
            intro last edges keptLast onwardLast listed
            refine runs_follow steps ih edges last _ keptLast ?_
              (steps.nodeLasts _ _ start onwardLast hereAfter) listed
            intro other member
            exact steps.nodeLasts _ _ other (trans_of follows onward onwardLast)
              (seenKnown other member)

/-- A whole search keeps the invariant and ends with allowed faults alone. -/
theorem runs_run (steps : Steps allowed search invariant follows node edge answer) (depth : Nat)
    {session : Session} {start : Node} (before : invariant session) (here : node session start) :
    Runs invariant follows session (search.run depth start)
      (Judged allowed (Result node answer)) :=
  runs_explore steps depth session [] start before (by simp) here

/-! ## Searches whose course is known -/

section

variable {Verdict : Type} {embed : Answer → Verdict} {visit : Node → Option Verdict}
variable {successors : Node → List Node} {Within : Node → Prop}
variable {leads : Session → Node → Edge → Node → Prop}

/-- The steps of a search end with allowed faults or give, in any session with an
invariant, the answers and successors of a plain search.  The plain search may
answer where the search has a fault, so answers are told apart from other
verdicts. -/
structure Tracks (allowed : Fault → Prop) (search : Search Query Node Key Edge Answer)
    (invariant : Session → Prop) (follows : Session → Session → Prop)
    (embed : Answer → Verdict) (visit : Node → Option Verdict)
    (successors : Node → List Node) (Within : Node → Prop)
    (leads : Session → Node → Edge → Node → Prop) : Prop where
  visited : ∀ session start, invariant session → Within start →
    Runs invariant follows session (search.visit start)
      (Judged allowed fun _ found => visit start = found.map embed)
  listed : ∀ session start, invariant session → Within start →
    Runs invariant follows session (search.edges start)
      (Judged allowed fun after edges => List.Forall₂ (leads after start) edges (successors start))
  entered : ∀ session start edge next, invariant session → Within start →
    leads session start edge next →
    Runs invariant follows session (search.enter start edge)
      (Judged allowed fun _ entered => entered = some next)
  lasts : ∀ old new start edge next, follows old new → leads old start edge next →
    leads new start edge next
  within : ∀ start, Within start → ∀ next ∈ successors start, Within next

/-- What a plain search gives is what the search has given. -/
def Matches (embed : Answer → Verdict) (expected : List Node × Option Verdict) (_ : Session)
    (result : List Node × Option Answer) : Prop :=
  expected = (result.1, result.2.map embed)

omit [DecidableEq Key] in
theorem Tracks.runs_follow
    (tracks : Tracks allowed search invariant follows embed visit successors Within leads)
    {explore : List Node → Node → Query (List Node × Option Answer)}
    {plainExplore : List Node → Node → Id (List Node × Option Verdict)}
    (each : ∀ session seen start, invariant session → Within start →
      Runs invariant follows session (explore seen start)
        (Judged allowed (Matches embed (plainExplore seen start))))
    {start : Node} (here : Within start) {nexts : List Node} :
    ∀ (edges : List Edge) session seen, invariant session → (∀ next ∈ nexts, Within next) →
      List.Forall₂ (leads session start) edges nexts →
      Runs invariant follows session (search.follow explore start seen edges)
        (Judged allowed (Matches embed
          ((plain search.key visit successors).follow plainExplore start seen nexts))) := by
  induction nexts with
  | nil =>
      intro edges session seen before _ pairs
      cases pairs
      exact runs_pure before (judged_ok rfl)
  | cons next nexts ih =>
      intro edges session seen before inside pairs
      cases pairs with
      | @cons edge _ rest _ pair pairs =>
          rw [follow]
          apply (tracks.entered session start edge next before here pair).bind_judged
          rintro after _ kept onward rfl
          have explored := each after seen next kept (inside next List.mem_cons_self)
          apply explored.bind_judged
          rintro last ⟨seenLast, answer⟩ keptLast onwardLast ran
          rw [follow_cons, ran]
          cases answer with
          | some answer => exact runs_pure keptLast (judged_ok rfl)
          | none =>
              apply ih rest last seenLast keptLast
              · intro other member
                exact inside other (List.mem_cons_of_mem next member)
              · exact pairs.imp fun one other pair =>
                  tracks.lasts _ _ start one other (trans_of follows onward onwardLast) pair

theorem Tracks.runs_explore
    (tracks : Tracks allowed search invariant follows embed visit successors Within leads)
    (depth : Nat) : ∀ session seen start, invariant session → Within start →
      Runs invariant follows session (search.explore depth seen start)
        (Judged allowed (Matches embed
          ((plain search.key visit successors).explore depth seen start))) := by
  induction depth with
  | zero =>
      intro session seen start before _
      exact runs_pure before (judged_ok rfl)
  | succ depth ih =>
      intro session seen start before here
      by_cases isSeen : search.key start ∈ seen.map search.key
      · have found : search.isSeen seen start = true := (isSeen_iff search).mpr isSeen
        rw [explore_of_seen isSeen, explore, if_pos found]
        exact runs_pure before (judged_ok rfl)
      · have unseen : ¬ search.isSeen seen start = true := fun found =>
          isSeen ((isSeen_iff search).mp found)
        rw [explore, if_neg unseen]
        apply (tracks.visited session start before here).bind_judged
        intro after found kept _ answers
        cases found with
        | some answer =>
            rw [explore_succ_of_answer isSeen answers]
            exact runs_pure kept (judged_ok rfl)
        | none =>
            rw [explore_succ_of_silent isSeen answers]
            apply (tracks.listed after start kept here).bind_judged
            intro last edges keptLast _ pairs
            exact tracks.runs_follow ih here edges last _ keptLast (tracks.within start here) pairs

/-- A whole search gives what the plain search gives, or ends with an allowed
fault. -/
theorem Tracks.runs_run
    (tracks : Tracks allowed search invariant follows embed visit successors Within leads)
    (depth : Nat) {session : Session} {start : Node} (before : invariant session)
    (here : Within start) :
    Runs invariant follows session (search.run depth start)
      (Judged allowed (Matches embed ((plain search.key visit successors).run depth start))) :=
  tracks.runs_explore depth session [] start before here

end

/-- The steps of a search give, in any session with an invariant, the answers and
successors of a plain search, and never end with a fault. -/
structure Charts (search : Search Query Node Key Edge Answer) (invariant : Session → Prop)
    (follows : Session → Session → Prop) (visit : Node → Option Answer)
    (successors : Node → List Node) (Within : Node → Prop)
    (leads : Session → Node → Edge → Node → Prop) : Prop where
  visited : ∀ session start, invariant session → Within start →
    Runs invariant follows session (search.visit start)
      fun _ outcome => outcome = .ok (visit start)
  listed : ∀ session start, invariant session → Within start →
    Runs invariant follows session (search.edges start) fun after outcome =>
      ∃ edges, outcome = .ok edges ∧ List.Forall₂ (leads after start) edges (successors start)
  entered : ∀ session start edge next, invariant session → Within start →
    leads session start edge next →
    Runs invariant follows session (search.enter start edge)
      fun _ outcome => outcome = .ok (some next)
  lasts : ∀ old new start edge next, follows old new → leads old start edge next →
    leads new start edge next
  within : ∀ start, Within start → ∀ next ∈ successors start, Within next

variable {visit : Node → Option Answer} {successors : Node → List Node} {Within : Node → Prop}
variable {leads : Session → Node → Edge → Node → Prop}

omit [DecidableEq Key] [IsPreorder Session follows] in
theorem Charts.tracks (charts : Charts search invariant follows visit successors Within leads) :
    Tracks (fun _ => False) search invariant follows id visit successors Within leads where
  visited session start before here :=
    (charts.visited session start before here).mono fun _ _ _ _ same =>
      same ▸ judged_ok (congrFun Option.map_id _).symm
  listed session start before here := by
    apply (charts.listed session start before here).mono
    rintro after _ _ _ ⟨edges, rfl, pairs⟩
    exact judged_ok pairs
  entered session start edge next before here pair :=
    (charts.entered session start edge next before here pair).mono
      fun _ _ _ _ same => same ▸ judged_ok rfl
  lasts := charts.lasts
  within := charts.within

/-- A whole search whose course is known. -/
theorem Charts.runs_run (charts : Charts search invariant follows visit successors Within leads)
    (depth : Nat) {session : Session} {start : Node} (before : invariant session)
    (here : Within start) :
    Runs invariant follows session (search.run depth start) fun _ outcome =>
      outcome = .ok ((plain search.key visit successors).run depth start) := by
  apply (charts.tracks.runs_run depth before here).mono
  intro after outcome _ _ judged
  cases outcome with
  | error fault => exact (judged.fault fault rfl).elim
  | ok result =>
      have same := judged.value result rfl
      rw [Matches, Option.map_id] at same
      exact congrArg Except.ok same.symm

end JavaSymbols.Search
