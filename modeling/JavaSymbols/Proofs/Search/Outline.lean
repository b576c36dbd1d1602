import JavaSymbols.Proofs.Outcomes
import JavaSymbols.Proofs.Search.Plain
import JavaSymbols.Proofs.Session.Runs

/-!
# Outlines of searches

A search that never answers collects the nodes it meets.  Its outline is the
search over nodes without sessions, whose steps are outcomes.  When the steps of
a search agree with those of its outline, so do the nodes that both collect.

A step may be better than its outline foresees: it passes over what is a fault
there.  Such a search agrees with its outline as long as the outline has no
fault.
-/

namespace JavaSymbols

/-- If faults are passed over, an outcome has none. -/
def Foreseen {α : Type} (lax : Prop) (outcome : Except Fault α) : Prop :=
  lax → ∃ value, outcome = .ok value

section

variable {α β : Type} {lax : Prop} {first : Except Fault α} {next : α → Except Fault β}

theorem foreseen_ok (value : α) : Foreseen lax (.ok value : Except Fault α) :=
  fun _ => ⟨value, rfl⟩

/-- When nothing is passed over, every outcome is foreseen. -/
theorem foreseen_of_not {outcome : Except Fault α} (exact : ¬ lax) : Foreseen lax outcome :=
  fun isLax => absurd isLax exact

theorem Foreseen.head (foreseen : Foreseen lax (first >>= next)) : Foreseen lax first := by
  intro isLax
  obtain ⟨value, given⟩ := foreseen isLax
  obtain ⟨middle, start, _⟩ := Except.bind_eq_ok given
  exact ⟨middle, start⟩

theorem Foreseen.of_map {use : α → β} {outcome : Except Fault α}
    (foreseen : Foreseen lax (outcome.map use)) : Foreseen lax outcome := by
  intro isLax
  obtain ⟨value, given⟩ := foreseen isLax
  cases outcome with
  | error fault => cases given
  | ok found => exact ⟨found, rfl⟩

theorem Foreseen.tail (foreseen : Foreseen lax (first >>= next)) {middle : α}
    (start : first = .ok middle) : Foreseen lax (next middle) := by
  intro isLax
  obtain ⟨value, given⟩ := foreseen isLax
  rw [start] at given
  exact ⟨value, given⟩

end

namespace Search

variable {Node Twin Key Edge Link : Type} [DecidableEq Key]

/-- The search that collects nodes, with steps that need no session. -/
def outline (key : Twin → Key) (links : Twin → Except Fault (List Link))
    (enter : Twin → Link → Except Fault Twin) : Search (Except Fault) Twin Key Link Empty where
  key := key
  visit _ := pure none
  edges := links
  enter twin link := do
    let next ← enter twin link
    pure (some next)

variable {invariant : Session → Prop} {follows : Session → Session → Prop}
variable {search : Search Query Node Key Edge Empty} {key : Twin → Key}
variable {links : Twin → Except Fault (List Link)} {enter : Twin → Link → Except Fault Twin}
variable {node : Session → Twin → Node → Prop} {edge : Session → Twin → Link → Edge → Prop}
variable {lax : Prop}

/-! ## Steps without sessions -/

omit [DecidableEq Key] in
theorem outline_follow_cons (explore : List Twin → Twin → Except Fault (List Twin × Option Empty))
    (twin : Twin) (seen : List Twin) (link : Link) (rest : List Link) :
    (outline key links enter).follow explore twin seen (link :: rest) = (do
      let next ← enter twin link
      let (seen, _) ← explore seen next
      (outline key links enter).follow explore twin seen rest) := by
  rw [follow]
  change ((enter twin link >>= fun next => pure (some next)) >>= _) = _
  rw [bind_assoc]
  refine bind_congr fun next => ?_
  rw [pure_bind]
  refine bind_congr fun result => ?_
  obtain ⟨seen, answer⟩ := result
  cases answer with
  | none => rfl
  | some answer => exact answer.elim

theorem outline_explore_of_seen {depth : Nat} {seen : List Twin} {twin : Twin}
    (isSeen : key twin ∈ seen.map key) :
    (outline key links enter).explore depth seen twin = .ok (seen, none) := by
  cases depth with
  | zero => rfl
  | succ depth =>
      rw [explore, if_pos ((isSeen_iff (outline key links enter)).mpr isSeen)]
      rfl

theorem outline_explore_of_unseen {depth : Nat} {seen : List Twin} {twin : Twin}
    (unseen : key twin ∉ seen.map key) :
    (outline key links enter).explore (depth + 1) seen twin = (do
      let found ← links twin
      (outline key links enter).follow ((outline key links enter).explore depth) twin
        (seen ++ [twin]) found) := by
  rw [explore, if_neg fun isSeen => unseen ((isSeen_iff (outline key links enter)).mp isSeen)]
  rfl

/-! ## Agreement with an outline -/

/-- The steps of a search agree with those of an outline, as far as its faults
are not passed over. -/
structure Outlined (lax : Prop) (search : Search Query Node Key Edge Empty) (key : Twin → Key)
    (links : Twin → Except Fault (List Link)) (enter : Twin → Link → Except Fault Twin)
    (invariant : Session → Prop) (follows : Session → Session → Prop)
    (node : Session → Twin → Node → Prop) (edge : Session → Twin → Link → Edge → Prop) : Prop where
  keyed : ∀ session twin start, node session twin start → search.key start = key twin
  silent : ∀ start, search.visit start = pure none
  edges : ∀ session twin start, invariant session → node session twin start →
    Foreseen lax (links twin) →
    Query.Runs invariant follows session (search.edges start) fun after =>
      Agree (List.Forall₂ (edge after twin)) (links twin)
  enter : ∀ session twin start link one, invariant session → node session twin start →
    edge session twin link one → Foreseen lax (enter twin link) →
    Query.Runs invariant follows session (search.enter start one) fun after =>
      Agree (fun next entered => ∃ reached, entered = some reached ∧ node after next reached)
        (enter twin link)
  nodeLasts : ∀ old new twin start, follows old new → node old twin start → node new twin start
  edgeLasts : ∀ old new twin link one, follows old new → edge old twin link one →
    edge new twin link one

/-- A node has been seen just when the one that stands for it has. -/
theorem Outlined.isSeen_iff
    (outlined : Outlined lax search key links enter invariant follows node edge)
    {session : Session} {seen : List Node} {twins : List Twin} {start : Node} {twin : Twin}
    (known : List.Forall₂ (node session) twins seen) (here : node session twin start) :
    search.isSeen seen start = true ↔ key twin ∈ twins.map key := by
  have sameKeys : seen.map search.key = twins.map key := by
    induction known with
    | nil => rfl
    | cons head _ ih => rw [List.map_cons, List.map_cons, ih, outlined.keyed _ _ _ head]
  rw [Search.isSeen_iff, sameKeys, outlined.keyed _ _ _ here]

/-- Nodes that were collected after some were seen, and those of an outline. -/
structure Collected (node : Session → Twin → Node → Prop) (seen : List Node) (session : Session)
    (expected : List Twin × Option Empty) (found : List Node × Option Empty) : Prop where
  same : List.Forall₂ (node session) expected.1 found.1
  kept : seen <+: found.1

variable [IsPreorder Session follows]

omit [DecidableEq Key] in
theorem Outlined.runs_follow
    (outlined : Outlined lax search key links enter invariant follows node edge)
    {explore : List Node → Node → Query (List Node × Option Empty)}
    {explored : List Twin → Twin → Except Fault (List Twin × Option Empty)}
    (each : ∀ session seen start twins twin, invariant session →
      List.Forall₂ (node session) twins seen → node session twin start →
      Foreseen lax (explored twins twin) →
      Query.Runs invariant follows session (explore seen start) fun after =>
        Agree (Collected node seen after) (explored twins twin))
    {start : Node} {twin : Twin} (found : List Link) :
    ∀ session (listed : List Edge) seen twins, invariant session →
      List.Forall₂ (node session) twins seen → node session twin start →
      List.Forall₂ (edge session twin) found listed →
      Foreseen lax ((outline key links enter).follow explored twin twins found) →
      Query.Runs invariant follows session (search.follow explore start seen listed) fun after =>
        Agree (Collected node seen after)
          ((outline key links enter).follow explored twin twins found) := by
  induction found with
  | nil =>
      intro session listed seen twins before known _ pairs _
      cases pairs
      exact Query.runs_pure before (.value ⟨known, List.prefix_refl seen⟩)
  | cons link rest ih =>
      intro session listed seen twins before known here pairs foreseen
      cases pairs with
      | @cons _ one _ others pair pairs =>
          rw [outline_follow_cons] at foreseen ⊢
          rw [follow]
          refine (outlined.enter session twin start link one before here pair
            foreseen.head).bind_agree ?_
          rintro after next entered kept onward reached ⟨reachedNode, rfl, nextKnown⟩
          have known' := known.imp fun _ _ => outlined.nodeLasts _ _ _ _ onward
          have foreseenNext := foreseen.tail reached
          refine (each after seen reachedNode twins next kept known' nextKnown
            foreseenNext.head).bind_agree ?_
          rintro last ⟨twinsLast, reply⟩ ⟨seenLast, answer⟩ keptLast onwardLast explores collected
          have both := trans_of follows onward onwardLast
          cases answer with
          | some answer => exact answer.elim
          | none =>
              have later := ih last others seenLast twinsLast keptLast collected.same
                (outlined.nodeLasts _ _ _ _ both here)
                (pairs.imp fun _ _ => outlined.edgeLasts _ _ _ _ _ both)
                (foreseenNext.tail explores)
              exact later.mono fun _ _ _ _ agree => agree.mono fun _ _ final =>
                ⟨final.same, collected.kept.trans final.kept⟩

/-- A node that has not been seen, and what is below it. -/
theorem Outlined.runs_unseen
    (outlined : Outlined lax search key links enter invariant follows node edge) {depth : Nat}
    (each : ∀ session seen start twins twin, invariant session →
      List.Forall₂ (node session) twins seen → node session twin start →
      Foreseen lax ((outline key links enter).explore depth twins twin) →
      Query.Runs invariant follows session (search.explore depth seen start) fun after =>
        Agree (Collected node seen after) ((outline key links enter).explore depth twins twin))
    {session : Session} {seen : List Node} {twins : List Twin} {start : Node} {twin : Twin}
    (before : invariant session) (known : List.Forall₂ (node session) twins seen)
    (here : node session twin start) (unseen : key twin ∉ twins.map key)
    (foreseen : Foreseen lax ((outline key links enter).explore (depth + 1) twins twin)) :
    Query.Runs invariant follows session (search.explore (depth + 1) seen start) fun after =>
      Agree (Collected node (seen ++ [start]) after)
        ((outline key links enter).explore (depth + 1) twins twin) := by
  have fresh : ¬ search.isSeen seen start = true := fun isSeen =>
    unseen ((outlined.isSeen_iff known here).mp isSeen)
  rw [outline_explore_of_unseen unseen] at foreseen ⊢
  rw [explore, if_neg fresh, outlined.silent, pure_bind]
  refine (outlined.edges session twin start before here foreseen.head).bind_agree ?_
  intro after found listed kept onward given pairs
  refine outlined.runs_follow each found after listed _ _ kept ?_
    (outlined.nodeLasts _ _ _ _ onward here) pairs (foreseen.tail given)
  exact List.rel_append (known.imp fun _ _ => outlined.nodeLasts _ _ _ _ onward)
    (.cons (outlined.nodeLasts _ _ _ _ onward here) .nil)

theorem Outlined.runs_explore
    (outlined : Outlined lax search key links enter invariant follows node edge) (depth : Nat) :
    ∀ session seen start twins twin, invariant session → List.Forall₂ (node session) twins seen →
      node session twin start →
      Foreseen lax ((outline key links enter).explore depth twins twin) →
      Query.Runs invariant follows session (search.explore depth seen start) fun after =>
        Agree (Collected node seen after) ((outline key links enter).explore depth twins twin) := by
  induction depth with
  | zero =>
      intro session seen start twins twin before known _ _
      exact Query.runs_pure before (.value ⟨known, List.prefix_refl seen⟩)
  | succ depth ih =>
      intro session seen start twins twin before known here foreseen
      by_cases isSeen : key twin ∈ twins.map key
      · have found : search.isSeen seen start = true :=
          (outlined.isSeen_iff known here).mpr isSeen
        rw [outline_explore_of_seen isSeen, explore, if_pos found]
        exact Query.runs_pure before (.value ⟨known, List.prefix_refl seen⟩)
      · refine (outlined.runs_unseen ih before known here isSeen foreseen).mono ?_
        intro after outcome _ _ agree
        exact agree.mono fun _ _ collected =>
          ⟨collected.same, (List.prefix_append seen [start]).trans collected.kept⟩

/-- A whole search collects the nodes of its outline, its start first. -/
theorem Outlined.runs_run
    (outlined : Outlined lax search key links enter invariant follows node edge) (depth : Nat)
    {session : Session} {start : Node} {twin : Twin} (before : invariant session)
    (here : node session twin start)
    (foreseen : Foreseen lax ((outline key links enter).run (depth + 1) twin)) :
    Query.Runs invariant follows session (search.run (depth + 1) start) fun after =>
      Agree (Collected node [start] after) ((outline key links enter).run (depth + 1) twin) :=
  outlined.runs_unseen (outlined.runs_explore depth) before .nil here (by simp) foreseen

/-! ## Outlines without faults -/

variable {Place : Type} {spot : Place → Key} {successors : Place → List Place}

/-- The plain search that collects the places of a graph. -/
abbrev collecting (spot : Place → Key) (successors : Place → List Place) :
    Search Id Place Key Place Empty :=
  plain spot (fun _ => none) successors

omit [DecidableEq Key] in
theorem collecting_follow_cons (explore : List Place → Place → Id (List Place × Option Empty))
    (place next : Place) (seen rest : List Place) :
    (collecting spot successors).follow explore place seen (next :: rest) =
      (collecting spot successors).follow explore place (explore seen next).1 rest := by
  rw [follow_cons]
  rcases explore seen next with ⟨after, answer⟩
  cases answer with
  | none => rfl
  | some answer => exact answer.elim

omit [DecidableEq Key] in
theorem outline_follow_of_graph
    {explore : List Place → Place → Except Fault (List Place × Option Empty)}
    {explorePlain : List Place → Place → Id (List Place × Option Empty)}
    (each : ∀ seen place, explore seen place = .ok (explorePlain seen place)) (place : Place)
    (nexts seen : List Place) :
    (outline spot (fun place => .ok (successors place)) fun _ next => .ok next).follow explore place
      seen nexts = .ok ((collecting spot successors).follow explorePlain place seen nexts) := by
  induction nexts generalizing seen with
  | nil => rfl
  | cons next rest ih =>
      rw [outline_follow_cons, collecting_follow_cons]
      change (explore seen next >>= _) = _
      rw [each, ← ih]
      rfl

/-- An outline that is a graph has no faults. -/
theorem outline_explore_of_graph (depth : Nat) (seen : List Place) (place : Place) :
    (outline spot (fun place => .ok (successors place)) fun _ next => .ok next).explore depth seen
      place = .ok ((collecting spot successors).explore depth seen place) := by
  induction depth generalizing seen place with
  | zero => rfl
  | succ depth ih =>
      by_cases isSeen : spot place ∈ seen.map spot
      · rw [outline_explore_of_seen isSeen, explore_of_seen isSeen]
      · rw [outline_explore_of_unseen isSeen, explore_succ_of_silent isSeen rfl]
        exact outline_follow_of_graph ih place (successors place) (seen ++ [place])

/-! ## Outlines with faults -/

/-- An outline whose steps have faults just at the flawed places of a graph, and
elsewhere lead to their successors. -/
structure Faulty (key : Twin → Key) (links : Twin → Except Fault (List Link))
    (enter : Twin → Link → Except Fault Twin) (spot : Place → Key)
    (successors : Place → List Place) (place : Twin → Place) (flawed : Place → Prop)
    (Within : Twin → Prop) : Prop where
  keyed : ∀ twin, key twin = spot (place twin)
  sound : ∀ twin, Within twin → ¬ flawed (place twin) → ∃ found, links twin = .ok found ∧
    List.Forall₂ (fun link next => ∃ entered, enter twin link = .ok entered ∧
      place entered = next ∧ Within entered) found (successors (place twin))
  fails : ∀ twin, Within twin → flawed (place twin) → (∃ fault, links twin = .error fault) ∨
    ∃ found, links twin = .ok found ∧ ∃ link ∈ found, ∃ fault, enter twin link = .error fault

/-- What an outline comes to, next to a plain search: without a fault it has seen
the same places, none of them flawed; with one, a flawed place has been seen. -/
inductive Paced (place : Twin → Place) (flawed : Place → Prop) (seen : List Twin) :
    Except Fault (List Twin × Option Empty) → List Place × Option Empty → Prop where
  | value {after : List Twin}
      (fine : ∀ one ∈ after, one ∈ seen ∨ ¬ flawed (place one)) :
      Paced place flawed seen (.ok (after, none)) (after.map place, none)
  | fault (fault : Fault) {places : List Place} {answer : Option Empty} {one : Place}
      (member : one ∈ places) (isFlawed : flawed one) :
      Paced place flawed seen (.error fault) (places, answer)

variable {place : Twin → Place} {flawed : Place → Prop} {Within : Twin → Prop}

/-- An outline that goes on from sound places only is in pace with the plain
search from the start. -/
theorem Paced.of_sound {seen earlier : List Twin}
    {outcome : Except Fault (List Twin × Option Empty)} {result : List Place × Option Empty}
    (paced : Paced place flawed seen outcome result)
    (fine : ∀ one ∈ seen, one ∈ earlier ∨ ¬ flawed (place one)) :
    Paced place flawed earlier outcome result := by
  cases paced with
  | fault fault member isFlawed => exact .fault fault member isFlawed
  | value fineLast =>
      refine .value fun one member => ?_
      rcases fineLast one member with early | sound
      · exact fine one early
      · exact .inr sound

omit [DecidableEq Key] in
/-- Following several links ends with a fault if entering one of them does. -/
theorem outline_follow_fails
    {explore : List Twin → Twin → Except Fault (List Twin × Option Empty)} {twin : Twin}
    {found : List Link} (fails : ∃ link ∈ found, ∃ fault, enter twin link = .error fault) :
    ∀ seen, ∃ fault, (outline key links enter).follow explore twin seen found = .error fault := by
  induction found with
  | nil =>
      obtain ⟨link, member, _⟩ := fails
      cases member
  | cons link rest ih =>
      intro seen
      rw [outline_follow_cons]
      cases entered : enter twin link with
      | error fault => exact ⟨fault, rfl⟩
      | ok next =>
          have later : ∃ other ∈ rest, ∃ fault, enter twin other = .error fault := by
            obtain ⟨other, member, fault, failed⟩ := fails
            rcases List.mem_cons.mp member with rfl | inRest
            · rw [entered] at failed
              cases failed
            · exact ⟨other, inRest, fault, failed⟩
          change ∃ fault, (explore seen next >>= fun result =>
            (outline key links enter).follow explore twin result.1 rest) = .error fault
          cases explores : explore seen next with
          | error fault => exact ⟨fault, rfl⟩
          | ok result => exact ih later result.1

omit [DecidableEq Key] in
/-- Nothing gets past a flawed place without a fault. -/
theorem Faulty.follow_fails
    (faulty : Faulty key links enter spot successors place flawed Within) {twin : Twin}
    (within : Within twin) (isFlawed : flawed (place twin))
    (explore : List Twin → Twin → Except Fault (List Twin × Option Empty)) (seen : List Twin) :
    ∃ fault, (links twin >>= fun found =>
      (outline key links enter).follow explore twin seen found) = .error fault := by
  rcases faulty.fails twin within isFlawed with ⟨fault, failed⟩ | ⟨found, given, fails⟩
  · rw [failed]
    exact ⟨fault, rfl⟩
  · rw [given]
    exact outline_follow_fails fails seen

omit [DecidableEq Key] in
theorem paced_follow {explore : List Twin → Twin → Except Fault (List Twin × Option Empty)}
    {explorePlain : List Place → Place → Id (List Place × Option Empty)}
    (mono : ∀ seen place, ∀ other ∈ seen, other ∈ (explorePlain seen place).1)
    (each : ∀ seen twin, Within twin → Paced place flawed seen (explore seen twin)
      (explorePlain (seen.map place) (place twin)))
    {twin : Twin} {found : List Link} {nexts : List Place}
    (pairs : List.Forall₂ (fun link next => ∃ entered, enter twin link = .ok entered ∧
      place entered = next ∧ Within entered) found nexts) :
    ∀ seen, Paced place flawed seen ((outline key links enter).follow explore twin seen found)
      ((collecting spot successors).follow explorePlain (place twin) (seen.map place) nexts) := by
  induction pairs with
  | nil => exact fun seen => .value fun one member => .inl member
  | @cons link next found nexts pair _ ih =>
      intro seen
      obtain ⟨entered, isEntered, rfl, within⟩ := pair
      rw [outline_follow_cons, collecting_follow_cons, isEntered]
      have head := each seen entered within
      change Paced place flawed seen (explore seen entered >>= fun result =>
        (outline key links enter).follow explore twin result.1 found) _
      generalize explore seen entered = outcome at head
      generalize explorePlain (seen.map place) (place entered) = plain at head
      cases head with
      | fault fault member isFlawed =>
          exact .fault fault (follow_mono mono _ _ _ _ member) isFlawed
      | @value after fine =>
          have tail := ih after
          exact tail.of_sound fine

theorem paced_explore (faulty : Faulty key links enter spot successors place flawed Within)
    (depth : Nat) : ∀ seen twin, Within twin →
      Paced place flawed seen ((outline key links enter).explore depth seen twin)
        ((collecting spot successors).explore depth (seen.map place) (place twin)) := by
  induction depth with
  | zero => exact fun seen _ _ => .value fun one member => .inl member
  | succ depth ih =>
      intro seen twin within
      have sameKeys : (seen.map place).map spot = seen.map key := by
        rw [List.map_map]
        exact List.map_congr_left fun one _ => (faulty.keyed one).symm
      have sameSeen : (seen ++ [twin]).map place = seen.map place ++ [place twin] := by simp
      have placed : spot (place twin) ∈ (seen.map place).map spot ↔ key twin ∈ seen.map key := by
        rw [sameKeys, faulty.keyed]
      by_cases isSeen : key twin ∈ seen.map key
      · rw [outline_explore_of_seen isSeen, explore_of_seen (placed.mpr isSeen)]
        exact .value fun one member => .inl member
      · rw [outline_explore_of_unseen isSeen,
          explore_succ_of_silent (fun isPlaced => isSeen (placed.mp isPlaced)) rfl, ← sameSeen]
        by_cases isFlawed : flawed (place twin)
        · have member : place twin ∈ ((collecting spot successors).follow
              ((collecting spot successors).explore depth) (place twin)
              ((seen ++ [twin]).map place) (successors (place twin))).1 :=
            follow_mono (explore_mono depth) _ _ _ _ (by simp)
          obtain ⟨fault, failed⟩ := faulty.follow_fails within isFlawed
            ((outline key links enter).explore depth) (seen ++ [twin])
          rw [failed]
          exact .fault fault member isFlawed
        · obtain ⟨found, given, pairs⟩ := faulty.sound twin within isFlawed
          rw [given]
          refine Paced.of_sound (paced_follow (explore_mono depth) ih pairs (seen ++ [twin]))
            fun one member => ?_
          rcases List.mem_append.mp member with before | isTwin
          · exact .inl before
          · exact .inr (List.mem_singleton.mp isTwin ▸ isFlawed)

/-- An outline has a fault just when the plain search sees a flawed place;
without one, both see the same places. -/
theorem outline_run_fails_iff
    (faulty : Faulty key links enter spot successors place flawed Within) (depth : Nat)
    {start : Twin} (within : Within start) :
    (∃ fault, (outline key links enter).run depth start = .error fault) ↔
      ∃ one ∈ ((collecting spot successors).run depth (place start)).1, flawed one := by
  have paced := paced_explore faulty depth [] start within
  change Paced place flawed [] ((outline key links enter).run depth start)
    ((collecting spot successors).run depth (place start)) at paced
  generalize (outline key links enter).run depth start = outcome at paced
  generalize (collecting spot successors).run depth (place start) = plain at paced
  cases paced with
  | fault fault member isFlawed => exact ⟨fun _ => ⟨_, member, isFlawed⟩, fun _ => ⟨fault, rfl⟩⟩
  | value fine =>
      constructor
      · rintro ⟨fault, failed⟩
        cases failed
      · rintro ⟨one, member, isFlawed⟩
        obtain ⟨twin, isTwin, rfl⟩ := List.mem_map.mp member
        rcases fine twin isTwin with early | sound
        · cases early
        · exact absurd isFlawed sound

end Search

end JavaSymbols
