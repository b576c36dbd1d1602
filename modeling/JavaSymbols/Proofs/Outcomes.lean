import Mathlib.Data.List.Forall2

/-!
# Outcomes one after another

What is known of a sequence of outcomes from those of its members, and the
other way round.
-/

/-- A sequence has a value when both of its parts have one. -/
theorem Except.bind_eq_ok {ε α β : Type} {first : Except ε α} {next : α → Except ε β} {value : β}
    (done : (first >>= next) = .ok value) :
    ∃ middle, first = .ok middle ∧ next middle = .ok value := by
  cases first with
  | error fault => cases done
  | ok middle => exact ⟨middle, rfl, done⟩

/-- A sequence ends with the fault of one of its parts. -/
theorem Except.bind_eq_error {ε α β : Type} {first : Except ε α} {next : α → Except ε β} {fault : ε}
    (failed : (first >>= next) = .error fault) :
    first = .error fault ∨ ∃ middle, first = .ok middle ∧ next middle = .error fault := by
  cases first with
  | error cause =>
      cases failed
      exact .inl rfl
  | ok middle => exact .inr ⟨middle, rfl, failed⟩

theorem Except.bind_pure_eq_error {ε α β : Type} {first : Except ε α} {change : α → β} {fault : ε}
    (failed : (first >>= fun value => pure (change value)) = .error fault) :
    first = .error fault := by
  rcases Except.bind_eq_error failed with here | ⟨_, _, later⟩
  · exact here
  · cases later

/-- The value of a changed outcome comes from a value. -/
theorem Except.map_eq_ok {ε α β : Type} {outcome : Except ε α} {change : α → β} {value : β}
    (done : outcome.map change = .ok value) :
    ∃ given, outcome = .ok given ∧ change given = value := by
  cases outcome with
  | error fault => cases done
  | ok given =>
      cases done
      exact ⟨given, rfl, rfl⟩

/-- A changed outcome has no faults of its own. -/
theorem Except.map_eq_error {ε α β : Type} {outcome : Except ε α} {change : α → β} {fault : ε}
    (failed : outcome.map change = .error fault) : outcome = .error fault := by
  cases outcome with
  | error cause =>
      cases failed
      rfl
  | ok given => cases failed

theorem Except.exists_of_toBool {ε α : Type} {outcome : Except ε α}
    (done : outcome.toBool = true) : ∃ value, outcome = .ok value := by
  cases outcome with
  | error fault => cases done
  | ok value => exact ⟨value, rfl⟩

namespace JavaSymbols

/-- A sequence depends on what is run for its members alone. -/
theorem mapM_congr_of_mem {m : Type → Type} [Monad m] [LawfulMonad m] {α β : Type}
    {entries : List α} {first second : α → m β}
    (same : ∀ entry ∈ entries, first entry = second entry) :
    entries.mapM first = entries.mapM second := by
  induction entries with
  | nil => rfl
  | cons entry rest ih =>
      rw [List.mapM_cons, List.mapM_cons, same entry List.mem_cons_self,
        ih fun other member => same other (List.mem_cons_of_mem entry member)]

/-- The values of a sequence are those of its members. -/
theorem forall₂_of_mapM_eq_ok {ε α β : Type} {run : α → Except ε β} {entries : List α}
    {values : List β} (done : entries.mapM run = .ok values) :
    List.Forall₂ (fun entry value => run entry = .ok value) entries values := by
  induction entries generalizing values with
  | nil =>
      cases done
      exact .nil
  | cons entry rest ih =>
      rw [List.mapM_cons] at done
      obtain ⟨value, here, onward⟩ := Except.bind_eq_ok done
      obtain ⟨others, later, same⟩ := Except.bind_eq_ok onward
      cases same
      exact .cons here (ih later)

/-- A fault of a sequence is a fault of one of its members. -/
theorem exists_of_mapM_eq_error {ε α β : Type} {run : α → Except ε β} {entries : List α}
    {fault : ε} (failed : entries.mapM run = .error fault) :
    ∃ entry ∈ entries, run entry = .error fault := by
  induction entries with
  | nil => cases failed
  | cons entry rest ih =>
      rw [List.mapM_cons] at failed
      cases here : run entry with
      | error cause =>
          rw [here] at failed
          cases failed
          exact ⟨entry, List.mem_cons_self, here⟩
      | ok value =>
          rw [here] at failed
          have later := Except.bind_pure_eq_error failed
          obtain ⟨other, member, same⟩ := ih later
          exact ⟨other, List.mem_cons_of_mem entry member, same⟩

/-- A sequence has a value when all of its members have one. -/
theorem exists_mapM_eq_ok {ε α β : Type} {run : α → Except ε β} {entries : List α}
    (each : ∀ entry ∈ entries, ∃ value, run entry = .ok value) :
    ∃ values, entries.mapM run = .ok values := by
  cases ran : entries.mapM run with
  | ok values => exact ⟨values, rfl⟩
  | error fault =>
      obtain ⟨entry, member, failed⟩ := exists_of_mapM_eq_error ran
      obtain ⟨value, given⟩ := each entry member
      rw [given] at failed
      cases failed

/-- When a sequence has a value, the values of all of its members are in it. -/
theorem exists_mem_of_mapM_eq_ok {ε α β : Type} {run : α → Except ε β} {entries : List α}
    {values : List β} (done : entries.mapM run = .ok values) {entry : α}
    (member : entry ∈ entries) :
    ∃ value ∈ values, run entry = .ok value := by
  have pairs := forall₂_of_mapM_eq_ok done
  clear done
  induction pairs with
  | nil => cases member
  | cons here _ ih =>
      rcases List.mem_cons.mp member with rfl | later
      · exact ⟨_, List.mem_cons_self, here⟩
      · obtain ⟨value, isValue, same⟩ := ih later
        exact ⟨value, List.mem_cons_of_mem _ isValue, same⟩

/-- When a sequence has a value, all of its members have one. -/
theorem exists_of_mapM_eq_ok {ε α β : Type} {run : α → Except ε β} {entries : List α}
    {values : List β} (done : entries.mapM run = .ok values) {entry : α}
    (member : entry ∈ entries) :
    ∃ value, run entry = .ok value := by
  obtain ⟨value, _, same⟩ := exists_mem_of_mapM_eq_ok done member
  exact ⟨value, same⟩

/-- A value of a sequence is the value of a member. -/
theorem exists_of_mem_mapM {ε α β : Type} {run : α → Except ε β} {entries : List α}
    {values : List β} (done : entries.mapM run = .ok values) {value : β} (member : value ∈ values) :
    ∃ entry ∈ entries, run entry = .ok value := by
  have pairs := forall₂_of_mapM_eq_ok done
  clear done
  induction pairs with
  | nil => cases member
  | @cons entry one rest others here _ ih =>
      rcases List.mem_cons.mp member with rfl | later
      · exact ⟨entry, List.mem_cons_self, here⟩
      · obtain ⟨other, isListed, same⟩ := ih later
        exact ⟨other, List.mem_cons_of_mem entry isListed, same⟩

/-- What is known of the values of all members holds of the members of all these
values. -/
theorem exists_flatten_of_mapM {ε α β : Type} {run : α → Except ε (List β)} {entries : List α}
    {holds : α → β → Prop}
    (each : ∀ entry ∈ entries, ∃ values, run entry = .ok values ∧
      ∀ value ∈ values, holds entry value) :
    ∃ lists, entries.mapM run = .ok lists ∧
      ∀ value ∈ lists.flatten, ∃ entry ∈ entries, holds entry value := by
  obtain ⟨lists, given⟩ : ∃ lists, entries.mapM run = .ok lists := by
    apply exists_mapM_eq_ok
    intro entry member
    obtain ⟨values, here, _⟩ := each entry member
    exact ⟨values, here⟩
  refine ⟨lists, given, ?_⟩
  intro value member
  obtain ⟨values, isList, listed⟩ := List.mem_flatten.mp member
  obtain ⟨entry, isEntry, here⟩ := exists_of_mem_mapM given isList
  obtain ⟨others, same, fine⟩ := each entry isEntry
  rw [same] at here
  cases here
  exact ⟨entry, isEntry, fine value listed⟩

/-- Entries of two lists at the same index. -/
theorem forall₂_getElem? {α β : Type} {related : α → β → Prop} {first : List α} {second : List β}
    (pairs : List.Forall₂ related first second) {index : Nat} {one : α} {other : β}
    (isOne : first[index]? = some one) (isOther : second[index]? = some other) :
    related one other := by
  obtain ⟨bound, rfl⟩ := List.getElem?_eq_some_iff.mp isOne
  obtain ⟨boundOther, rfl⟩ := List.getElem?_eq_some_iff.mp isOther
  exact List.Forall₂.get pairs bound boundOther

/-- An entry of the second of two lists has one of the first at its index. -/
theorem exists_of_forall₂_getElem? {α β : Type} {related : α → β → Prop} {first : List α}
    {second : List β} (pairs : List.Forall₂ related first second) {index : Nat} {other : β}
    (isOther : second[index]? = some other) :
    ∃ one, first[index]? = some one ∧ related one other := by
  obtain ⟨bound, _⟩ := List.getElem?_eq_some_iff.mp isOther
  have boundFirst : index < first.length := pairs.length_eq ▸ bound
  have isOne := List.getElem?_eq_getElem boundFirst
  exact ⟨_, isOne, forall₂_getElem? pairs isOne isOther⟩

/-- Searching related lists for the first entry that passes. -/
theorem exists_find?_of_forall₂ {α β : Type} {related : α → β → Prop} {first : α → Bool}
    {second : β → Bool} (passes : ∀ a b, related a b → first a = second b) {entries : List α}
    {others : List β} (pairs : List.Forall₂ related entries others) {entry : α}
    (found : entries.find? first = some entry) :
    ∃ other, others.find? second = some other ∧ related entry other := by
  induction pairs with
  | nil => cases found
  | @cons a b _ _ here _ ih =>
      rw [List.find?_cons] at found ⊢
      rw [← passes a b here]
      cases pass : first a with
      | true =>
          rw [pass] at found
          cases found
          exact ⟨b, rfl, here⟩
      | false =>
          rw [pass] at found
          exact ih found

/-! ## Lists of outcomes -/

/-- Some values and then further outcomes. -/
theorem mapM_map_ok_append {ε α : Type} (values : List α) (rest : List (Except ε α)) :
    (values.map Except.ok ++ rest).mapM (fun outcome => outcome) = (do
      let others ← rest.mapM (fun outcome => outcome)
      pure (values ++ others)) := by
  induction values with
  | nil => exact (bind_pure _).symm
  | cons value values ih =>
      rw [List.map_cons, List.cons_append, List.mapM_cons, ih]
      cases rest.mapM (fun outcome => outcome) <;> rfl

/-- The first fault of a sequence is what it ends with. -/
theorem mapM_map_ok_append_error {ε α : Type} (values : List α) (fault : ε)
    (rest : List (Except ε α)) :
    (values.map Except.ok ++ Except.error fault :: rest).mapM (fun outcome => outcome) =
      Except.error fault := by
  rw [mapM_map_ok_append, List.mapM_cons]
  rfl

section

variable {ε α : Type} {outcomes : List (Except ε α)} {values : List α}

/-- The values among some outcomes. -/
theorem mem_filterMap_toOption {value : α} :
    value ∈ outcomes.filterMap Except.toOption ↔ .ok value ∈ outcomes := by
  rw [List.mem_filterMap]
  constructor
  · rintro ⟨outcome, member, isValue⟩
    cases outcome with
    | error fault => cases isValue
    | ok other =>
        cases isValue
        exact member
  · exact fun member => ⟨_, member, rfl⟩

/-- A sequence of outcomes without faults. -/
theorem eq_map_ok_of_mapM (done : outcomes.mapM (fun outcome => outcome) = .ok values) :
    outcomes = values.map .ok := by
  have pairs := forall₂_of_mapM_eq_ok done
  clear done
  induction pairs with
  | nil => rfl
  | cons here _ ih => rw [List.map_cons, ← ih, here]

/-- The values of a sequence of outcomes without faults. -/
theorem filterMap_toOption_of_mapM (done : outcomes.mapM (fun outcome => outcome) = .ok values) :
    outcomes.filterMap Except.toOption = values := by
  rw [eq_map_ok_of_mapM done, List.filterMap_map]
  exact List.filterMap_some

/-- A sequence has a fault just when one of its members has. -/
theorem mapM_fails_iff : (∃ fault, outcomes.mapM (fun outcome => outcome) = .error fault) ↔
    ∃ fault, .error fault ∈ outcomes := by
  constructor
  · rintro ⟨fault, failed⟩
    obtain ⟨outcome, member, same⟩ := exists_of_mapM_eq_error failed
    exact ⟨fault, same ▸ member⟩
  · rintro ⟨fault, member⟩
    cases done : outcomes.mapM fun outcome => outcome with
    | error cause => exact ⟨cause, rfl⟩
    | ok values =>
        rw [eq_map_ok_of_mapM done] at member
        obtain ⟨value, _, same⟩ := List.mem_map.mp member
        cases same

end

end JavaSymbols
