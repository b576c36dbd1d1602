import Mathlib.Tactic.MkIffOfInductiveProp
import JavaSymbols.Proofs.DeclTree.Clashes
import JavaSymbols.Proofs.Resolution.Indexed
import JavaSymbols.Proofs.Resolution.Lookup

/-!
# Printed names can be read back

The lookup of a dotted name asks every enclosing declaration and then the
compilation unit for its first segment, and the unit for the whole name in the
packages that it looks into.  A qualified name to which none of them has an
answer of its own is handed on as it stands, down to the source of names.  Over
the index of a tree it is then read back as the item that it was printed for.
-/

namespace JavaSymbols

/-! ## What could capture a name -/

namespace Dotted

/-- The part of a dotted text before its first dot; all of it when it has no
dot. -/
def firstSegment (text : String) : String :=
  (split text).head?.getD text

theorem split_eq_cons (text : String) :
    split text = firstSegment text :: (split text).tail := by
  rw [firstSegment]
  cases pieces : split text with
  | nil => exact absurd pieces (split_ne_nil text)
  | cons head rest => rfl

end Dotted

/-- The simple name that an import makes visible, if it imports one type. -/
def Import.typeName? : Import → Option String
  | .single name => name.last?
  | .onDemand _ => none

/-- The package that an import looks into, if it imports on demand. -/
def Import.package? : Import → Option PackageName
  | .single _ => none
  | .onDemand package => some package

/-- The packages that a unit looks into, apart from `java.lang`. -/
def SourceUnit.packages (unit : SourceUnit) : List PackageName :=
  unit.package :: unit.imports.filterMap Import.package?

namespace Scope

/-- The declarations whose bodies enclose a scope, innermost first. -/
def enclosing (tree : DeclTree) : Scope → List ItemId
  | .unit _ => []
  | .body item => tree.chain item

/-- The compilation unit that a scope is in. -/
def unitIn (tree : DeclTree) : Scope → UnitId
  | .unit id => id
  | .body item => (tree.item item).unit

/-- The scopes of a tree. -/
def Inside (tree : DeclTree) : Scope → Prop
  | .unit id => id < tree.units.size
  | .body item => item < tree.size

end Scope

namespace DeclTree

/-- Neither an item nor one of its member types or type parameters has a
name. -/
@[mk_iff]
structure Lacks (tree : DeclTree) (name : String) (id : ItemId) : Prop where
  own : tree.simpleName id ≠ name
  members : ∀ member ∈ (tree.item id).members, tree.simpleName member ≠ name
  parameters : ∀ param ∈ tree.paramsOf (.type id), param.name ≠ name

/-- Nothing around a scope has the first segment of a name, and no item has the
name in a package that the scope looks into. -/
@[mk_iff]
structure Unobscured (tree : DeclTree) (scope : Scope) (name : String) : Prop where
  enclosing : ∀ id ∈ scope.enclosing tree, tree.Lacks (Dotted.firstSegment name) id
  topLevel : ∀ id ∈ (tree.unit (scope.unitIn tree)).types,
    tree.simpleName id ≠ Dotted.firstSegment name
  imported : ∀ entry ∈ (tree.unit (scope.unitIn tree)).imports,
    entry.typeName? ≠ some (Dotted.firstSegment name)
  packaged : ∀ package ∈ (tree.unit (scope.unitIn tree)).packages, package.isRoot = false →
    ∀ id < tree.size, tree.qualifiedName id ≠ package.qualify name
  language : ∀ id < tree.size, tree.qualifiedName id ≠ "java.lang." ++ name

instance (tree : DeclTree) (name : String) (id : ItemId) : Decidable (tree.Lacks name id) :=
  decidable_of_iff _ (lacks_iff tree name id).symm

instance (tree : DeclTree) (scope : Scope) (name : String) :
    Decidable (tree.Unobscured scope name) :=
  decidable_of_iff _ (unobscured_iff tree scope name).symm

variable {tree : DeclTree} {head : String} {rest : List String}

/-! ## Inside one declaration -/

/-- A path that starts with another name than a single segment does not lose it. -/
theorem afterOwnName?_of_ne {own : String} (other : own ≠ head) :
    afterOwnName? [own] (head :: rest) = none := by
  have differs : ¬ (own == head) = true := by simpa using other
  have apart : List.isPrefixOf? [own] (head :: rest) = none := if_neg differs
  rw [afterOwnName?, apart]

/-- A path that does not start with an item's own name has no other reading
there. -/
theorem readingsIn_of_lacks {id : ItemId} (lacks : tree.Lacks head id)
    (plain : Dotted.IsSegment (tree.simpleName id)) :
    tree.readingsIn id (head :: rest) = [head :: rest] := by
  rw [readingsIn, Dotted.split_of_dotFree plain.2, List.length_cons, readings,
    afterOwnName?_of_ne lacks.own]

/-- A path denotes nothing in an item in which nothing has its first name. -/
theorem denotedIn?_of_lacks {id : ItemId} (lacks : tree.Lacks head id)
    (plain : Dotted.IsSegment (tree.simpleName id)) :
    tree.denotedIn? id (head :: rest) = none := by
  have own : head :: rest ≠ Dotted.split (tree.simpleName id) := by
    rw [Dotted.split_of_dotFree plain.2]
    intro same
    exact lacks.own (List.cons.inj same).1.symm
  have noMember : tree.memberAt? id (head :: rest) = none := by
    have none : tree.member? id head = none := by
      rw [member?, List.find?_eq_none]
      intro member listed
      simpa using lacks.members member listed
    rw [memberAt?, none, Option.bind_none]
  have noParameter : tree.parameterNamed? (.type id) head = none := by
    rw [parameterNamed?, Option.map_eq_none_iff, List.findIdx?_eq_none_iff]
    intro param listed
    simpa using lacks.parameters param listed
  rw [denotedIn?, if_neg own]
  cases rest with
  | nil => simp only [visible?, noParameter, noMember, Option.map_none]
  | cons second more => simp only [visible?, noMember, Option.map_none]

/-! ## Inside a unit -/

theorem topLevel?_eq_none {unit : UnitId}
    (lacks : ∀ id ∈ (tree.unit unit).types, tree.simpleName id ≠ head) :
    tree.topLevel? unit (head :: rest) = none := by
  rw [topLevel?, List.findSome?_eq_none_iff]
  intro id listed
  simp [lacks id listed]

end DeclTree

/-- An import of one type has no reading of a path that starts with another
name. -/
theorem Import.singleReading?_eq_none {head : String} {rest : List String} {entry : Import}
    (other : entry.typeName? ≠ some head) : entry.singleReading? (head :: rest) = none := by
  cases entry with
  | onDemand package => rfl
  | single name =>
      have differs : (name.last? == some head) = false := by simpa [typeName?] using other
      simp [singleReading?, differs]

/-- Without imports of its first name, a name stands for itself, alone or in one
of the packages that the unit looks into. -/
theorem SourceUnit.mem_qualifiedReadings {unit : SourceUnit} {name reading : String}
    (other : ∀ entry ∈ unit.imports, entry.typeName? ≠ some (Dotted.firstSegment name))
    (member : reading ∈ unit.qualifiedReadings (Dotted.split name)) :
    (∃ package ∈ unit.packages, reading = package.qualify name) ∨
      reading = "java.lang." ++ name ∨ reading = name := by
  have noSingle : unit.imports.filterMap (Import.singleReading? (Dotted.split name)) = [] := by
    rw [List.filterMap_eq_nil_iff]
    intro entry listed
    rw [Dotted.split_eq_cons]
    exact Import.singleReading?_eq_none (other entry listed)
  simp only [qualifiedReadings, noSingle, List.nil_append, Dotted.join_split, List.cons_append,
    List.mem_cons, List.mem_append, List.mem_filterMap, List.not_mem_nil, or_false] at member
  rcases member with own | ⟨entry, listed, onDemand⟩ | language | alone
  · exact .inl ⟨unit.package, List.mem_cons_self, own⟩
  · cases entry with
    | single imported => cases onDemand
    | onDemand package =>
        refine .inl ⟨package, List.mem_cons_of_mem _ (List.mem_filterMap.mpr ⟨_, listed, rfl⟩), ?_⟩
        simpa [Import.onDemandReading?] using onDemand.symm
  · exact .inr (.inl language)
  · exact .inr (.inr alone)

/-- A name stands for itself in every unit. -/
theorem SourceUnit.self_mem_qualifiedReadings (unit : SourceUnit) (name : String) :
    name ∈ unit.qualifiedReadings (Dotted.split name) := by
  simp [qualifiedReadings]

/-! ## The lookup -/

namespace Environment

variable {env : Environment}

/-- When each of several names denotes the same item or nothing, and one of them
denotes it, the item is found. -/
theorem outcome_firstSolved (wellFormed : env.tree.WellFormed) {id : ItemId}
    (inside : id < env.tree.size) {names : List String}
    (each : ∀ name ∈ names, env.solve name = none ∨ env.solve name = some id)
    (known : ∃ name ∈ names, env.solve name = some id) :
    (env.firstSolved names).outcome = .ok (some (.item id)) := by
  induction names with
  | nil =>
      obtain ⟨name, member, _⟩ := known
      cases member
  | cons name rest ih =>
      rw [firstSolved, solveQualified]
      rcases each name List.mem_cons_self with silent | here
      · have later : ∃ other ∈ rest, env.solve other = some id := by
          obtain ⟨other, member, solved⟩ := known
          rcases List.mem_cons.mp member with rfl | inRest
          · rw [silent] at solved
            cases solved
          · exact ⟨other, inRest, solved⟩
        rw [silent]
        exact ih (fun other member => each other (List.mem_cons_of_mem name member)) later
      · simp [here, declaration_of_lt wellFormed inside]

/-- A path gets through declarations in which nothing has its first name. -/
theorem outcome_lookupOutward_of_lacks {unit : UnitId} {head : String} {rest : List String}
    {enclosing : List ItemId} (lacks : ∀ id ∈ enclosing, env.tree.Lacks head id)
    (plain : ∀ id ∈ enclosing, Dotted.IsSegment (env.tree.simpleName id)) :
    (env.lookupOutward unit enclosing (head :: rest)).outcome =
      (env.lookupInUnit unit (head :: rest)).outcome := by
  induction enclosing with
  | nil => rfl
  | cons id outer ih =>
      have here := lacks id List.mem_cons_self
      have own := plain id List.mem_cons_self
      have onward := ih (fun link member => lacks link (List.mem_cons_of_mem id member))
        fun link member => plain link (List.mem_cons_of_mem id member)
      simp only [lookupOutward, DeclTree.readingsIn_of_lacks here own, List.findSome?_cons,
        List.findSome?_nil, DeclTree.denotedIn?_of_lacks here own, List.getLastD_cons,
        Traced.outcome_bind, Traced.outcome_report, Except.bind]
      exact onward

/-- Over the index of a tree without two items of one name, and with types whose
names are single segments, the qualified name of an item denotes that item in
every scope in which it is not obscured. -/
theorem lookup_qualifiedName (built : env.tree.Built) (distinct : env.tree.DistinctItems)
    (plain : ∀ id < env.tree.size, Dotted.IsSegment (env.tree.simpleName id))
    (source : env.solve = (NameIndex.ofTree env.tree).find?) {id : ItemId}
    (inside : id < env.tree.size) {scope : Scope} (scopeInside : scope.Inside env.tree)
    (unobscured : env.tree.Unobscured scope (env.tree.qualifiedName id)) :
    (env.lookup scope (env.tree.qualifiedName id)).outcome = .ok (some (.item id)) := by
  have known : env.solve (env.tree.qualifiedName id) = some id := by
    rw [source]
    exact distinct.find?_ofTree inside
  have unknown : ∀ name, (∀ other < env.tree.size, env.tree.qualifiedName other ≠ name) →
      env.solve name = none := by
    intro name borne
    cases solved : env.solve name with
    | none => rfl
    | some other =>
        rw [source] at solved
        obtain ⟨otherInside, named⟩ := NameIndex.of_find?_ofTree solved
        exact absurd named (borne other otherInside)
  have inUnit : (env.lookupInUnit (scope.unitIn env.tree)
      (Dotted.split (env.tree.qualifiedName id))).outcome = .ok (some (.item id)) := by
    have noTopLevel : env.tree.topLevel? (scope.unitIn env.tree)
        (Dotted.split (env.tree.qualifiedName id)) = none := by
      rw [Dotted.split_eq_cons]
      exact DeclTree.topLevel?_eq_none unobscured.topLevel
    rw [lookupInUnit, noTopLevel]
    refine outcome_firstSolved built.wellFormed inside ?_
      ⟨_, SourceUnit.self_mem_qualifiedReadings _ _, known⟩
    intro reading listed
    rcases SourceUnit.mem_qualifiedReadings unobscured.imported listed with
      ⟨package, looked, rfl⟩ | rfl | rfl
    · cases isRoot : package.isRoot with
      | true =>
          rw [PackageName.qualify, if_pos isRoot]
          exact .inr known
      | false => exact .inl (unknown _ (unobscured.packaged package looked isRoot))
    · exact .inl (unknown _ unobscured.language)
    · exact .inr known
  cases scope with
  | unit unit => exact inUnit
  | body item =>
      have chainInside : ∀ link ∈ env.tree.chain item, link < env.tree.size :=
        fun link => built.wellFormed.chain_lt scopeInside
      rw [lookup, known_of_lt scopeInside, pure_bind, ← inUnit, Dotted.split_eq_cons]
      exact outcome_lookupOutward_of_lacks unobscured.enclosing
        fun link member => plain link (chainInside link member)

/-- A class with a member type, in a unit that imports one type and two packages,
the unnamed one among them. -/
def shelves : DeclTree :=
  ((DeclTree.coreLibrary.addUnit ⟨["demo"]⟩ [.single ⟨["other", "Reader"]⟩,
    .onDemand ⟨["java", "io"]⟩, .onDemand .root]).addType 3
      { TypeDecl.empty .classType "Shelf" with typeParams := [⟨"T", []⟩] }).addMember 10
        (TypeDecl.empty .classType "Slot")

theorem built_shelves : shelves.Built :=
  ((DeclTree.built_coreLibrary.addUnit _ _).addType 3 _ (by decide +kernel)).addMember 10 _
    (by decide +kernel)

/-- A library type is read back inside of the member type, and the member type in
another unit. -/
theorem lookup_shelves :
    ((indexed shelves).lookup (.body 11) "java.io.Serializable").outcome = .ok (some (.item 8)) ∧
    ((indexed shelves).lookup (.unit 0) "demo.Shelf.Slot").outcome = .ok (some (.item 11)) := by
  have distinct : shelves.DistinctItems := by decide +kernel
  have plain : ∀ id < shelves.size, Dotted.IsSegment (shelves.simpleName id) := by decide +kernel
  have library : shelves.qualifiedName 8 = "java.io.Serializable" := by decide +kernel
  have member : shelves.qualifiedName 11 = "demo.Shelf.Slot" := by decide +kernel
  have inBody : (Scope.body 11).Inside shelves := show 11 < shelves.size by decide +kernel
  have inUnit : (Scope.unit 0).Inside shelves := show 0 < shelves.units.size by decide +kernel
  rw [← library, ← member]
  constructor
  · exact lookup_qualifiedName built_shelves distinct plain rfl
      (show 8 < shelves.size by decide +kernel) inBody (by decide +kernel)
  · exact lookup_qualifiedName built_shelves distinct plain rfl
      (show 11 < shelves.size by decide +kernel) inUnit (by decide +kernel)

end Environment

end JavaSymbols
