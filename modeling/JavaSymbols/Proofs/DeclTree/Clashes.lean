import JavaSymbols.Proofs.DeclTree.Index
import JavaSymbols.Proofs.Resolution.SelfContained

/-!
# Declarations with one qualified name

A qualified name is the own name of a declaration after a qualifier, which is
the name of what it is declared in.  When names hold no dots, both can be read
off the qualified name.

The scheme has one qualifier for things that differ: for overloads of a method,
for a type and a method or package of the same name, and for the member types and
the type parameters of a type.  Only declarations that clash in such a way share
their qualified name.
-/

namespace JavaSymbols

namespace Dotted

/-- A name that is one segment of dotted text. -/
def IsSegment (name : String) : Prop :=
  name ≠ "" ∧ '.' ∉ name.toList

instance (name : String) : Decidable (IsSegment name) :=
  inferInstanceAs (Decidable (_ ∧ _))

/-- A name after its qualifier, if it has one. -/
def qualified (qualifier : Option String) (name : String) : String :=
  match qualifier with
  | none => name
  | some text => text ++ "." ++ name

@[simp]
theorem toList_qualified_some (text name : String) :
    (qualified (some text) name).toList = text.toList ++ '.' :: name.toList := by
  simp [qualified]

/-- A separator that does not occur later on is found again. -/
theorem append_cons_inj {α : Type} {separator : α} {init other rest tail : List α}
    (last : separator ∉ rest) (lastOther : separator ∉ tail)
    (same : init ++ separator :: rest = other ++ separator :: tail) :
    init = other ∧ rest = tail := by
  rcases List.append_eq_append_iff.mp same with ⟨between, split, onward⟩ | ⟨between, split, onward⟩
  · cases between with
    | nil => simp_all
    | cons head more =>
        rw [List.cons_append, List.cons.injEq] at onward
        exact absurd (onward.2 ▸ by simp) last
  · cases between with
    | nil => simp_all
    | cons head more =>
        rw [List.cons_append, List.cons.injEq] at onward
        exact absurd (onward.2 ▸ by simp) lastOther

/-- A segment and its qualifier can be read off a qualified name. -/
theorem qualified_inj {first second : Option String} {name other : String} (plain : IsSegment name)
    (plainOther : IsSegment other) :
    qualified first name = qualified second other ↔ first = second ∧ name = other := by
  constructor
  · intro same
    have sameChars := congrArg String.toList same
    cases first with
    | none =>
        cases second with
        | none => exact ⟨rfl, same⟩
        | some text =>
            rw [toList_qualified_some] at sameChars
            have dotted : '.' ∈ name.toList := sameChars ▸ by simp
            exact absurd dotted plain.2
    | some text =>
        cases second with
        | none =>
            rw [toList_qualified_some] at sameChars
            have dotted : '.' ∈ other.toList := sameChars ▸ by simp
            exact absurd dotted plainOther.2
        | some more =>
            rw [toList_qualified_some, toList_qualified_some] at sameChars
            rcases append_cons_inj plain.2 plainOther.2 sameChars with ⟨sameText, sameName⟩
            exact ⟨congrArg some (String.toList_inj.mp sameText), String.toList_inj.mp sameName⟩
  · rintro ⟨rfl, rfl⟩
    rfl

/-- The last of several segments is preceded by a dot. -/
theorem join_concat {segments : List String} (nonempty : segments ≠ []) (last : String) :
    join (segments ++ [last]) = join segments ++ "." ++ last := by
  induction segments with
  | nil => exact absurd rfl nonempty
  | cons first rest ih =>
      cases rest with
      | nil => simp [join_cons_cons]
      | cons second more =>
          rw [join_cons_cons, List.cons_append, List.cons_append, join_cons_cons,
            ← List.cons_append, ih (List.cons_ne_nil _ _)]
          simp only [String.append_assoc]

end Dotted

namespace DeclTree

variable {tree : DeclTree}

/-! ## Qualifiers -/

/-- What precedes the own name in the qualified name of a declaration. -/
def qualifier? (tree : DeclTree) : Decl → Option String
  | .item id =>
      match (tree.item id).parent with
      | .type outer => some (tree.qualifiedName outer)
      | .unit unit =>
          if (tree.unit unit).package.isRoot then none else some (tree.unit unit).package.dotted
  | .parameter param => some (tree.ownerName param.owner)

/-- What encloses an item encloses its members, which are in the same unit. -/
def Nested (tree : DeclTree) : Prop :=
  ∀ id outer : Nat, (tree.item id).parent = .type outer →
    (tree.item id).enclosing = tree.chain outer ∧ (tree.item id).unit = (tree.item outer).unit

/-- An item whose parent is an item is enclosed by that first. -/
theorem mem_enclosing_of_parent {id outer : Nat} (parent : (tree.item id).parent = .type outer) :
    outer ∈ (tree.item id).enclosing := by
  rw [Item.parent] at parent
  cases above : (tree.item id).enclosing with
  | nil => simp [above] at parent
  | cons first rest =>
      simp only [above, Parent.type.injEq] at parent
      exact parent ▸ List.mem_cons_self

/-- An item whose parent is a unit belongs to it, and nothing encloses the item. -/
theorem topLevel_of_parent {id : ItemId} {unit : UnitId}
    (parent : (tree.item id).parent = .unit unit) :
    (tree.item id).enclosing = [] ∧ (tree.item id).unit = unit := by
  rw [Item.parent] at parent
  cases above : (tree.item id).enclosing with
  | nil =>
      rw [above] at parent
      exact ⟨rfl, Parent.unit.inj parent⟩
  | cons outer rest => simp [above] at parent

/-- Items are nested as before in a tree that continues another, up to new ones. -/
theorem Nested.grow {old new : DeclTree} (nested : old.Nested) (wellFormed : old.WellFormed)
    (continues : old.Continues new)
    (fresh : ∀ id outer : Nat, old.size ≤ id → (new.item id).parent = .type outer →
      outer < old.size ∧ (new.item id).enclosing = old.chain outer ∧
        (new.item id).unit = (old.item outer).unit) : new.Nested := by
  have kept : ∀ outer : Nat, outer < old.size →
      new.chain outer = old.chain outer ∧ (new.item outer).unit = (old.item outer).unit := by
    intro outer inside
    rw [chain, chain, continues.enclosing outer inside, continues.unit outer inside]
    exact ⟨rfl, rfl⟩
  intro id outer parent
  by_cases inside : id < old.size
  · have before : (old.item id).parent = .type outer := by
      rw [Item.parent, continues.enclosing id inside] at parent
      rw [Item.parent]
      cases above : (old.item id).enclosing with
      | nil => simp [above] at parent
      | cons first rest => simpa [above] using parent
    rcases nested id outer before with ⟨chained, shared⟩
    have outerInside := (wellFormed.enclosing_lt id outer (mem_enclosing_of_parent before)).2
    rcases kept outer outerInside with ⟨sameChain, sameUnit⟩
    rw [continues.enclosing id inside, continues.unit id inside, sameChain, sameUnit]
    exact ⟨chained, shared⟩
  · rcases fresh id outer (Nat.le_of_not_lt inside) parent with ⟨outerInside, chained, shared⟩
    rcases kept outer outerInside with ⟨sameChain, sameUnit⟩
    rw [sameChain, sameUnit]
    exact ⟨chained, shared⟩

/-- Items of a built tree are nested. -/
theorem Built.nested (built : tree.Built) : tree.Nested := by
  induction built with
  | empty =>
      intro id outer parent
      rw [item_of_size_le (Nat.zero_le id)] at parent
      cases parent
  | addUnit _ package imports ih => exact ih
  | @addType tree before unit decl known ih =>
      apply ih.grow before.wellFormed (continues_addType tree unit decl known)
      intro id outer outside parent
      rw [item_addType] at parent
      by_cases last : id = tree.size
      · rw [if_pos last] at parent
        cases parent
      · rw [if_neg last, item_of_size_le outside] at parent
        cases parent
  | @addMember tree before around decl known ih =>
      apply ih.grow before.wellFormed (continues_addMember tree around decl known)
      intro id outer outside parent
      rw [item_addMember around decl id known] at parent ⊢
      by_cases last : id = tree.size
      · rw [if_pos last] at parent ⊢
        cases parent
        exact ⟨known, rfl, rfl⟩
      · have other : id ≠ around := Nat.ne_of_gt (Nat.lt_of_lt_of_le known outside)
        rw [if_neg last, if_neg other, item_of_size_le outside] at parent
        cases parent

/-- A member type is called after the type that it is a member of. -/
theorem Nested.qualifiedName_member (nested : tree.Nested) {id outer : Nat}
    (parent : (tree.item id).parent = .type outer) :
    tree.qualifiedName id = tree.qualifiedName outer ++ "." ++ tree.simpleName id := by
  rcases nested id outer parent with ⟨chained, shared⟩
  have chainNonempty : (tree.chain outer).reverse.map tree.simpleName ≠ [] := by simp [chain]
  have classNames : tree.className id = tree.className outer ++ "." ++ tree.simpleName id := by
    rw [className, className, ← Dotted.join_concat chainNonempty, chain, chained,
      List.reverse_cons, List.map_append]
    rfl
  have samePackage : tree.package id = tree.package outer := by
    rw [DeclTree.package, DeclTree.package, shared]
  rw [DeclTree.qualifiedName, DeclTree.qualifiedName, classNames, samePackage,
    PackageName.qualify, PackageName.qualify]
  by_cases unnamed : (tree.package outer).isRoot = true
  · rw [if_pos unnamed, if_pos unnamed]
  · rw [if_neg unnamed, if_neg unnamed]
    simp only [String.append_assoc]

/-- A qualified name is made of the qualifier and the own name. -/
theorem Nested.qualifiedNameOf_eq (nested : tree.Nested) (decl : Decl) :
    tree.qualifiedNameOf decl = Dotted.qualified (tree.qualifier? decl) (tree.nameOf decl) := by
  cases decl with
  | parameter param => rfl
  | item id =>
      rw [qualifiedNameOf, qualifier?, nameOf]
      cases parent : (tree.item id).parent with
      | type outer => exact nested.qualifiedName_member parent
      | unit unit =>
          rcases topLevel_of_parent parent with ⟨outermost, inUnit⟩
          rw [DeclTree.qualifiedName, className, chain, outermost, DeclTree.package, inUnit,
            PackageName.qualify]
          by_cases unnamed : (tree.unit unit).package.isRoot = true
          · simp [unnamed, Dotted.qualified]
          · simp [unnamed, Dotted.qualified]

/-! ## Names as they are written -/

/-- Types, methods and type parameters have names without dots.  No two items
share a qualified name, and no two type parameters of an owner a name. -/
structure WellNamed (tree : DeclTree) : Prop where
  items : tree.DistinctItems
  types : ∀ id < tree.size, Dotted.IsSegment (tree.simpleName id)
  methods : ∀ id < tree.size, ∀ method ∈ (tree.decl id).methods, Dotted.IsSegment method.name
  params : ∀ id < tree.size, ∀ owner ∈ tree.ownersIn id, ∀ param ∈ tree.paramsOf owner,
    Dotted.IsSegment param.name
  apart : ∀ id < tree.size, ∀ owner ∈ tree.ownersIn id,
    ((tree.paramsOf owner).map TypeParam.name).Nodup

theorem wellNamed_iff : tree.WellNamed ↔ tree.DistinctItems ∧
    (∀ id < tree.size, Dotted.IsSegment (tree.simpleName id)) ∧
    (∀ id < tree.size, ∀ method ∈ (tree.decl id).methods, Dotted.IsSegment method.name) ∧
    (∀ id < tree.size, ∀ owner ∈ tree.ownersIn id, ∀ param ∈ tree.paramsOf owner,
      Dotted.IsSegment param.name) ∧
    ∀ id < tree.size, ∀ owner ∈ tree.ownersIn id,
      ((tree.paramsOf owner).map TypeParam.name).Nodup :=
  ⟨fun ⟨items, types, methods, params, apart⟩ => ⟨items, types, methods, params, apart⟩,
    fun ⟨items, types, methods, params, apart⟩ => ⟨items, types, methods, params, apart⟩⟩

instance : Decidable tree.WellNamed :=
  decidable_of_iff _ wellNamed_iff.symm

/-- The type parameters of a method are those of a method that is written. -/
theorem exists_method {id index position : Nat}
    (bound : position < (tree.paramsOf (.method id index)).length) :
    ∃ method ∈ (tree.decl id).methods, (tree.decl id).methods[index]? = some method ∧
      tree.ownerName (.method id index) = tree.qualifiedName id ++ "." ++ method.name := by
  cases written : (tree.decl id).methods[index]? with
  | none => simp [paramsOf, written] at bound
  | some method =>
      refine ⟨method, List.mem_of_getElem? written, rfl, ?_⟩
      simp [ownerName, written]

/-- A declared type parameter is one of those that its owner writes. -/
theorem getElem?_paramsOf {param : TypeParameter}
    (bound : param.index < (tree.paramsOf param.owner).length) :
    (tree.paramsOf param.owner)[param.index]? = some (tree.param param) := by
  rw [DeclTree.param, List.getElem?_eq_getElem bound]
  rfl

namespace WellNamed

variable (named : tree.WellNamed)

include named

/-- The own name of a declaration is one segment. -/
theorem isSegment_nameOf {decl : Decl} (declares : tree.Declares decl) :
    Dotted.IsSegment (tree.nameOf decl) := by
  cases decl with
  | item id => exact named.types id declares
  | parameter param =>
      exact named.params param.owner.item declares.1 param.owner (mem_ownersIn declares.2)
        (tree.param param) (List.mem_of_getElem? (getElem?_paramsOf declares.2))

/-- An owner has one type parameter of a name. -/
theorem index_eq {owner : ParamOwner} {index other : Nat}
    (declares : tree.Declares (.parameter ⟨owner, index⟩))
    (declaresOther : tree.Declares (.parameter ⟨owner, other⟩))
    (same : (tree.param ⟨owner, index⟩).name = (tree.param ⟨owner, other⟩).name) :
    index = other := by
  have apart := named.apart owner.item declares.1 owner (mem_ownersIn declares.2)
  have bound : index < ((tree.paramsOf owner).map TypeParam.name).length := by
    rw [List.length_map]
    exact declares.2
  apply (List.getElem?_inj bound apart).mp
  have written : (tree.paramsOf owner)[index]? = some (tree.param ⟨owner, index⟩) :=
    getElem?_paramsOf declares.2
  have writtenOther : (tree.paramsOf owner)[other]? = some (tree.param ⟨owner, other⟩) :=
    getElem?_paramsOf declaresOther.2
  rw [List.getElem?_map, List.getElem?_map, written, writtenOther, Option.map_some,
    Option.map_some, same]

end WellNamed

/-! ## Clashes -/

/-- Two declarations that bear one qualified name although they differ. -/
inductive Clash (tree : DeclTree) : Decl → Decl → Prop where
  /-- Type parameters of overloads. -/
  | overloads {id : ItemId} {first second index other : Nat} {method overload : MethodDecl}
      (different : first ≠ second) (written : (tree.decl id).methods[first]? = some method)
      (writtenToo : (tree.decl id).methods[second]? = some overload)
      (called : method.name = overload.name)
      (named : (tree.param ⟨.method id first, index⟩).name =
        (tree.param ⟨.method id second, other⟩).name) :
      Clash tree (.parameter ⟨.method id first, index⟩) (.parameter ⟨.method id second, other⟩)
  /-- A member type and a type parameter of the type that it is a member of. -/
  | member {id outer : ItemId} {index : Nat} (parent : (tree.item id).parent = .type outer)
      (named : tree.simpleName id = (tree.param ⟨.type outer, index⟩).name) :
      Clash tree (.item id) (.parameter ⟨.type outer, index⟩)
  /-- A type of a package and a type parameter whose owner is called like the
  package. -/
  | package {id : ItemId} {unit : UnitId} {param : TypeParameter}
      (parent : (tree.item id).parent = .unit unit)
      (proper : (tree.unit unit).package.isRoot = false)
      (called : (tree.unit unit).package.dotted = tree.ownerName param.owner)
      (named : tree.simpleName id = (tree.param param).name) :
      Clash tree (.item id) (.parameter param)
  /-- A member type and a type parameter of a method that is called like the type
  that the first is a member of. -/
  | memberOfNamesake {id outer declaring : ItemId} {method index : Nat}
      (parent : (tree.item id).parent = .type outer)
      (called : tree.qualifiedName outer = tree.ownerName (.method declaring method))
      (named : tree.simpleName id = (tree.param ⟨.method declaring method, index⟩).name) :
      Clash tree (.item id) (.parameter ⟨.method declaring method, index⟩)
  /-- Type parameters of a type and of a method that is called like the type. -/
  | namesakes {id declaring : ItemId} {method index other : Nat}
      (called : tree.qualifiedName id = tree.ownerName (.method declaring method))
      (named : (tree.param ⟨.type id, index⟩).name =
        (tree.param ⟨.method declaring method, other⟩).name) :
      Clash tree (.parameter ⟨.type id, index⟩) (.parameter ⟨.method declaring method, other⟩)

namespace Clash

variable {decl other : Decl}

/-- A declaration does not clash with itself. -/
theorem ne (clash : tree.Clash decl other) : decl ≠ other := by
  cases clash with
  | overloads different => simp [different]
  | member | package | memberOfNamesake | namesakes => simp

theorem qualifier?_eq (clash : tree.Clash decl other) :
    tree.qualifier? decl = tree.qualifier? other := by
  cases clash with
  | overloads _ written writtenToo called =>
      simp [qualifier?, ownerName, written, writtenToo, called]
  | member parent =>
      simp [qualifier?, parent, ownerName]
  | package parent proper called =>
      simp [qualifier?, parent, proper, called]
  | memberOfNamesake parent called =>
      simp [qualifier?, parent, called]
  | namesakes called =>
      exact congrArg some called

theorem nameOf_eq (clash : tree.Clash decl other) : tree.nameOf decl = tree.nameOf other := by
  cases clash with
  | overloads _ _ _ _ named | member _ named | package _ _ _ named
  | memberOfNamesake _ _ named | namesakes _ named => exact named

/-- Declarations that clash share their qualified name. -/
theorem sameName (clash : tree.Clash decl other) (nested : tree.Nested) :
    tree.qualifiedNameOf decl = tree.qualifiedNameOf other := by
  rw [nested.qualifiedNameOf_eq, nested.qualifiedNameOf_eq, clash.qualifier?_eq, clash.nameOf_eq]

end Clash

/-- Two declarations clash, in one order or the other. -/
def Confusable (tree : DeclTree) (decl other : Decl) : Prop :=
  tree.Clash decl other ∨ tree.Clash other decl

theorem Confusable.symm {decl other : Decl} (confusable : tree.Confusable decl other) :
    tree.Confusable other decl :=
  Or.symm confusable

/-- When names tell all declarations apart, none clash. -/
theorem DistinctNames.not_confusable (distinct : tree.DistinctNames) (nested : tree.Nested)
    {decl other : Decl} (declares : tree.Declares decl) (declaresOther : tree.Declares other) :
    ¬ tree.Confusable decl other := by
  rintro (clash | clash)
  · exact clash.ne (distinct decl other declares declaresOther (clash.sameName nested))
  · exact clash.ne (distinct other decl declaresOther declares (clash.sameName nested))

namespace WellNamed

variable (named : tree.WellNamed) (wellFormed : tree.WellFormed) (nested : tree.Nested)

include named

/-- Type parameters of methods with the same qualifier and name are the same or
clash. -/
theorem eq_or_clash_of_methods {id other : ItemId} {method overload index position : Nat}
    (declares : tree.Declares (.parameter ⟨.method id method, index⟩))
    (declaresOther : tree.Declares (.parameter ⟨.method other overload, position⟩))
    (owners : tree.ownerName (.method id method) = tree.ownerName (.method other overload))
    (names : (tree.param ⟨.method id method, index⟩).name =
      (tree.param ⟨.method other overload, position⟩).name) :
    Decl.parameter ⟨.method id method, index⟩ = .parameter ⟨.method other overload, position⟩ ∨
      tree.Confusable (.parameter ⟨.method id method, index⟩)
        (.parameter ⟨.method other overload, position⟩) := by
  obtain ⟨written, isMethod, placed, called⟩ := exists_method declares.2
  obtain ⟨writtenToo, isOverload, placedToo, calledToo⟩ := exists_method declaresOther.2
  have segment := named.methods id declares.1 written isMethod
  have segmentToo := named.methods other declaresOther.1 writtenToo isOverload
  have sameText : Dotted.qualified (some (tree.qualifiedName id)) written.name =
      Dotted.qualified (some (tree.qualifiedName other)) writtenToo.name := by
    rw [called, calledToo] at owners
    exact owners
  rcases (Dotted.qualified_inj segment segmentToo).mp sameText with ⟨qualifiers, sameName⟩
  have sameItem : id = other :=
    named.items id other declares.1 declaresOther.1 (Option.some.inj qualifiers)
  subst sameItem
  by_cases sameMethod : method = overload
  · subst sameMethod
    rw [named.index_eq declares declaresOther names]
    exact .inl rfl
  · exact .inr (.inl (.overloads sameMethod placed placedToo sameName names))

/-- Type parameters with the same qualifier and name are the same or clash. -/
theorem eq_or_clash_of_parameters {param other : TypeParameter}
    (declares : tree.Declares (.parameter param)) (declaresOther : tree.Declares (.parameter other))
    (owners : tree.ownerName param.owner = tree.ownerName other.owner)
    (names : (tree.param param).name = (tree.param other).name) :
    Decl.parameter param = .parameter other ∨
      tree.Confusable (.parameter param) (.parameter other) := by
  rcases param with ⟨owner, index⟩
  rcases other with ⟨ownerToo, position⟩
  cases owner with
  | type id =>
      cases ownerToo with
      | method declaring method => exact .inr (.inl (.namesakes owners names))
      | type twin =>
          have sameItem : id = twin := named.items id twin declares.1 declaresOther.1 owners
          subst sameItem
          rw [named.index_eq declares declaresOther names]
          exact .inl rfl
  | method declaring method =>
      cases ownerToo with
      | type id => exact .inr (.inr (.namesakes owners.symm names.symm))
      | method otherItem overload =>
          exact named.eq_or_clash_of_methods declares declaresOther owners names

include wellFormed

/-- An item and a type parameter with the same qualifier and name clash. -/
theorem clash_of_item {id : ItemId} {param : TypeParameter}
    (declaresParam : tree.Declares (.parameter param))
    (qualifiers : tree.qualifier? (.item id) = tree.qualifier? (.parameter param))
    (names : tree.simpleName id = (tree.param param).name) :
    tree.Clash (.item id) (.parameter param) := by
  cases parent : (tree.item id).parent with
  | unit unit =>
      rw [qualifier?, qualifier?, parent] at qualifiers
      by_cases unnamed : (tree.unit unit).package.isRoot = true
      · simp [unnamed] at qualifiers
      · simp only [unnamed, Bool.false_eq_true, if_false, Option.some.injEq] at qualifiers
        exact .package parent ((Bool.not_eq_true _).mp unnamed) qualifiers names
  | type outer =>
      rw [qualifier?, qualifier?, parent] at qualifiers
      have sameOwner : tree.qualifiedName outer = tree.ownerName param.owner :=
        Option.some.inj qualifiers
      rcases param with ⟨owner, index⟩
      cases owner with
      | method declaring method => exact .memberOfNamesake parent sameOwner names
      | type other =>
          have outerInside : outer < tree.size :=
            (wellFormed.enclosing_lt id outer (mem_enclosing_of_parent parent)).2
          have sameItem : outer = other :=
            named.items outer other outerInside declaresParam.1 sameOwner
          exact .member (sameItem ▸ parent) names

include nested

/-- Two declarations have the same qualified name just when they are the same or
clash. -/
theorem sameName_iff {decl other : Decl} (declares : tree.Declares decl)
    (declaresOther : tree.Declares other) :
    tree.qualifiedNameOf decl = tree.qualifiedNameOf other ↔
      decl = other ∨ tree.Confusable decl other := by
  constructor
  · intro same
    rw [nested.qualifiedNameOf_eq, nested.qualifiedNameOf_eq,
      Dotted.qualified_inj (named.isSegment_nameOf declares)
        (named.isSegment_nameOf declaresOther)] at same
    rcases same with ⟨qualifiers, names⟩
    cases decl with
    | item id =>
        cases other with
        | parameter param =>
            exact .inr (.inl (named.clash_of_item wellFormed declaresOther qualifiers names))
        | item twin =>
            have sameText : tree.qualifiedName id = tree.qualifiedName twin := by
              change tree.qualifiedNameOf (.item id) = tree.qualifiedNameOf (.item twin)
              rw [nested.qualifiedNameOf_eq, nested.qualifiedNameOf_eq, qualifiers, names]
            exact .inl (congrArg Decl.item (named.items id twin declares declaresOther sameText))
    | parameter param =>
        cases other with
        | item id =>
            exact .inr (.inr (named.clash_of_item wellFormed declares qualifiers.symm names.symm))
        | parameter twin =>
            exact named.eq_or_clash_of_parameters declares declaresOther
              (Option.some.inj qualifiers) names
  · rintro (rfl | clash | clash)
    · rfl
    · exact clash.sameName nested
    · exact (clash.sameName nested).symm

end WellNamed

end DeclTree

end JavaSymbols
