import JavaSymbols.Forcing
import JavaSymbols.Search
import JavaSymbols.Subtyping

/-!
# Ancestors

The direct ancestors of a declaration are its supertypes as references, with
the type arguments of clauses deferred.  The list of an item is remembered, so
that its deferred arguments are shared by everything that asks for it.

All ancestors are found depth first, each once, with the type arguments along
the way carried through.
-/

namespace JavaSymbols.Environment

variable (env : Environment)

/-! ## Supertypes as references -/

/-- A type argument of a supertype of an item.  Written arguments are deferred. -/
def instantiateArg (item : ItemId) : SupertypeArg → Query Ty
  | .written type => Query.postpone type item
  | .self => pure (env.rawReference item).toTy

/-- A supertype of an item as a reference. -/
def instantiate (item : ItemId) (supertype : Supertype) : Query Reference := do
  let args ← supertype.args.mapM (env.instantiateArg item)
  pure ⟨supertype.item, supertype.name, args⟩

/-- A supertype clause of an item as a reference. -/
def clauseReference (item : ItemId) (clause : ClassExpr) : Query Reference := do
  let supertype ← env.clauseSupertype item clause
  env.instantiate item supertype

/-- The superclass of a declaration; a type parameter has none. -/
def superclassOf : Decl → Query (Option Reference)
  | .parameter _ => pure none
  | .item id => do
      match ← (env.superclass id : Query (Option Supertype)) with
      | none => pure none
      | some supertype => do
          let reference ← env.instantiate id supertype
          pure (some reference)

/-- The superinterface clauses of an item, or the reference bounds of a type
parameter, all of which have to resolve. -/
def interfacesOf : Decl → Query (List Reference)
  | .item id => (env.interfaceClauses id).mapM (env.clauseReference id)
  | .parameter param => env.referenceBoundsOf param

/-! ## Direct ancestors -/

/-- The direct ancestors of an item, remembered from the first answer on.  Only
answers are remembered, not faults. -/
def itemAncestors (id : ItemId) (lenient : Bool) : Query (List Reference) := do
  match (← Query.current).supertypes.lookup (id, lenient) with
  | some remembered => pure remembered
  | none => do
      let supertypes ← env.supertypesOf id lenient
      let ancestors ← supertypes.mapM (env.instantiate id)
      Query.update fun session =>
        { session with supertypes := ((id, lenient), ancestors) :: session.supertypes }
      pure ancestors

/-- The direct ancestors of a declaration.  With `lenient`, supertypes that do
not resolve are left out. -/
def ancestorsOf (decl : Decl) (lenient : Bool) : Query (List Reference) :=
  match decl with
  | .item id => env.itemAncestors id lenient
  | .parameter param => env.supertypesOfParameter param lenient

/-! ## All ancestors -/

/-- A declaration met on the way up, with the reference it was reached by. -/
structure Ascent where
  decl : Decl
  view : Option Reference

/-- The search through all ancestors; it never answers and only collects. -/
def ancestorSearch (lenient : Bool) : Search Query Ascent String Reference Empty where
  key ascent := env.tree.qualifiedNameOf ascent.decl
  visit _ := pure none
  edges ascent := env.ancestorsOf ascent.decl lenient
  enter ascent ancestor := do
    let edge ← if lenient then env.forceEdge ancestor else env.forceReference ancestor
    let edge := edge.seenThrough ascent.view (← Query.cells)
    env.known edge.item
    pure (some ⟨.item edge.item, some edge⟩)

/-- Every ancestor of a declaration, depth first in the order of direct
ancestors, each declaration once and the declaration itself not at all. -/
def allAncestorsOf (decl : Decl) (lenient : Bool) : Query (List Reference) := do
  let (seen, _) ← (env.ancestorSearch lenient).run env.searchDepth ⟨decl, none⟩
  pure (seen.filterMap Ascent.view)

end JavaSymbols.Environment
