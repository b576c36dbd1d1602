import JavaSymbols.DeclTree.Nesting
import JavaSymbols.Ty

/-!
# Declarations that names denote

A type name denotes an item of the tree or a type parameter of a type or
method.  Both have names, a package and a place in the tree; a type parameter
is called after the declaration that introduces it.
-/

namespace JavaSymbols

/-- A type parameter, by its owner and position. -/
structure TypeParameter where
  owner : ParamOwner
  index : Nat
  deriving DecidableEq, Inhabited

/-- The type parameter that a type variable uses. -/
def TypeVar.parameter (var : TypeVar) : TypeParameter :=
  ⟨var.owner, var.index⟩

/-- What a type name can denote. -/
inductive Decl where
  | item (id : ItemId)
  | parameter (param : TypeParameter)
  deriving DecidableEq, Inhabited

namespace Decl

/-- The item that a declaration is, if it is no type parameter. -/
def item? : Decl → Option ItemId
  | item id => some id
  | parameter _ => none

/-- The item in whose body the names of a declaration are looked up. -/
def site : Decl → ItemId
  | item id => id
  | parameter param => param.owner.item

end Decl

namespace DeclTree

/-! ## Type parameters -/

/-- The type parameters that an owner introduces, as written. -/
def paramsOf (tree : DeclTree) : ParamOwner → List TypeParam
  | .type id => (tree.decl id).typeParams
  | .method id index => ((tree.decl id).methods[index]?.map MethodDecl.typeParams).getD []

/-- A type parameter as written. -/
def param (tree : DeclTree) (param : TypeParameter) : TypeParam :=
  (tree.paramsOf param.owner)[param.index]?.getD default

/-- The type parameters that an owner introduces. -/
def parameters (tree : DeclTree) (owner : ParamOwner) : List TypeParameter :=
  (List.range (tree.paramsOf owner).length).map fun index => ⟨owner, index⟩

/-- The type parameter of an owner with a name; of several the first. -/
def parameterNamed? (tree : DeclTree) (owner : ParamOwner) (name : String) :
    Option TypeParameter :=
  ((tree.paramsOf owner).findIdx? fun param => param.name == name).map fun index => ⟨owner, index⟩

/-- The type variable that uses a type parameter. -/
def variableOf (tree : DeclTree) (param : TypeParameter) : TypeVar :=
  ⟨param.owner, param.index, (tree.param param).name⟩

/-- The name of a type parameter's owner, with the method for a method's
parameter. -/
def ownerName (tree : DeclTree) : ParamOwner → String
  | .type id => tree.qualifiedName id
  | .method id index =>
      tree.qualifiedName id ++ "." ++
        ((tree.decl id).methods[index]?.map MethodDecl.name).getD ""

/-! ## Names and places of declarations -/

/-- The simple name of a declaration. -/
def nameOf (tree : DeclTree) : Decl → String
  | .item id => tree.simpleName id
  | .parameter param => (tree.param param).name

/-- The canonical name of a declaration; a type parameter's starts with the
name of its owner. -/
def qualifiedNameOf (tree : DeclTree) : Decl → String
  | .item id => tree.qualifiedName id
  | .parameter param => tree.ownerName param.owner ++ "." ++ (tree.param param).name

/-- The package in which a declaration is made. -/
def packageOf (tree : DeclTree) (decl : Decl) : PackageName :=
  tree.package decl.site

/-- The name of a declaration relative to its package.  A type parameter's is
that of the declaring item followed by its own. -/
def classNameOf (tree : DeclTree) : Decl → String
  | .item id => tree.className id
  | .parameter param => tree.className param.owner.item ++ "." ++ (tree.param param).name

/-- The access of a declaration; type parameters are public. -/
def accessOf (tree : DeclTree) : Decl → Access
  | .item id => (tree.decl id).access
  | .parameter _ => .publicAccess

/-- The kind of a declaration; type parameters have none. -/
def kindOf? (tree : DeclTree) : Decl → Option DeclKind
  | .item id => some (tree.decl id).kind
  | .parameter _ => none

/-- The word that names what a declaration is. -/
def kindWord (tree : DeclTree) (decl : Decl) : String :=
  match tree.kindOf? decl with
  | some kind => kind.word
  | none => "type_parameter"

/-- Whether a declaration is an interface; annotation types are interfaces. -/
def isInterface (tree : DeclTree) (decl : Decl) : Bool :=
  match tree.kindOf? decl with
  | some .interfaceType | some .annotationType => true
  | _ => false

/-- The type parameters of a declaration; a type parameter has none itself. -/
def typeParametersOf (tree : DeclTree) : Decl → List TypeParameter
  | .item id => tree.parameters (.type id)
  | .parameter _ => []

/-- The member types of a declaration. -/
def memberTypesOf (tree : DeclTree) : Decl → List Decl
  | .item id => (tree.item id).members.map .item
  | .parameter _ => []

/-- The item that a declaration is a member of. -/
def containerOf? (tree : DeclTree) : Decl → Option Decl
  | .item id =>
      match (tree.item id).parent with
      | .unit _ => none
      | .type outer => some (.item outer)
  | .parameter _ => none

/-- Whether a type with a qualified name is nested in a declaration. -/
def declHasNested (tree : DeclTree) (decl : Decl) (name : String) : Bool :=
  match decl with
  | .item id => tree.hasNested id name
  | .parameter _ => false

end DeclTree

end JavaSymbols
