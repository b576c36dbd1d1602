import JavaSymbols.Name
import JavaSymbols.TypeExpr

/-!
# Type declarations

What a source file says about one class, interface, enum, record or annotation
type.  Every list is kept as written, whether or not the kind of declaration
gives it a meaning: only records use `components`, only enums use `constants`,
and `extended` holds the superclass of a class or the superinterfaces of an
interface.
-/

namespace JavaSymbols

/-- The kinds of type declarations. -/
inductive DeclKind where
  | classType
  | interfaceType
  | enumType
  | recordType
  | annotationType
  deriving DecidableEq, Inhabited

/-- The word that names a kind of declaration. -/
def DeclKind.word : DeclKind → String
  | .classType => "class"
  | .interfaceType => "interface"
  | .enumType => "enum"
  | .recordType => "record"
  | .annotationType => "annotation"

/-- Access modifiers; a declaration without one is visible in its package. -/
inductive Access where
  | publicAccess
  | protectedAccess
  | privateAccess
  | packageAccess
  deriving DecidableEq, Inhabited

/-- The word that names an access level. -/
def Access.word : Access → String
  | .publicAccess => "public"
  | .protectedAccess => "protected"
  | .privateAccess => "private"
  | .packageAccess => "package"

/-- A type parameter of a type or method, with its bounds as written. -/
structure TypeParam where
  name : String
  bounds : List ClassExpr
  deriving DecidableEq, Inhabited

/-- A formal parameter of a method or constructor. -/
structure Param where
  name : String
  type : TypeExpr
  deriving DecidableEq, Inhabited

/-- A field as written in a type body. -/
structure FieldDecl where
  name : String
  type : TypeExpr
  access : Access
  isStatic : Bool
  isVolatile : Bool
  deriving DecidableEq, Inhabited

/-- A method as written in a type body. -/
structure MethodDecl where
  name : String
  typeParams : List TypeParam
  params : List Param
  returns : TypeExpr
  access : Access
  isStatic : Bool
  deriving DecidableEq, Inhabited

/-- A constructor as written in a type body. -/
structure ConstructorDecl where
  params : List Param
  access : Access
  deriving DecidableEq, Inhabited

/-- A component of a record header. -/
structure Component where
  name : String
  type : TypeExpr
  deriving DecidableEq, Inhabited

/-- A type declaration as written, without its member types. -/
structure TypeDecl where
  kind : DeclKind
  name : String
  access : Access
  typeParams : List TypeParam
  /-- Annotations on the declaration, by their names as written. -/
  annotations : List QualifiedName
  /-- The `extends` clause. -/
  extended : List ClassExpr
  /-- The `implements` clause. -/
  implemented : List ClassExpr
  components : List Component
  /-- The names of the enum constants. -/
  constants : List String
  fields : List FieldDecl
  methods : List MethodDecl
  constructors : List ConstructorDecl
  deriving DecidableEq, Inhabited

namespace TypeDecl

/-- A public declaration without any content. -/
def empty (kind : DeclKind) (name : String) : TypeDecl where
  kind := kind
  name := name
  access := .publicAccess
  typeParams := []
  annotations := []
  extended := []
  implemented := []
  components := []
  constants := []
  fields := []
  methods := []
  constructors := []

/-- The positions of the methods that satisfy a test, with those methods. -/
def methodsWhere (decl : TypeDecl) (test : MethodDecl → Bool) : List (Nat × MethodDecl) :=
  decl.methods.zipIdx.filterMap fun (method, index) =>
    if test method then some (index, method) else none

end TypeDecl

end JavaSymbols
