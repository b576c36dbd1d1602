import JavaSymbols.DeclTree.Basic

/-!
# Declarations of the core library

The few library types that resolution itself refers to, as declarations of a
tree: the root types, the interfaces of arrays, and the types that the roots
mention.
-/

namespace JavaSymbols.DeclTree

/-- A public instance method without type parameters. -/
private def libraryMethod (name : String) (params : List Param) (returns : TypeExpr) : MethodDecl :=
  ⟨name, [], params, returns, .publicAccess, false⟩

/-- The written type `Comparable<argument>`. -/
private def comparableTo (argument : String) : ClassExpr :=
  .simple "Comparable" (some [.ofDotted argument])

/-- The types of `java.lang`, in the order in which they take their ids. -/
def languageTypes : List TypeDecl :=
  [{ TypeDecl.empty .classType "Object" with
      methods :=
        [libraryMethod "equals" [⟨"obj", .ofDotted "Object"⟩] (.primitive .boolean),
          libraryMethod "hashCode" [] (.primitive .int),
          libraryMethod "toString" [] (.ofDotted "String")] },
    TypeDecl.empty .classType "Record",
    { TypeDecl.empty .interfaceType "Comparable" with
      typeParams := [⟨"T", []⟩]
      methods := [libraryMethod "compareTo" [⟨"o", .ofDotted "T"⟩] (.primitive .int)] },
    TypeDecl.empty .interfaceType "Cloneable",
    { TypeDecl.empty .classType "Enum" with
      typeParams := [⟨"E", [.simple "Enum" (some [.ofDotted "E"])]⟩]
      implemented := [comparableTo "E", .ofDotted "java.io.Serializable"]
      methods :=
        [libraryMethod "name" [] (.ofDotted "String"),
          libraryMethod "ordinal" [] (.primitive .int)] },
    { TypeDecl.empty .classType "String" with
      implemented := [comparableTo "String", .ofDotted "java.io.Serializable"]
      methods := [libraryMethod "length" [] (.primitive .int)] },
    { TypeDecl.empty .classType "Integer" with
      implemented := [comparableTo "Integer"]
      methods := [libraryMethod "intValue" [] (.primitive .int)] },
    TypeDecl.empty .annotationType "Deprecated"]

/-- Add a unit of a package with several top-level types. -/
def addUnitOf (tree : DeclTree) (package : String) (types : List TypeDecl) : DeclTree :=
  types.foldl (fun grown decl => grown.addType tree.units.size decl)
    (tree.addUnit (.ofDotted package) [])

/-- The tree of the core library: three units and ten items. -/
def coreLibrary : DeclTree :=
  ((empty.addUnitOf "java.lang" languageTypes).addUnitOf "java.io"
    [TypeDecl.empty .interfaceType "Serializable"]).addUnitOf "java.lang.annotation"
    [TypeDecl.empty .interfaceType "Annotation"]

end JavaSymbols.DeclTree
