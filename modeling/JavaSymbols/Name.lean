import JavaSymbols.Text.Dotted

/-!
# Names of packages, imports and annotations

A package name and a written qualified name are lists of segments read from
dotted text.  The unnamed package has no segments.  The canonical name of a
declaration is kept as plain text, since it is only ever printed, compared and
looked up as a whole.
-/

namespace JavaSymbols

/-- The name of a package; the unnamed package has no segments. -/
structure PackageName where
  segments : List String
  deriving DecidableEq, Inhabited

namespace PackageName

/-- The unnamed package. -/
def root : PackageName :=
  ⟨[]⟩

/-- Read a package name from dotted text. -/
def ofDotted (text : String) : PackageName :=
  ⟨Dotted.read text⟩

/-- Whether this is the unnamed package. -/
def isRoot (package : PackageName) : Bool :=
  package.segments.isEmpty

/-- The segments joined by dots. -/
def dotted (package : PackageName) : String :=
  Dotted.join package.segments

/-- A name as a member of the package: `java.lang` and `Object` make
`java.lang.Object`, and the unnamed package leaves names as they are. -/
def qualify (package : PackageName) (name : String) : String :=
  if package.isRoot then name else package.dotted ++ "." ++ name

@[simp]
theorem qualify_root (name : String) : root.qualify name = name :=
  rfl

end PackageName

/-- A possibly qualified name as written in an import or an annotation. -/
structure QualifiedName where
  segments : List String
  deriving DecidableEq, Inhabited

namespace QualifiedName

/-- Read a qualified name from dotted text. -/
def ofDotted (text : String) : QualifiedName :=
  ⟨Dotted.read text⟩

/-- Whether the name has exactly one segment. -/
def isSimple (name : QualifiedName) : Bool :=
  name.segments.length == 1

/-- The last segment, if there is any segment at all. -/
def last? (name : QualifiedName) : Option String :=
  name.segments.getLast?

/-- The segments joined by dots. -/
def dotted (name : QualifiedName) : String :=
  Dotted.join name.segments

end QualifiedName

end JavaSymbols
