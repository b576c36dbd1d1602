import JavaSymbols.Primitive
import JavaSymbols.Text.Dotted

/-!
# Types as written in source

`TypeExpr` is the type syntax of declarations before any name is looked up,
and `ClassExpr` its class and interface types: a simple name, or a name within
a scope, each with optional type arguments.  A type without arguments is raw;
an empty argument list is the diamond form.

Both are printed in source form, class types are read from dotted text, and
equality is decidable.
-/

namespace JavaSymbols

mutual

/-- A type as written in source. -/
inductive TypeExpr where
  | primitive (type : Primitive)
  | void
  | named (type : ClassExpr)
  | array (component : TypeExpr)
  /-- The wildcard without a bound. -/
  | wildcard
  /-- The wildcard with an upper bound. -/
  | upperBounded (bound : TypeExpr)
  /-- The wildcard with a lower bound. -/
  | lowerBounded (bound : TypeExpr)

/-- A class or interface type as written, possibly scoped. -/
inductive ClassExpr where
  | simple (name : String) (args : Option (List TypeExpr))
  | within (scope : ClassExpr) (name : String) (args : Option (List TypeExpr))

end

namespace ClassExpr

/-- The name without its scope. -/
def name : ClassExpr → String
  | simple name _ => name
  | within _ name _ => name

/-- The type arguments; `none` for a raw type. -/
def args : ClassExpr → Option (List TypeExpr)
  | simple _ args => args
  | within _ _ args => args

/-- The scope the name is written in. -/
def scope? : ClassExpr → Option ClassExpr
  | simple _ _ => none
  | within scope _ _ => some scope

/-- The same name and arguments in another scope. -/
def setScope (scope : ClassExpr) (type : ClassExpr) : ClassExpr :=
  within scope type.name type.args

/-- The same type with the given arguments. -/
def withArgs (args : List TypeExpr) : ClassExpr → ClassExpr
  | simple name _ => simple name (some args)
  | within scope name _ => within scope name (some args)

/-- The names along the scope chain, outermost first. -/
def names : ClassExpr → List String
  | simple name _ => [name]
  | within scope name _ => scope.names ++ [name]

/-- The dotted name as written, without any type arguments. -/
def dotted : ClassExpr → String
  | simple name _ => name
  | within scope name _ => scope.dotted ++ "." ++ name

/-- Add raw inner names to a class type, one after another. -/
def extendBy (type : ClassExpr) : List String → ClassExpr
  | [] => type
  | name :: rest => (within type name none).extendBy rest

/-- Read a raw class type from dotted text: all segments but the last become
scopes.  Text without segments reads as the empty name. -/
def ofDotted (text : String) : ClassExpr :=
  match Dotted.read text with
  | [] => simple "" none
  | first :: rest => (simple first none).extendBy rest

end ClassExpr

/-! ## Source form -/

mutual

/-- The source form of a type. -/
def TypeExpr.text : TypeExpr → String
  | .primitive type => type.keyword
  | .void => "void"
  | .named type => type.text
  | .array component => component.text ++ "[]"
  | .wildcard => "?"
  | .upperBounded bound => "? extends " ++ bound.text
  | .lowerBounded bound => "? super " ++ bound.text

/-- The source form of a class type, with its scopes and type arguments. -/
def ClassExpr.text : ClassExpr → String
  | .simple name args => name ++ TypeExpr.argumentText args
  | .within scope name args => scope.text ++ "." ++ name ++ TypeExpr.argumentText args

/-- The source form of an argument list; a raw type shows none. -/
def TypeExpr.argumentText : Option (List TypeExpr) → String
  | none => ""
  | some args => "<" ++ ", ".intercalate (TypeExpr.texts args) ++ ">"

/-- The source forms of several types. -/
def TypeExpr.texts : List TypeExpr → List String
  | [] => []
  | type :: rest => type.text :: TypeExpr.texts rest

end

/-! ## Decidable equality -/

mutual

/-- Whether two written types are the same. -/
def TypeExpr.same : TypeExpr → TypeExpr → Bool
  | .primitive a, .primitive b => a == b
  | .void, .void => true
  | .named a, .named b => a.same b
  | .array a, .array b => a.same b
  | .wildcard, .wildcard => true
  | .upperBounded a, .upperBounded b => a.same b
  | .lowerBounded a, .lowerBounded b => a.same b
  | _, _ => false

/-- Whether two written class types are the same. -/
def ClassExpr.same : ClassExpr → ClassExpr → Bool
  | .simple name args, .simple name' args' =>
      name == name' && TypeExpr.sameArguments args args'
  | .within scope name args, .within scope' name' args' =>
      scope.same scope' && name == name' && TypeExpr.sameArguments args args'
  | _, _ => false

/-- Whether two optional argument lists are the same. -/
def TypeExpr.sameArguments : Option (List TypeExpr) → Option (List TypeExpr) → Bool
  | none, none => true
  | some args, some args' => TypeExpr.sameList args args'
  | _, _ => false

/-- Whether two lists of written types are the same. -/
def TypeExpr.sameList : List TypeExpr → List TypeExpr → Bool
  | [], [] => true
  | type :: rest, type' :: rest' => type.same type' && TypeExpr.sameList rest rest'
  | _, _ => false

end

mutual

theorem TypeExpr.same_iff : (a b : TypeExpr) → (a.same b = true ↔ a = b)
  | .primitive a, b => by cases b <;> simp [TypeExpr.same]
  | .void, b => by cases b <;> simp [TypeExpr.same]
  | .named a, b => by cases b <;> simp [TypeExpr.same, ClassExpr.same_iff a]
  | .array a, b => by cases b <;> simp [TypeExpr.same, TypeExpr.same_iff a]
  | .wildcard, b => by cases b <;> simp [TypeExpr.same]
  | .upperBounded a, b => by cases b <;> simp [TypeExpr.same, TypeExpr.same_iff a]
  | .lowerBounded a, b => by cases b <;> simp [TypeExpr.same, TypeExpr.same_iff a]

theorem ClassExpr.same_iff : (a b : ClassExpr) → (a.same b = true ↔ a = b)
  | .simple name args, b => by
      cases b <;> simp [ClassExpr.same, TypeExpr.sameArguments_iff args]
  | .within scope name args, b => by
      cases b <;>
        simp [ClassExpr.same, ClassExpr.same_iff scope, TypeExpr.sameArguments_iff args,
          and_assoc]

theorem TypeExpr.sameArguments_iff :
    (a b : Option (List TypeExpr)) → (TypeExpr.sameArguments a b = true ↔ a = b)
  | none, b => by cases b <;> simp [TypeExpr.sameArguments]
  | some args, b => by cases b <;> simp [TypeExpr.sameArguments, TypeExpr.sameList_iff args]

theorem TypeExpr.sameList_iff :
    (a b : List TypeExpr) → (TypeExpr.sameList a b = true ↔ a = b)
  | [], b => by cases b <;> simp [TypeExpr.sameList]
  | type :: rest, b => by
      cases b <;> simp [TypeExpr.sameList, TypeExpr.same_iff type, TypeExpr.sameList_iff rest]

end

instance : DecidableEq TypeExpr := fun a b =>
  decidable_of_iff _ (TypeExpr.same_iff a b)

instance : DecidableEq ClassExpr := fun a b =>
  decidable_of_iff _ (ClassExpr.same_iff a b)

instance : Inhabited TypeExpr :=
  ⟨.void⟩

instance : Inhabited ClassExpr :=
  ⟨.simple "" none⟩

/-! ## Building written types -/

namespace TypeExpr

/-- A raw class type read from dotted text. -/
def ofDotted (text : String) : TypeExpr :=
  named (ClassExpr.ofDotted text)

/-- Read a type from one word: `void`, a primitive keyword, or else the dotted
name of a class. -/
def ofWord (word : String) : TypeExpr :=
  if word == "void" then void
  else
    match Primitive.ofKeyword? word with
    | some type => primitive type
    | none => ofDotted word

end TypeExpr

end JavaSymbols
