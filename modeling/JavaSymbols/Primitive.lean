/-!
# Primitive types

The eight primitive types, their keywords, and the widening conversions that
an assignment may apply to a primitive value.
-/

namespace JavaSymbols

/-- The primitive types, in the order of the language's own tables. -/
inductive Primitive where
  | boolean
  | byte
  | short
  | char
  | int
  | long
  | float
  | double
  deriving DecidableEq, Inhabited

namespace Primitive

/-- Every primitive type once. -/
def all : List Primitive :=
  [boolean, byte, short, char, int, long, float, double]

/-- The keyword that denotes the type. -/
def keyword : Primitive → String
  | boolean => "boolean"
  | byte => "byte"
  | short => "short"
  | char => "char"
  | int => "int"
  | long => "long"
  | float => "float"
  | double => "double"

/-- The primitive type that a keyword denotes. -/
def ofKeyword? (text : String) : Option Primitive :=
  all.find? fun primitive => primitive.keyword == text

/-- The types a value widens to, apart from its own. -/
def widenings : Primitive → List Primitive
  | boolean => []
  | byte => [short, int, long, float, double]
  | short => [int, long, float, double]
  | char => [int, long, float, double]
  | int => [long, float, double]
  | long => [float, double]
  | float => [double]
  | double => []

/-- Widening conversion, the identity included. -/
def widensTo (source target : Primitive) : Bool :=
  source == target || source.widenings.contains target

theorem mem_all (primitive : Primitive) : primitive ∈ all := by
  cases primitive <;> decide

@[simp]
theorem widensTo_self (primitive : Primitive) : primitive.widensTo primitive = true := by
  cases primitive <;> rfl

/-- Widening steps compose. -/
theorem widensTo_trans {a b c : Primitive} (first : a.widensTo b = true)
    (second : b.widensTo c = true) : a.widensTo c = true := by
  cases a <;> cases b <;> first
    | exact absurd first (by decide)
    | (cases c <;> first | rfl | exact absurd second (by decide))

/-- Each keyword denotes the type that it belongs to. -/
@[simp]
theorem ofKeyword?_keyword (primitive : Primitive) :
    ofKeyword? primitive.keyword = some primitive := by
  cases primitive <;> decide

end Primitive

end JavaSymbols
