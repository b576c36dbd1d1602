import JavaSymbols.Decl
import JavaSymbols.Settings.Basic
import JavaSymbols.Traced

/-!
# The environment of resolution

An environment joins a declaration tree with a source of qualified names and
the root types.  Names come from outside the tree, so the ids that the source
answers are validated before use.
-/

namespace JavaSymbols

/-- Check that an id denotes an item whose enclosing items and unit exist. -/
def DeclTree.validate (tree : DeclTree) (id : ItemId) : Except Inconsistency Unit :=
  match (tree.chain id).find? fun link => (tree.item? link).isNone with
  | some missing => .error (.unknownItem missing)
  | none =>
      let unit := (tree.item id).unit
      if (tree.unit? unit).isNone then .error (.missingUnit id unit) else .ok ()

/-- What names are resolved in. -/
structure Environment where
  tree : DeclTree
  /-- The item that a qualified name denotes, if any. -/
  solve : String → Option ItemId
  roots : RootNames
  /-- The universal base type. -/
  object : ItemId
  /-- The base type of records. -/
  record : ItemId

namespace Environment

/-- Check an id against a tree, as a computation. -/
def validated (tree : DeclTree) (id : ItemId) : Traced ItemId :=
  match tree.validate id with
  | .ok () => pure id
  | .error why => .fail (.inconsistent why)

/-- The root type with a name, which has to exist. -/
def rootType (tree : DeclTree) (solve : String → Option ItemId) (name : String) :
    Traced ItemId := do
  let id ← Traced.orFault (.missingRootType name) (solve name)
  validated tree id

/-- The environment over a tree and a source of names, if the root types that
are needed from the start exist. -/
def create (tree : DeclTree) (solve : String → Option ItemId) (roots : RootNames) :
    Traced Environment := do
  let object ← rootType tree solve roots.object
  let record ← rootType tree solve roots.recordBase
  Traced.report (.ready tree.size roots.object roots.recordBase)
  pure ⟨tree, solve, roots, object, record⟩

variable (env : Environment)

/-- Use an id that has been validated before; any other id is a fault. -/
def known (id : ItemId) : Traced Unit :=
  if id < env.tree.size then pure () else .fail (.outsideTree id)

/-- The declaration with an id, after validation. -/
def declaration (id : ItemId) : Traced Decl := do
  let id ← validated env.tree id
  pure (.item id)

/-- The declaration with a qualified name, as the source of names knows it. -/
def solveQualified (name : String) : Traced (Option Decl) :=
  match env.solve name with
  | none => pure none
  | some id => do
      let decl ← env.declaration id
      pure (some decl)

/-- The first of several qualified names that denotes a declaration. -/
def firstSolved : List String → Traced (Option Decl)
  | [] => pure none
  | name :: rest => do
      match ← env.solveQualified name with
      | some decl => pure (some decl)
      | none => firstSolved rest

/-! ## Syntax nodes that declare types -/

/-- A syntax node within a type declaration. -/
inductive Node where
  | type (item : ItemId)
  | typeParameter (item : ItemId) (index : Nat)
  | enumConstant (item : ItemId) (index : Nat)
  | field (item : ItemId) (index : Nat)
  | method (item : ItemId) (index : Nat)
  deriving DecidableEq

/-- The declaration that a syntax node introduces. -/
def declarationAt : Node → Traced Decl
  | .type item => env.declaration item
  | .typeParameter item index => do
      let _ ← env.declaration item
      if index < (env.tree.paramsOf (.type item)).length then
        pure (.parameter ⟨.type item, index⟩)
      else
        .fail (.inconsistent (.noTypeParameter item index))
  | .enumConstant item _ => do
      let decl ← env.declaration item
      if (env.tree.decl item).kind = .enumType then
        pure decl
      else
        .fail (.inconsistent (.constantOutsideEnum item))
  | .field _ _ => .fail (.unsupported .memberNode)
  | .method _ _ => .fail (.unsupported .memberNode)

/-- The use of a node inside a declaration is not a question about
declarations. -/
def usageAt (_decl : Decl) (_node : Node) : Traced Ty :=
  .fail (.unsupported .usageOfNode)

end Environment

end JavaSymbols
