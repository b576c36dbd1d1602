/-!
# Tables of a TOML document

A document is a table of named nodes in the order in which they were written.
Tables come about in several ways, by a header, by being on the way to another
header, by a dotted key, or as an inline value, and the way decides what may
still be added to a table.

A path leads through tables by their keys; missing tables on the way are
created, and an array of tables stands for its last element.
-/

namespace JavaSymbols.Toml

/-- How a table of a document came about. -/
inductive Origin where
  /-- The table has a header of its own, or is the document. -/
  | header
  /-- The table is on the way to the table of a header. -/
  | implied
  /-- The table is on the way to a dotted key. -/
  | dotted
  /-- The table is written as a value. -/
  | inline
  deriving DecidableEq, Inhabited

mutual

/-- A value, table or array of tables of a document. -/
inductive Node where
  | text (value : String)
  | integer (value : Int)
  | float (value : Float)
  | boolean (value : Bool)
  /-- A date, a time of day, or both. -/
  | moment
  | list (items : List Node)
  | table (content : Table)
  | tables (items : List Table)

/-- A table with its entries in order. -/
inductive Table where
  | mk (origin : Origin) (entries : List (String × Node))

end

namespace Table

/-- How a table came about. -/
def origin : Table → Origin
  | mk origin _ => origin

/-- The entries of a table in order. -/
def entries : Table → List (String × Node)
  | mk _ entries => entries

/-- A table without entries. -/
def empty (origin : Origin) : Table :=
  mk origin []

instance : Inhabited Table :=
  ⟨empty .header⟩

/-- The same entries in a table of another origin. -/
def withOrigin (origin : Origin) (table : Table) : Table :=
  mk origin table.entries

/-- The node under a key. -/
def find? (table : Table) (key : String) : Option Node :=
  table.entries.lookup key

/-- Add an entry at the end. -/
def add (table : Table) (key : String) (node : Node) : Table :=
  mk table.origin (table.entries ++ [(key, node)])

/-- Put a node in the place of the one under a key. -/
def replace (table : Table) (key : String) (node : Node) : Table :=
  mk table.origin
    (table.entries.map fun entry => if entry.1 = key then (key, node) else entry)

/-- Take the entry under a key away. -/
def remove (table : Table) (key : String) : Table :=
  mk table.origin (table.entries.filter fun entry => entry.1 != key)

/-! ## Following paths -/

/-- The ways of following a path. -/
inductive Approach where
  /-- The path of a header may pass through any table that is not inline. -/
  | byHeader
  /-- The path of a dotted key may pass only through tables without a header. -/
  | byKey
  deriving DecidableEq

/-- The origin of the tables that following a path creates. -/
def Approach.created : Approach → Origin
  | byHeader => .implied
  | byKey => .dotted

/-- Whether a path may pass through a table of some origin. -/
def Approach.passes : Approach → Origin → Bool
  | _, .implied => true
  | _, .dotted => true
  | byHeader, .header => true
  | byKey, .header => false
  | _, .inline => false

/-- Change the table at the end of a path.  The result is missing if the path
meets something that it may not pass through, or if the change fails. -/
def changeAt (approach : Approach) (change : Table → Option Table) :
    List String → Table → Option Table
  | [], table => change table
  | key :: path, table =>
      match table.find? key with
      | none => do
          let inner ← changeAt approach change path (empty approach.created)
          pure (table.add key (.table inner))
      | some (.table inner) =>
          if approach.passes inner.origin then do
            let inner ← changeAt approach change path inner
            pure (table.replace key (.table inner))
          else none
      | some (.tables items) =>
          match items.getLast? with
          | none => none
          | some last => do
              let last ← changeAt approach change path last
              pure (table.replace key (.tables (items.dropLast ++ [last])))
      | some _ => none

/-- The table at the end of a path, if the path can be followed.  Tables that
are missing on the way count as empty. -/
def tableAt? (approach : Approach) : List String → Table → Option Table
  | [], table => some table
  | key :: path, table =>
      match table.find? key with
      | none => tableAt? approach path (empty approach.created)
      | some (.table inner) =>
          if approach.passes inner.origin then tableAt? approach path inner else none
      | some (.tables items) => items.getLast?.bind (tableAt? approach path)
      | some _ => none

/-! ## Entering nodes -/

/-- Enter a node under a new key. -/
def addNew (key : String) (node : Node) (table : Table) : Option Table :=
  if (table.find? key).isSome then none else some (table.add key node)

/-- Enter a value under a dotted key.  A path of several keys has to end in a
table that dotted keys have made. -/
def enter (path : List String) (key : String) (node : Node) (table : Table) : Option Table :=
  changeAt .byKey
    (fun target =>
      if (target.origin == .dotted) == path.isEmpty then none else target.addNew key node)
    path table

end Table

/-! ## Growing a document -/

/-- A document while it is read: what is finished, and the table to which the
latest header belongs. -/
structure Draft where
  root : Table
  current : Table
  /-- The path of the latest header; empty before the first. -/
  path : List String
  /-- Whether the latest header adds to an array of tables. -/
  inArray : Bool

namespace Draft

/-- The draft at the start of a document. -/
def start : Draft where
  root := .empty .header
  current := .empty .header
  path := []
  inArray := false

/-- Put the current table at its place in a parent table. -/
def settleIn (draft : Draft) (key : String) (parent : Table) : Option Table :=
  match parent.find? key, draft.inArray with
  | none, false => some (parent.add key (.table draft.current))
  | some (.table present), false =>
      if present.origin == .implied || present.origin == .dotted then
        some (parent.replace key (.table draft.current))
      else none
  | none, true => some (parent.add key (.tables [draft.current]))
  | some (.tables items), true => some (parent.replace key (.tables (items ++ [draft.current])))
  | some _, _ => none

/-- Finish the current table: the whole document with it in its place. -/
def finish (draft : Draft) : Option Table :=
  match draft.path.getLast? with
  | none => some draft.current
  | some key =>
      Table.changeAt .byHeader (draft.settleIn key) draft.path.dropLast draft.root

/-- Open the table of a header.  A table that is only implied so far is taken
over with what it holds, and moves to the end of its parent; any other table
under that name is a duplicate. -/
def openTable (draft : Draft) (path : List String) : Option Draft := do
  let root ← draft.finish
  let key ← path.getLast?
  let parent ← Table.tableAt? .byHeader path.dropLast root
  match parent.find? key with
  | none =>
      let root ← Table.changeAt .byHeader some path.dropLast root
      pure ⟨root, .empty .header, path, false⟩
  | some (.table present) =>
      if present.origin == .implied then
        let root ←
          Table.changeAt .byHeader (fun table => some (table.remove key)) path.dropLast root
        pure ⟨root, present.withOrigin .header, path, false⟩
      else none
  | some _ => none

/-- Open a new element of the array of tables of a header.  The array is entered
at once, so that it keeps its place in the document. -/
def openElement (draft : Draft) (path : List String) : Option Draft := do
  let root ← draft.finish
  let key ← path.getLast?
  let root ←
    Table.changeAt .byHeader
      (fun parent =>
        match parent.find? key with
        | none => some (parent.add key (.tables []))
        | some (.tables _) => some parent
        | some _ => none)
      path.dropLast root
  pure ⟨root, .empty .header, path, true⟩

/-- Enter a value under a dotted key of the current table. -/
def enter (draft : Draft) (path : List String) (node : Node) : Option Draft := do
  let key ← path.getLast?
  let current ← draft.current.enter path.dropLast key node
  pure { draft with current := current }

end Draft

end JavaSymbols.Toml
