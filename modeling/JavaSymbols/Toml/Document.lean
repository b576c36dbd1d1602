import JavaSymbols.Toml.Scalar

/-!
# TOML documents

A document is a sequence of statements, one a line: headers of tables, headers
of elements of arrays of tables, and keys with their values.  Values are
scalars, arrays and inline tables, nested up to a fixed depth.
-/

namespace JavaSymbols.Toml

open Reader

/-- How deep arrays and inline tables may be nested, and how many keys a dotted
key may have. -/
def nestingLimit : Nat :=
  79

/-! ## Keys -/

/-- Whether a character may stand in a key without quotes. -/
def isKeyChar (c : Char) : Bool :=
  c.isAlphanum || c == '_' || c == '-'

/-- A key without quotes. -/
def bareKey : Reader String := do
  let text ← takeWhile isKeyChar
  if text.isEmpty then failure else pure (String.ofList text)

/-- One key with the blanks around it. -/
def simpleKey : Reader String := do
  blanks
  let key ← basicString <|> literalString <|> bareKey
  blanks
  pure key

/-- The keys after the first of a dotted key. -/
def moreKeys : (fuel : Nat) → Reader (List String)
  | 0 => pure []
  | fuel + 1 => do
      match ← optional? (char '.') with
      | none => pure []
      | some () => do
          let key ← simpleKey
          let rest ← moreKeys fuel
          pure (key :: rest)

/-- A dotted key. -/
def keyPath : Reader (List String) := do
  let first ← simpleKey
  let rest ← moreKeys (← remaining)
  if rest.length < nestingLimit then pure (first :: rest) else failure

/-! ## Values -/

/-- The elements of an array and its closing bracket. -/
def elements (item : Reader Node) : (fuel : Nat) → Reader (List Node)
  | 0 => failure
  | fuel + 1 => do
      layout
      match ← optional? (char ']') with
      | some () => pure []
      | none => do
          let first ← item
          layout
          match ← optional? (char ',') with
          | some () => do
              let rest ← elements item fuel
              pure (first :: rest)
          | none => do
              char ']'
              pure [first]

/-- A dotted key with its value. -/
def keyValue (value : Reader Node) : Reader (List String × Node) := do
  let path ← keyPath
  char '='
  blanks
  let node ← value
  pure (path, node)

/-- The entries of an inline table after the first, and its closing brace. -/
def moreEntries (value : Reader Node) : (fuel : Nat) → Reader (List (List String × Node))
  | 0 => failure
  | fuel + 1 => do
      blanks
      match ← optional? (char '\x7d') with
      | some () => pure []
      | none => do
          char ','
          let entry ← keyValue value
          let rest ← moreEntries value fuel
          pure (entry :: rest)

/-- The entries of an inline table and its closing brace. -/
def inlineEntries (value : Reader Node) : Reader (List (List String × Node)) := do
  match ← optional? (do blanks; char '\x7d') with
  | some () => pure []
  | none => do
      let first ← keyValue value
      let rest ← moreEntries value (← remaining)
      pure (first :: rest)

/-- The inline table with given entries, if they do not contradict each other. -/
def inlineTable? (entries : List (List String × Node)) : Option Table := do
  let table ← entries.foldlM
    (fun table (path, node) => do
      let key ← path.getLast?
      table.enter path.dropLast key node)
    (Table.empty .header)
  pure (table.withOrigin .inline)

/-- A value with at most so many levels of arrays and inline tables. -/
def value : (depth : Nat) → Reader Node
  | 0 => scalar
  | depth + 1 => do
      match ← peek? with
      | some '[' => do
          char '['
          let items ← elements (value depth) (← remaining)
          pure (.list items)
      | some '\x7b' => do
          char '\x7b'
          let entries ← inlineEntries (value depth)
          let table ← ofOption (inlineTable? entries)
          pure (.table table)
      | _ => scalar

/-! ## Statements -/

/-- The header of a table or of an element of an array of tables. -/
def header (draft : Draft) : Reader Draft := do
  match ← optional? (literal "[[") with
  | some () => do
      let path ← keyPath
      literal "]]"
      lineRest
      ofOption (draft.openElement path)
  | none => do
      char '['
      let path ← keyPath
      char ']'
      lineRest
      ofOption (draft.openTable path)

/-- A key with its value on a line of its own. -/
def assignment (draft : Draft) : Reader Draft := do
  let (path, node) ← keyValue (value nestingLimit)
  lineRest
  ofOption (draft.enter path node)

/-- The statements of a document up to its end. -/
def statements : (fuel : Nat) → Draft → Reader Draft
  | 0, _ => failure
  | fuel + 1, draft => do
      blanks
      match ← peek? with
      | none => pure draft
      | some '#' => do
          comment
          newline <|> atEnd
          statements fuel draft
      | some '[' => do
          let draft ← header draft
          statements fuel draft
      | some c =>
          if c == '\n' || c == '\r' then do
            newline
            statements fuel draft
          else do
            let draft ← assignment draft
            statements fuel draft

/-- A whole document, which may start with a byte order mark. -/
def document : Reader Table := do
  let _ ← optional? (char '\ufeff')
  let draft ← statements (← remaining) Draft.start
  ofOption draft.finish

/-- Read a document; a text that is none has no reading. -/
def read? (text : String) : Option Table :=
  (document.run text.toList).map Prod.fst

end JavaSymbols.Toml
