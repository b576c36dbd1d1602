import JavaSymbols.Settings.Layout
import JavaSymbols.Text.Quoted
import JavaSymbols.Toml.Document

/-!
# Reading settings

Settings are read from the tables of a TOML document.  Entries are judged in
the order of the document, and the first that is unknown or has a value of the
wrong type ends the reading; what the document leaves out keeps its standard
value.  An array in the place of a section gives the values of the section's
entries in their order.
-/

namespace JavaSymbols.Settings

/-! ## Faults of a settings text -/

/-- What an entry or a section accepts. -/
inductive Expectation where
  | text
  | flag
  | part (title : String)
  deriving DecidableEq

/-- The wording of an expectation. -/
def Expectation.phrase : Expectation → String
  | text => "a string"
  | flag => "a boolean"
  | part title => "struct " ++ title

/-- Why a text holds no settings. -/
inductive ReadingFault where
  /-- The text is not a TOML document. -/
  | malformed
  /-- A table has an entry that its section does not know. -/
  | unknownName (name : String) (expected : List String)
  | wrongType (found : Toml.Node) (expected : Expectation)

/-- A text between backticks. -/
def ticked (text : String) : String :=
  "\x60" ++ text ++ "\x60"

/-- The wording of a choice between names. -/
def choice : List String → String
  | [] => "nothing"
  | [name] => ticked name
  | [first, second] => ticked first ++ " or " ++ ticked second
  | names => "one of " ++ ", ".intercalate (names.map ticked)

/-- How a node appears in the wording of a fault.  A date counts as a table. -/
def nodeText : Toml.Node → String
  | .text value => "string " ++ Text.quote value
  | .integer value => "integer " ++ ticked (toString value)
  | .float value => "floating point " ++ ticked (Decimal.floatText value)
  | .boolean value => "boolean " ++ ticked (toString value)
  | .list _ => "sequence"
  | .tables _ => "sequence"
  | .table _ => "map"
  | .moment => "map"

/-- The wording of a fault; a text that is no document has none. -/
def ReadingFault.message? : ReadingFault → Option String
  | malformed => none
  | unknownName name expected =>
      some ("failed to parse toml config: unknown field " ++ ticked name ++
        ", expected " ++ choice expected)
  | wrongType found expected =>
      some ("failed to parse toml config: invalid type: " ++ nodeText found ++
        ", expected " ++ expected.phrase)

/-! ## Sections -/

/-- The name of the only entry of a date, when it is taken for a table. -/
def momentName : String :=
  "$__toml_private_datetime"

variable {S : Type}

/-- Put the value of an entry into the settings of its section. -/
def Entry.accept (entry : Entry S) (settings : S) (node : Toml.Node) : Except ReadingFault S :=
  match entry.slot, node with
  | .text _ put, .text value => .ok (put value settings)
  | .flag _ put, .boolean value => .ok (put value settings)
  | .text _ _, found => .error (.wrongType found .text)
  | .flag _ _, found => .error (.wrongType found .flag)

/-- Put a named value into the settings of a section. -/
def Section.acceptNamed (part : Section S) (settings : S) (item : String × Toml.Node) :
    Except ReadingFault S :=
  match part.entry? item.1 with
  | some entry => entry.accept settings item.2
  | none => .error (.unknownName item.1 part.names)

/-- Read a section from the entries of a table. -/
def Section.readNamed (part : Section S) (items : List (String × Toml.Node)) :
    Except ReadingFault S :=
  items.foldlM part.acceptNamed part.standard

/-- Read a section from values in the order of its entries.  Values after the
last entry are ignored. -/
def Section.readOrdered (part : Section S) (items : List Toml.Node) : Except ReadingFault S :=
  (part.entries.zip items).foldlM (fun settings (entry, node) => entry.accept settings node)
    part.standard

/-- Read a section from its node. -/
def Section.read (part : Section S) : Toml.Node → Except ReadingFault S
  | .table content => part.readNamed content.entries
  | .list items => part.readOrdered items
  | .tables items => part.readOrdered (items.map .table)
  | .moment => .error (.unknownName momentName part.names)
  | found => .error (.wrongType found (.part part.title))

/-! ## Documents -/

/-- Put a section of a document into the settings. -/
def acceptSection (settings : Settings) (item : String × Toml.Node) :
    Except ReadingFault Settings :=
  if item.1 == loggingSection.name then do
    let logging ← loggingSection.read item.2
    pure { settings with logging := logging }
  else if item.1 == resolutionSection.name then do
    let resolution ← resolutionSection.read item.2
    pure { settings with resolution := resolution }
  else .error (.unknownName item.1 [loggingSection.name, resolutionSection.name])

/-- The settings that a document holds. -/
def ofDocument (document : Toml.Table) : Except ReadingFault Settings :=
  document.entries.foldlM acceptSection .standard

/-- The settings that a text holds. -/
def ofText (text : String) : Except ReadingFault Settings :=
  match Toml.read? text with
  | none => .error .malformed
  | some document => ofDocument document

end JavaSymbols.Settings
