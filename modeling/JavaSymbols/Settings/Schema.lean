import JavaSymbols.Settings.Layout

/-!
# The schema of settings files

The format of settings files as a JSON Schema document.  It follows the layout
of the sections, so that the schema and the reader of settings files know the
same names and the same standard values.
-/

namespace JavaSymbols.Settings

/-- A value of a schema document. -/
inductive SchemaValue where
  | flag (value : Bool)
  | text (value : String)
  | list (items : List SchemaValue)
  | object (entries : List (String × SchemaValue))

namespace SchemaValue

/-- A description, where there is one. -/
def described : Option String → List (String × SchemaValue)
  | none => []
  | some description => [("description", text description)]

/-- The schema of an object with the given properties and no others. -/
def closedObject (properties : List (String × SchemaValue)) : List (String × SchemaValue) :=
  [("type", text "object"), ("properties", object properties),
    ("additionalProperties", flag false)]

end SchemaValue

open SchemaValue

variable {S : Type}

/-- The name of the type of a slot's values. -/
def Slot.typeName : Slot S → String
  | text _ _ => "string"
  | flag _ _ => "boolean"

/-- The value of a slot in the settings of a section. -/
def Slot.value (settings : S) : Slot S → SchemaValue
  | text get _ => .text (get settings)
  | flag get _ => .flag (get settings)

/-- The schema of an entry, with its value in the standard settings. -/
def Entry.schema (standard : S) (entry : Entry S) : SchemaValue :=
  object
    [("description", .text entry.description), ("default", entry.slot.value standard),
      ("type", .text entry.slot.typeName)]

/-- The settings of a section as an object. -/
def Section.valueOf (part : Section S) (settings : S) : SchemaValue :=
  object (part.entries.map fun entry => (entry.name, entry.slot.value settings))

/-- The schema of a section. -/
def Section.schema (part : Section S) : SchemaValue :=
  object
    (described part.description ++
      closedObject (part.entries.map fun entry => (entry.name, entry.schema part.standard)))

/-- The schema of a section's place in a settings file, which refers to the
definition of the section. -/
def Section.reference (part : Section S) : SchemaValue :=
  object
    [("allOf", list [object [("$ref", .text ("#/definitions/" ++ part.title))]]),
      ("default", part.valueOf part.standard)]

/-- The schema of settings files. -/
def schema : SchemaValue :=
  object
    ([("$schema", .text "http://json-schema.org/draft-07/schema#"),
        ("title", .text "NovaConfig")] ++
      closedObject
        [(loggingSection.name, loggingSection.reference),
          (resolutionSection.name, resolutionSection.reference)] ++
      [("definitions",
        object
          [(loggingSection.title, loggingSection.schema),
            (resolutionSection.title, resolutionSection.schema)])])

end JavaSymbols.Settings
