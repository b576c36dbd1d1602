import JavaSymbols.Settings.Basic

/-!
# The layout of a settings file

A settings file has one section for each part of the settings.  The entries of
a section are listed once, each with its name, its description and the part of
the settings that it holds; reading a file and describing its format both
follow these lists.
-/

namespace JavaSymbols.Settings

/-- The part of a section's settings that an entry holds, with the way to read
it and to replace it. -/
inductive Slot (S : Type) where
  | text (get : S → String) (put : String → S → S)
  | flag (get : S → Bool) (put : Bool → S → S)

/-- A named entry of a section. -/
structure Entry (S : Type) where
  name : String
  description : String
  slot : Slot S

/-- A section of a settings file. -/
structure Section (S : Type) where
  /-- The key of the section in the file. -/
  name : String
  /-- The name of the section's format. -/
  title : String
  description : Option String
  /-- The settings that hold where the section says nothing. -/
  standard : S
  /-- The entries, in the order in which an array gives their values. -/
  entries : List (Entry S)

namespace Section

/-- The names of a section's entries. -/
def names {S : Type} (part : Section S) : List String :=
  part.entries.map Entry.name

/-- The entry of a section with a name. -/
def entry? {S : Type} (part : Section S) (name : String) : Option (Entry S) :=
  part.entries.find? fun entry => entry.name == name

end Section

/-! ## The sections -/

/-- What is logged, and in which form. -/
def loggingSection : Section LogSettings where
  name := "logging"
  title := "LoggingConfig"
  description := none
  standard := .standard
  entries :=
    [{ name := "level"
       description :=
        "Logging level for all Nova crates.\n\n" ++
          "Either a simple level (\x60info\x60, \x60debug\x60, ...) or a full " ++
          "\x60EnvFilter\x60 directive string such as \x60nova.resolve=trace,info\x60."
       slot := .text LogSettings.level fun level settings => { settings with level := level } },
      { name := "json"
        description := "Emit logs in JSON format."
        slot := .flag LogSettings.json fun json settings => { settings with json := json } }]

/-- The root types of resolution. -/
def resolutionSection : Section RootNames where
  name := "resolution"
  title := "ResolutionConfig"
  description :=
    some ("Well-known root types the resolver must be able to look up " ++
      "before it can resolve anything else.")
  standard := .standard
  entries :=
    [{ name := "object_type"
       description := "Universal base type; its ancestor list is always empty."
       slot := .text RootNames.object fun name roots => { roots with object := name } },
      { name := "record_base_type"
        description := "Implicit, non-overridable superclass of every record declaration."
        slot := .text RootNames.recordBase fun name roots => { roots with recordBase := name } },
      { name := "enum_base_type"
        description :=
          "Implicit superclass of every enum declaration (parameterized by the enum)."
        slot := .text RootNames.enumBase fun name roots => { roots with enumBase := name } },
      { name := "annotation_base_type"
        description := "Implicit superinterface of every annotation type."
        slot :=
          .text RootNames.annotationBase fun name roots =>
            { roots with annotationBase := name } }]

end JavaSymbols.Settings
