/-!
# Settings

The settings of a session: which library types are the roots of resolution, and
what is logged.
-/

namespace JavaSymbols

/-- The qualified names of the library types that resolution refers to. -/
structure RootNames where
  object : String
  recordBase : String
  enumBase : String
  annotationBase : String
  deriving DecidableEq, Inhabited

/-- The root types of the standard library. -/
def RootNames.standard : RootNames where
  object := "java.lang.Object"
  recordBase := "java.lang.Record"
  enumBase := "java.lang.Enum"
  annotationBase := "java.lang.annotation.Annotation"

/-- What is logged, and in which form. -/
structure LogSettings where
  /-- A level, or directives for several targets. -/
  level : String
  /-- Whether log lines are written as JSON. -/
  json : Bool
  deriving DecidableEq, Inhabited

/-- Everything from level `info` up, as plain text. -/
def LogSettings.standard : LogSettings where
  level := "info"
  json := false

/-- All settings of a session. -/
structure Settings where
  logging : LogSettings
  resolution : RootNames
  deriving DecidableEq, Inhabited

/-- The settings that hold where a settings file says nothing. -/
def Settings.standard : Settings where
  logging := .standard
  resolution := .standard

end JavaSymbols
