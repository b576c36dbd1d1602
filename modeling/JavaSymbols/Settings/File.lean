import JavaSymbols.Settings.Reading

/-!
# Settings files

A settings file is text in UTF-8.  Loading one fails when there is no file,
when its bytes are no text, and when its text holds no settings.

The reason why a path leads to no file is a matter of its form.  A path is a
sequence of names with slashes between them, which are followed one after
another.  Empty names and dots stay among the directories that are sure to
exist; the first other name is looked up and not found.
-/

namespace JavaSymbols.Settings

/-- Why the text of a file cannot be had. -/
inductive AccessFault where
  | noSuchFile
  | nameTooLong
  | zeroInName
  | isDirectory
  | notUtf8
  deriving DecidableEq

/-- The wording of an access fault. -/
def AccessFault.message : AccessFault → String
  | noSuchFile => "No such file or directory (os error 2)"
  | nameTooLong => "File name too long (os error 36)"
  | zeroInName => "file name contained an unexpected NUL byte"
  | isDirectory => "Is a directory (os error 21)"
  | notUtf8 => "stream did not contain valid UTF-8"

/-! ## Paths without a file -/

/-- How many bytes a name in a path may have. -/
def nameLimit : Nat :=
  255

/-- How many bytes a path may have. -/
def pathLimit : Nat :=
  4095

/-- Whether a name in a path stays among the directories that are sure to
exist. -/
def staysAmongDirectories (name : String) : Bool :=
  name == "" || name == "." || name == ".."

/-- The first name in a path that has to be looked up. -/
def firstLookup? (path : String) : Option String :=
  ((path.toList.splitOn '/').map String.ofList).find? fun name => !staysAmongDirectories name

/-- Why a path leads to no file. -/
def whyMissing (path : String) : AccessFault :=
  if path.toList.contains '\x00' then .zeroInName
  else if pathLimit < path.utf8ByteSize then .nameTooLong
  else if path.isEmpty then .noSuchFile
  else
    match firstLookup? path with
    | none => .isDirectory
    | some name => if nameLimit < name.utf8ByteSize then .nameTooLong else .noSuchFile

/-! ## Loading -/

/-- Why a file gives no settings. -/
inductive FileFault where
  | unreadable (path : String) (why : AccessFault)
  | unsuitable (why : ReadingFault)

/-- The wording of a file fault, where it has one. -/
def FileFault.message? : FileFault → Option String
  | unreadable path why => some ("failed to read config file " ++ path ++ ": " ++ why.message)
  | unsuitable why => why.message?

/-- The text in the bytes of a file.  They are missing if the path leads to no
file. -/
def textOf (path : String) : Option ByteArray → Except AccessFault String
  | none => .error (whyMissing path)
  | some bytes =>
      match String.fromUTF8? bytes with
      | none => .error .notUtf8
      | some text => .ok text

/-- The settings in a file with the given bytes, which are missing if the path
leads to no file. -/
def load (path : String) (bytes : Option ByteArray) : Except FileFault Settings :=
  match textOf path bytes with
  | .error why => .error (.unreadable path why)
  | .ok text =>
      match ofText text with
      | .error why => .error (.unsuitable why)
      | .ok settings => .ok settings

end JavaSymbols.Settings
