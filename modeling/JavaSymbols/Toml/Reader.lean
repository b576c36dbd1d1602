/-!
# Readers of characters

A reader takes characters from the front of a text and gives a value, or fails
without taking any.  Since a failed alternative takes nothing, `<|>` tries one
reader after another at the same place.
-/

namespace JavaSymbols.Toml

/-- A reader from the front of a list of characters. -/
abbrev Reader (α : Type) : Type :=
  StateT (List Char) Option α

namespace Reader

/-- The next character, which is not taken. -/
def peek? : Reader (Option Char) := do
  let text ← get
  pure text.head?

/-- Take a character that satisfies a test. -/
def satisfy (test : Char → Bool) : Reader Char := do
  match ← get with
  | [] => failure
  | c :: rest =>
      if test c then
        set rest
        pure c
      else failure

/-- Take a given character. -/
def char (expected : Char) : Reader Unit := do
  let _ ← satisfy fun c => c == expected
  pure ()

/-- Take a given text. -/
def literal (expected : String) : Reader Unit := do
  match expected.toList.isPrefixOf? (← get) with
  | none => failure
  | some rest => set rest

/-- Take characters as long as they satisfy a test. -/
def takeWhile (test : Char → Bool) : Reader (List Char) := do
  let text ← get
  set (text.dropWhile test)
  pure (text.takeWhile test)

/-- Succeed at the end of the text only. -/
def atEnd : Reader Unit := do
  match ← get with
  | [] => pure ()
  | _ :: _ => failure

/-- A bound on how often a reader that takes something can succeed. -/
def remaining : Reader Nat := do
  let text ← get
  pure (text.length + 1)

/-- Read if possible. -/
def optional? {α : Type} (reader : Reader α) : Reader (Option α) :=
  (do
    let value ← reader
    pure (some value)) <|> pure none

/-- A value, or failure where it is missing. -/
def ofOption {α : Type} : Option α → Reader α
  | none => failure
  | some value => pure value

/-! ## Blanks and line ends -/

/-- Take spaces and tabs. -/
def blanks : Reader Unit := do
  let _ ← takeWhile fun c => c == ' ' || c == '\t'
  pure ()

/-- Take a line end. -/
def newline : Reader Unit :=
  char '\n' <|> literal "\r\n"

/-- Whether a character may stand in a comment or, apart from delimiters, in a
string: a tab or anything but a control character. -/
def isTextChar (c : Char) : Bool :=
  c == '\t' || (0x20 ≤ c.toNat && c.toNat ≠ 0x7F)

/-- Take a comment, up to the end of its line. -/
def comment : Reader Unit := do
  char '#'
  let _ ← takeWhile isTextChar
  pure ()

/-- Take what may follow a statement on its line, and the line end. -/
def lineRest : Reader Unit := do
  blanks
  let _ ← optional? comment
  newline <|> atEnd

/-- Take blanks, line ends and comments, up to a number of pieces. -/
def skipLines : (fuel : Nat) → Reader Unit
  | 0 => pure ()
  | fuel + 1 => do
      blanks
      match ← optional? (newline <|> comment) with
      | none => pure ()
      | some () => skipLines fuel

/-- Take all blanks, line ends and comments. -/
def layout : Reader Unit := do
  skipLines (← remaining)

end Reader

end JavaSymbols.Toml
