import JavaSymbols.Decimal.Shortest
import JavaSymbols.Toml.Reader
import JavaSymbols.Toml.Table

/-!
# Strings, numbers and dates of TOML documents

Strings come in four forms, basic and literal, each on one line or on several.
Numbers are integers in four bases and floating-point numbers.  Dates and times
are checked and otherwise forgotten.
-/

namespace JavaSymbols.Toml

open Reader

/-! ## Strings -/

/-- The value of a hexadecimal digit. -/
def hexDigit? (c : Char) : Option Nat :=
  if '0' ≤ c ∧ c ≤ '9' then some (c.toNat - '0'.toNat)
  else if 'a' ≤ c ∧ c ≤ 'f' then some (c.toNat - 'a'.toNat + 10)
  else if 'A' ≤ c ∧ c ≤ 'F' then some (c.toNat - 'A'.toNat + 10)
  else none

/-- The character with a code point in hexadecimal digits, if there is one. -/
def charOfHex? (digits : List Char) : Option Char := do
  let values ← digits.mapM hexDigit?
  let code := values.foldl (fun number digit => 16 * number + digit) 0
  if code.isValidChar then some (Char.ofNat code) else none

/-- Take a number of characters. -/
def take : (count : Nat) → Reader (List Char)
  | 0 => pure []
  | count + 1 => do
      let c ← satisfy fun _ => true
      let rest ← take count
      pure (c :: rest)

/-- The character that an escape stands for, after its backslash. -/
def escaped : Reader Char := do
  match ← satisfy fun _ => true with
  | 'b' => pure '\x08'
  | 't' => pure '\t'
  | 'n' => pure '\n'
  | 'f' => pure '\x0c'
  | 'r' => pure '\r'
  | '"' => pure '"'
  | '\\' => pure '\\'
  | 'u' => do ofOption (charOfHex? (← take 4))
  | 'U' => do ofOption (charOfHex? (← take 8))
  | _ => failure

/-- The characters of a basic string and its closing quote. -/
def basicBody : (fuel : Nat) → Reader (List Char)
  | 0 => failure
  | fuel + 1 => do
      match ← satisfy isTextChar with
      | '"' => pure []
      | '\\' => do
          let c ← escaped
          let rest ← basicBody fuel
          pure (c :: rest)
      | c => do
          let rest ← basicBody fuel
          pure (c :: rest)

/-- A basic string on one line. -/
def basicString : Reader String := do
  char '"'
  let body ← basicBody (← remaining)
  pure (String.ofList body)

/-- A literal string on one line. -/
def literalString : Reader String := do
  char '\''
  let body ← takeWhile fun c => isTextChar c && c != '\''
  char '\''
  pure (String.ofList body)

/-- Closing quotes of a string on several lines.  Up to two quotes directly
before them belong to the string. -/
def closing (quote : Char) : Reader (List Char) := do
  let mark := String.ofList [quote, quote, quote]
  literal mark
  let first ← optional? (char quote)
  match first with
  | none => pure []
  | some () => do
      match ← optional? (char quote) with
      | none => pure [quote]
      | some () => pure [quote, quote]

/-- Take blanks and line ends, up to a number of pieces. -/
def skipBreaks : (fuel : Nat) → Reader Unit
  | 0 => pure ()
  | fuel + 1 => do
      blanks
      match ← optional? newline with
      | none => pure ()
      | some () => skipBreaks fuel

/-- A backslash at the end of a line, with all blanks and line ends after it. -/
def lineJoin : Reader Unit := do
  char '\\'
  blanks
  newline
  skipBreaks (← remaining)

/-- The characters of a string on several lines and its closing quotes.  Only
in basic strings a backslash has a meaning. -/
def linesBody (quote : Char) : (fuel : Nat) → Reader (List Char)
  | 0 => failure
  | fuel + 1 => do
      match ← optional? (closing quote) with
      | some quotes => pure quotes
      | none => do
          let piece ←
            (if quote == '"' then (do lineJoin; pure []) else failure) <|>
              (if quote == '"' then (do char '\\'; let c ← escaped; pure [c]) else failure) <|>
              (do newline; pure ['\n']) <|>
              (do
                let c ← satisfy fun c => isTextChar c && !(quote == '"' && c == '\\')
                pure [c])
          let rest ← linesBody quote fuel
          pure (piece ++ rest)

/-- A string on several lines.  A line end directly after the opening quotes
does not belong to it. -/
def linesString (quote : Char) : Reader String := do
  literal (String.ofList [quote, quote, quote])
  let _ ← optional? newline
  let body ← linesBody quote (← remaining)
  pure (String.ofList body)

/-- A string in any of its forms. -/
def string : Reader String := do
  match (← get).take 3 with
  | ['"', '"', '"'] => linesString '"'
  | ['\'', '\'', '\''] => linesString '\''
  | '"' :: _ => basicString
  | _ => literalString

/-! ## Numbers -/

/-- The digits at the front of a text, with single underscores between them,
and the text after them. -/
def digitGroups (isDigit : Char → Bool) : List Char → List Char × List Char
  | [] => ([], [])
  | '_' :: c :: rest =>
      if isDigit c then
        let (digits, rest) := digitGroups isDigit rest
        (c :: digits, rest)
      else ([], '_' :: c :: rest)
  | c :: rest =>
      if isDigit c then
        let (digits, rest) := digitGroups isDigit rest
        (c :: digits, rest)
      else ([], c :: rest)

/-- One or more digits with single underscores between them. -/
def digits (isDigit : Char → Bool) : Reader (List Char) := do
  let text ← get
  match text with
  | [] => failure
  | first :: _ =>
      if isDigit first then
        let (digits, rest) := digitGroups isDigit text
        set rest
        pure digits
      else failure

/-- An optional sign; `true` stands for a minus. -/
def sign : Reader Bool :=
  (do char '-'; pure true) <|> (do char '+'; pure false) <|> pure false

/-- A sequence of decimal digits without leading zeros. -/
def wholePart : Reader (List Char) :=
  (do char '0'; pure ['0']) <|> digits Char.isDigit

/-- The value of digits in a base. -/
def valueOf (base : Nat) (digits : List Char) : Nat :=
  digits.foldl (fun number c => base * number + (hexDigit? c).getD 0) 0

/-- An integer in the range of 64 bits. -/
def inRange (value : Int) : Reader Node :=
  if Int64.minValue.toInt ≤ value ∧ value ≤ Int64.maxValue.toInt then pure (.integer value)
  else failure

/-- An integer in a base that is announced by a marker. -/
def basedInteger (marker : String) (base : Nat) (isDigit : Char → Bool) : Reader Node := do
  literal marker
  let digits ← digits isDigit
  inRange (valueOf base digits)

/-- A decimal integer. -/
def decimalInteger : Reader Node := do
  let negative ← sign
  let value := (valueOf 10 (← wholePart) : Int)
  inRange (if negative then -value else value)

/-- An integer in any base. -/
def integer : Reader Node := do
  match (← get).take 2 with
  | ['0', 'x'] => basedInteger "0x" 16 fun c => (hexDigit? c).isSome
  | ['0', 'o'] => basedInteger "0o" 8 fun c => '0' ≤ c && c ≤ '7'
  | ['0', 'b'] => basedInteger "0b" 2 fun c => c == '0' || c == '1'
  | _ => decimalInteger

/-- The exponent of a number, after its mark. -/
def exponentPart : Reader Int := do
  let _ ← satisfy fun c => c == 'e' || c == 'E'
  let negative ← sign
  let value := (valueOf 10 (← digits Char.isDigit) : Int)
  pure (if negative then -value else value)

/-- A floating-point number in digits, which has a fraction or an exponent.
Numbers too great to be finite are refused unless they are negative. -/
def decimalFloat : Reader Node := do
  let negative ← sign
  let whole ← wholePart
  let fraction ← optional? (do char '.'; digits Char.isDigit)
  let exponent ← optional? exponentPart
  if fraction.isNone && exponent.isNone then failure
  else
    let places := fraction.getD []
    let number :=
      Decimal.nearestFloat (valueOf 10 (whole ++ places)) (exponent.getD 0 - places.length)
    if negative then pure (.float (-number))
    else if number.isInf then failure
    else pure (.float number)

/-- An infinite number, or the one that is not a number. -/
def specialFloat : Reader Node := do
  let negative ← sign
  let number : Float ← (do literal "inf"; pure (1 / 0)) <|> (do literal "nan"; pure (0 / 0))
  pure (.float (if negative then -number else number))

/-! ## Dates and times -/

/-- A number of exactly so many decimal digits, within bounds. -/
def bounded (count low high : Nat) : Reader Nat := do
  let digits ← take count
  let value := valueOf 10 digits
  if digits.all Char.isDigit && low ≤ value && value ≤ high then pure value else failure

/-- The number of days in a month. -/
def daysIn (year month : Nat) : Nat :=
  if month == 2 then
    if year % 4 == 0 && (year % 100 != 0 || year % 400 == 0) then 29 else 28
  else if [4, 6, 9, 11].contains month then 30
  else 31

/-- A calendar date. -/
def date : Reader Unit := do
  let year ← bounded 4 0 9999
  char '-'
  let month ← bounded 2 1 12
  char '-'
  let day ← bounded 2 1 31
  if day ≤ daysIn year month then pure () else failure

/-- A time of day with seconds, which may be a leap second. -/
def timeOfDay : Reader Unit := do
  let _ ← bounded 2 0 23
  char ':'
  let _ ← bounded 2 0 59
  char ':'
  let _ ← bounded 2 0 60
  let _ ← optional? (do
    char '.'
    let _ ← satisfy Char.isDigit
    takeWhile Char.isDigit)
  pure ()

/-- The distance of a time from universal time. -/
def offset : Reader Unit :=
  (do
    let _ ← satisfy fun c => c == 'Z' || c == 'z') <|>
  (do
    let _ ← satisfy fun c => c == '+' || c == '-'
    let _ ← bounded 2 0 23
    char ':'
    let _ ← bounded 2 0 59)

/-- A date, a time, or both with or without an offset. -/
def moment : Reader Node := do
  (do
    date
    let _ ← optional? (do
      let _ ← satisfy fun c => c == 'T' || c == 't' || c == ' '
      timeOfDay
      optional? offset)
    pure ()) <|> timeOfDay
  pure .moment

/-! ## All scalars -/

/-- A truth value. -/
def boolean : Reader Node :=
  (do literal "true"; pure (.boolean true)) <|> (do literal "false"; pure (.boolean false))

/-- A value that is neither an array nor a table. -/
def scalar : Reader Node := do
  match ← peek? with
  | some '"' => do pure (.text (← string))
  | some '\'' => do pure (.text (← string))
  | _ => moment <|> decimalFloat <|> specialFloat <|> integer <|> boolean

end JavaSymbols.Toml
