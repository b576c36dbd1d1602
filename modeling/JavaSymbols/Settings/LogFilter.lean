import JavaSymbols.Settings.Basic
import JavaSymbols.Text.Blank
import JavaSymbols.Text.Letter

/-!
# Log filters

A log filter is a set of directives.  A directive gives the level from which on
events are logged, either for the events of one target or, without a target,
for all that no other directive covers.  There is at most one directive for
each target, and directives are kept in the order in which they are consulted:
longer targets first, the one without a target last.

Filters are read from texts such as `parser.names=trace,info`.
-/

namespace JavaSymbols

/-! ## Levels -/

/-- The levels of a log, from the one that logs nothing to the finest. -/
inductive LogLevel where
  | off
  | error
  | warn
  | info
  | debug
  | trace
  deriving DecidableEq, Inhabited

namespace LogLevel

/-- All levels, in the order of their numbers. -/
def all : List LogLevel :=
  [off, error, warn, info, debug, trace]

/-- The word that names a level. -/
def word : LogLevel → String
  | off => "off"
  | error => "error"
  | warn => "warn"
  | info => "info"
  | debug => "debug"
  | trace => "trace"

/-- The level with a word, in capital or small letters. -/
def ofWord? (text : String) : Option LogLevel :=
  all.find? fun level => level.word == text.toLower

/-- The number in decimal digits, which a plus sign may precede. -/
def number? (text : List Char) : Option Nat :=
  let digits :=
    match text with
    | '+' :: rest => rest
    | _ => text
  if digits.isEmpty || !digits.all Char.isDigit then none
  else some (digits.foldl (fun number c => 10 * number + (c.toNat - '0'.toNat)) 0)

/-- The level that a text names, by its number or by its word. -/
def ofText? (text : String) : Option LogLevel :=
  match number? text.toList with
  | some number => all[number]?
  | none => ofWord? text

end LogLevel

/-! ## Directives -/

/-- The level for a target, or for all events without a directive of their
own. -/
structure LogDirective where
  target : Option String
  level : LogLevel
  deriving DecidableEq, Inhabited

namespace LogDirective

/-- The form in which directives are written. -/
def text (directive : LogDirective) : String :=
  match directive.target with
  | none => directive.level.word
  | some target => target ++ "=" ++ directive.level.word

/-- Whether a directive may start with a character. -/
def isStart (c : Char) : Bool :=
  c == '-' || c == ':' || c == '_' || Text.isLetterOrNumber c

/-- Read a directive: a level, or a target and its level with `=` between
them.  A target holds no opening bracket. -/
def ofChars? (text : List Char) : Option LogDirective := do
  let first ← text.head?
  if !isStart first then none
  else
    match text.span fun c => c != '=' with
    | (word, []) => do
        let level ← LogLevel.ofText? (String.ofList word)
        pure ⟨none, level⟩
    | (target, _ :: word) =>
        if target.contains '[' then none
        else do
          let level ← LogLevel.ofText? (String.ofList word)
          pure ⟨some (String.ofList target), level⟩

/-- Whether a target is consulted before another: longer targets come first,
and targets of one length in descending order. -/
def targetBefore : Option String → Option String → Bool
  | some first, some second =>
      if first.utf8ByteSize == second.utf8ByteSize then second < first
      else second.utf8ByteSize < first.utf8ByteSize
  | some _, none => true
  | none, _ => false

end LogDirective

/-! ## Filters -/

/-- Directives in the order in which they are consulted. -/
structure LogFilter where
  directives : List LogDirective
  deriving DecidableEq, Inhabited

namespace LogFilter

/-- Put a directive in its place, instead of one for the same target. -/
def place (directive : LogDirective) : List LogDirective → List LogDirective
  | [] => [directive]
  | first :: rest =>
      if directive.target == first.target then directive :: rest
      else if LogDirective.targetBefore directive.target first.target then
        directive :: first :: rest
      else first :: place directive rest

/-- Add a directive; it replaces an earlier one for the same target. -/
def add (filter : LogFilter) (directive : LogDirective) : LogFilter :=
  ⟨place directive filter.directives⟩

/-- The filter with one level for all events. -/
def always (level : LogLevel) : LogFilter :=
  ⟨[⟨none, level⟩]⟩

/-- The filter of a list of directives.  Without any, nothing is logged. -/
def ofDirectives (directives : List LogDirective) : LogFilter :=
  directives.foldl add ⟨[]⟩

/-- Read directives with commas between them.  Empty pieces are ignored, and a
piece that is no directive makes the text unreadable. -/
def ofText? (text : String) : Option LogFilter := do
  let pieces := (text.toList.splitOn ',').filter fun piece => !piece.isEmpty
  let directives ← pieces.mapM LogDirective.ofChars?
  pure (ofDirectives directives)

/-- The directives with commas between them. -/
def text (filter : LogFilter) : String :=
  ",".intercalate (filter.directives.map LogDirective.text)

end LogFilter

/-! ## The filter of the settings -/

namespace LogSettings

/-- The directives of the settings: a single level in its usual form, and any
other text without white space around it. -/
def directives (settings : LogSettings) : String :=
  let trimmed := Text.trim settings.level
  let lower := trimmed.toLower
  if trimmed.isEmpty then LogSettings.standard.level
  else if ["trace", "debug", "info", "warn", "error"].contains lower then lower
  else if lower == "warning" then "warn"
  else trimmed

/-- The filter of the settings alone.  Directives that cannot be read count as
level `info`. -/
def ownFilter (settings : LogSettings) : LogFilter :=
  (LogFilter.ofText? settings.directives).getD (.always .info)

/-- The filter of the settings together with the directives of the environment,
which come later and so win.  If they cannot be read together, those of the
environment are taken alone, and if they cannot be read either, they are
ignored. -/
def filter (settings : LogSettings) (environment : Option String) : LogFilter :=
  let extra := Text.trim (environment.getD "")
  if extra.isEmpty then settings.ownFilter
  else
    ((LogFilter.ofText? (settings.directives ++ "," ++ extra)).or
      (LogFilter.ofText? extra)).getD settings.ownFilter

end LogSettings

end JavaSymbols
