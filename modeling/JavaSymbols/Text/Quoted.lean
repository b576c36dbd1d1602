import JavaSymbols.Text.Printable

/-!
# Quoted text

Text shown inside a message stands between double quotes.  Quotes and
backslashes are escaped, the usual control characters have short escapes, and
every other character that does not stand for itself is given by its code
point.
-/

namespace JavaSymbols.Text

/-- The form of one character inside quotes. -/
def escapeChar (c : Char) : List Char :=
  if c = '"' then ['\\', '"']
  else if c = '\\' then ['\\', '\\']
  else if c = '\n' then ['\\', 'n']
  else if c = '\r' then ['\\', 'r']
  else if c = '\t' then ['\\', 't']
  else if c.toNat = 0 then ['\\', '0']
  else if isPrintable c then [c]
  else ['\\', 'u', '\x7b'] ++ Nat.toDigits 16 c.toNat ++ ['\x7d']

/-- A text in double quotes. -/
def quote (text : String) : String :=
  String.ofList ('"' :: text.toList.flatMap escapeChar ++ ['"'])

end JavaSymbols.Text
