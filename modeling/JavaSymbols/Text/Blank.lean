/-!
# White space and trimming

The readers of dotted names and of log levels ignore white space at both ends
of a piece of text.  White space is the Unicode property `White_Space`, which
is wider than the ASCII class that `Char.isWhitespace` tests: it also holds
the vertical tab, the no-break spaces and the ideographic space.
-/

namespace JavaSymbols.Text

/-- The code points with the Unicode property `White_Space`, as inclusive
ranges in ascending order. -/
def blankRanges : List (Nat × Nat) :=
  [(0x09, 0x0D), (0x20, 0x20), (0x85, 0x85), (0xA0, 0xA0), (0x1680, 0x1680),
    (0x2000, 0x200A), (0x2028, 0x2029), (0x202F, 0x202F), (0x205F, 0x205F),
    (0x3000, 0x3000)]

/-- Whether a character is white space. -/
def isBlank (c : Char) : Bool :=
  blankRanges.any fun range => range.1 ≤ c.toNat && c.toNat ≤ range.2

/-- The ASCII characters that core counts as white space are white space. -/
theorem isBlank_of_isWhitespace {c : Char} (white : c.isWhitespace = true) : isBlank c = true := by
  simp only [Char.isWhitespace, Bool.or_eq_true, decide_eq_true_eq] at white
  rcases white with ((rfl | rfl) | rfl) | rfl <;> rfl

/-- Remove white space from both ends. -/
def trimChars (text : List Char) : List Char :=
  ((text.dropWhile isBlank).reverse.dropWhile isBlank).reverse

/-- Remove white space from both ends of a string. -/
def trim (text : String) : String :=
  String.ofList (trimChars text.toList)

/-- Nothing but blanks trims to nothing, and an empty text stays empty. -/
@[simp]
theorem trimChars_nil : trimChars [] = [] :=
  rfl

/-- Text that neither starts nor ends with a blank is left alone. -/
theorem trimChars_eq_self {text : List Char}
    (first : ∀ c ∈ text.head?, isBlank c = false)
    (last : ∀ c ∈ text.getLast?, isBlank c = false) :
    trimChars text = text := by
  have front : text.dropWhile isBlank = text := by
    cases text with
    | nil => rfl
    | cons c rest => simp [first c (by simp)]
  have back : text.reverse.dropWhile isBlank = text.reverse := by
    cases h : text.reverse with
    | nil => rfl
    | cons c rest =>
        have ends : text.getLast? = some c := by
          rw [← List.head?_reverse, h, List.head?_cons]
        simp [last c (by simp [ends])]
  rw [trimChars, front, back, List.reverse_reverse]

end JavaSymbols.Text
