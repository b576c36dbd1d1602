import JavaSymbols.Text.Blank

/-!
# Dotted text

Qualified names, package names and member paths are all written as segments
separated by dots.  `split` and `join` convert between the two forms without
loss: `join` after `split` is the identity, and `split` after `join` is the
identity on non-empty lists of dot-free segments.  `read` is the lenient reader
used for source text: it trims every segment and drops the empty ones.
-/

namespace JavaSymbols.Dotted

/-- The pieces of a text between its dots.  There is always at least one, and
pieces may be empty. -/
def split (text : String) : List String :=
  (text.toList.splitOn '.').map String.ofList

/-- Segments joined by single dots. -/
def join (segments : List String) : String :=
  String.ofList (['.'].intercalate (segments.map String.toList))

/-- Read dotted source text: segments are trimmed, and empty ones dropped. -/
def read (text : String) : List String :=
  (((text.toList.splitOn '.').map Text.trimChars).filter fun segment => !segment.isEmpty).map
    String.ofList

/-- The part of a dotted text after its last dot; all of it when it has no dot. -/
def lastSegment (text : String) : String :=
  (split text).getLast?.getD text

@[simp]
theorem join_nil : join [] = "" :=
  rfl

@[simp]
theorem join_singleton (segment : String) : join [segment] = segment := by
  simp [join, List.intercalate]

/-- A segment that precedes others is followed by a dot. -/
theorem join_cons_cons (first second : String) (rest : List String) :
    join (first :: second :: rest) = first ++ "." ++ join (second :: rest) := by
  apply String.toList_inj.mp
  simp [join, List.intercalate]

/-- The pieces of a text make up the text. -/
@[simp]
theorem join_split (text : String) : join (split text) = text := by
  have pieces : (split text).map String.toList = text.toList.splitOn '.' := by
    rw [split, List.map_map]
    exact (List.map_congr_left fun piece _ => String.toList_ofList).trans (List.map_id _)
  rw [join, pieces, List.intercalate_splitOn, String.ofList_toList]

theorem split_ne_nil (text : String) : split text ≠ [] := by
  simp [split, List.splitOn_ne_nil]

/-- A text without dots is its only piece. -/
theorem split_of_dotFree {text : String} (dotFree : '.' ∉ text.toList) : split text = [text] := by
  rw [split, List.splitOn_eq_singleton dotFree, List.map_singleton, String.ofList_toList]

end JavaSymbols.Dotted
