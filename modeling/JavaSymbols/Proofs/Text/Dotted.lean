import Mathlib.Data.List.DropRight
import JavaSymbols.Proofs.DeclTree.Nesting

/-!
# Readers of dotted text

Package names, qualified names and class types are read from dotted text, the
first two as lists of segments and the last as a chain of scopes.  A segment is
tidy when it is not empty, has no dots and neither starts nor ends with white
space.

The readers keep the tidy segments of a text and nothing else.  So the text that
one of them prints is the same for all, and they read it back as they read the
first text.
-/

namespace JavaSymbols

/-! ## Trimmed text -/

namespace Text

/-- Text that neither starts nor ends with white space. -/
def Trimmed (text : List Char) : Prop :=
  (∀ c ∈ text.head?, isBlank c = false) ∧ ∀ c ∈ text.getLast?, isBlank c = false

/-- White space is looked for at the two ends alone. -/
theorem trimmed_iff (text : List Char) : Trimmed text ↔
    text.head?.all (fun c => !isBlank c) = true ∧
      text.getLast?.all (fun c => !isBlank c) = true := by
  simp [Trimmed, Option.all_eq_true]

instance (text : List Char) : Decidable (Trimmed text) :=
  decidable_of_iff _ (trimmed_iff text).symm

/-- What is left after leading white space has been dropped starts with none. -/
theorem isBlank_of_head?_dropWhile {text : List Char} {c : Char}
    (first : c ∈ (text.dropWhile isBlank).head?) : isBlank c = false := by
  have stops := List.head?_dropWhile_not isBlank text
  rw [Option.mem_def.mp first] at stops
  exact stops

/-- Trimming leaves no white space at either end. -/
theorem trimmed_trimChars (text : List Char) : Trimmed (trimChars text) := by
  constructor
  · intro c first
    have front : trimChars text <+: text.dropWhile isBlank := List.rdropWhile_prefix isBlank _
    obtain ⟨dropped, whole⟩ := front
    have start : c ∈ (text.dropWhile isBlank).head? := by
      rw [← whole, Option.mem_def, List.head?_append, Option.mem_def.mp first, Option.some_or]
    exact isBlank_of_head?_dropWhile start
  · intro c last
    rw [trimChars, List.getLast?_reverse] at last
    exact isBlank_of_head?_dropWhile last

/-- Trimming takes characters away and brings none in. -/
theorem mem_of_mem_trimChars {text : List Char} {c : Char} (member : c ∈ trimChars text) :
    c ∈ text := by
  have kept := (List.dropWhile_sublist isBlank).mem (List.mem_reverse.mp member)
  exact (List.dropWhile_sublist isBlank).mem (List.mem_reverse.mp kept)

theorem trim_of_trimmed {text : String} (trimmed : Trimmed text.toList) : trim text = text := by
  rw [trim, trimChars_eq_self trimmed.1 trimmed.2, String.ofList_toList]

end Text

/-! ## Segments that are read -/

namespace Dotted

/-- A segment that readers leave as it is. -/
def IsTidy (segment : String) : Prop :=
  IsSegment segment ∧ Text.Trimmed segment.toList

instance (segment : String) : Decidable (IsTidy segment) :=
  inferInstanceAs (Decidable (_ ∧ _))

/-- The pieces between separators have none. -/
theorem not_mem_of_mem_splitOn {α : Type} [DecidableEq α] {separator : α} {text : List α} :
    ∀ piece ∈ text.splitOn separator, separator ∉ piece := by
  induction text with
  | nil => simp
  | cons first rest ih =>
      rw [List.splitOn_cons_eq_if_modifyHead]
      cases pieces : rest.splitOn separator with
      | nil => exact absurd pieces (List.splitOn_ne_nil _ _)
      | cons head more =>
          rw [pieces] at ih
          by_cases same : first = separator
          · simpa [same] using ih
          · simpa [same, Ne.symm same] using ih

/-- The pieces of a text have no dots. -/
theorem not_dot_mem_of_mem_split {text piece : String} (member : piece ∈ split text) :
    '.' ∉ piece.toList := by
  obtain ⟨chars, isPiece, rfl⟩ := List.mem_map.mp member
  rw [String.toList_ofList]
  exact not_mem_of_mem_splitOn chars isPiece

/-- Reading trims the pieces of a text and drops those that are then empty. -/
theorem read_eq (text : String) :
    read text = ((split text).map Text.trim).filter fun segment => segment ≠ "" := by
  have trimmed : (split text).map Text.trim =
      ((text.toList.splitOn '.').map Text.trimChars).map String.ofList := by
    rw [split, List.map_map, List.map_map]
    apply List.map_congr_left
    intro chars _
    rw [Function.comp_apply, Text.trim, String.toList_ofList]
    rfl
  rw [trimmed, List.filter_map, read]
  congr 2
  funext chars
  cases chars with
  | nil => rfl
  | cons first rest => simp

/-- Only tidy segments are read. -/
theorem isTidy_of_mem_read {text segment : String} (member : segment ∈ read text) :
    IsTidy segment := by
  rw [read_eq, List.mem_filter, decide_eq_true_eq] at member
  rcases member with ⟨listed, nonempty⟩
  obtain ⟨piece, isPiece, rfl⟩ := List.mem_map.mp listed
  refine ⟨⟨nonempty, ?_⟩, ?_⟩
  · intro dot
    rw [Text.trim, String.toList_ofList] at dot
    exact not_dot_mem_of_mem_split isPiece (Text.mem_of_mem_trimChars dot)
  · rw [Text.trim, String.toList_ofList]
    exact Text.trimmed_trimChars _

/-- Dots, white space around segments and segments of nothing else do not matter:
pieces joined by dots are read as the tidy segments in them. -/
theorem read_join {pieces : List String} (dotFree : ∀ piece ∈ pieces, '.' ∉ piece.toList) :
    read (join pieces) = (pieces.map Text.trim).filter fun segment => segment ≠ "" := by
  by_cases none : pieces = []
  · subst none
    rfl
  · rw [read_eq, split_join none dotFree]

/-- Tidy segments joined by dots are read back. -/
theorem read_join_of_isTidy {segments : List String}
    (tidy : ∀ segment ∈ segments, IsTidy segment) : read (join segments) = segments := by
  have trimmed : segments.map Text.trim = segments := by
    calc
      segments.map Text.trim = segments.map id :=
        List.map_congr_left fun segment listed => Text.trim_of_trimmed (tidy segment listed).2
      _ = segments := List.map_id _
  rw [read_join fun segment listed => (tidy segment listed).1.2, trimmed, List.filter_eq_self]
  intro segment listed
  exact decide_eq_true (tidy segment listed).1.1

/-- What is read from a text is read again from its printed form. -/
@[simp]
theorem read_join_read (text : String) : read (join (read text)) = read text :=
  read_join_of_isTidy fun _ => isTidy_of_mem_read

end Dotted

/-! ## Class types as chains of scopes -/

namespace ClassExpr

/-- The names along the scope chain, outermost first, with the type arguments
that each has. -/
def links : ClassExpr → List (String × Option (List TypeExpr))
  | simple name args => [(name, args)]
  | within scope name args => scope.links ++ [(name, args)]

theorem links_extendBy (type : ClassExpr) (names : List String) :
    (type.extendBy names).links = type.links ++ names.map fun name => (name, none) := by
  induction names generalizing type with
  | nil => simp [extendBy]
  | cons name rest ih => simp [extendBy, ih, links]

theorem dotted_extendBy (type : ClassExpr) (names : List String) :
    (type.extendBy names).dotted = Dotted.join (type.dotted :: names) := by
  induction names generalizing type with
  | nil => rw [extendBy, Dotted.join_singleton]
  | cons name rest ih =>
      rw [extendBy, ih, dotted]
      cases rest with
      | nil => rw [Dotted.join_singleton, Dotted.join_cons_cons, Dotted.join_singleton]
      | cons second more =>
          rw [Dotted.join_cons_cons, Dotted.join_cons_cons, Dotted.join_cons_cons]
          simp only [String.append_assoc]

/-- A class type is printed as the segments it was read from. -/
theorem dotted_ofDotted (text : String) :
    (ofDotted text).dotted = Dotted.join (Dotted.read text) := by
  rw [ofDotted]
  cases Dotted.read text with
  | nil => rfl
  | cons first rest => rw [dotted_extendBy, dotted]

/-- A class type is read as the chain of the segments, none with type
arguments. -/
theorem links_ofDotted {text : String} (nonempty : Dotted.read text ≠ []) :
    (ofDotted text).links = (Dotted.read text).map fun name => (name, none) := by
  rw [ofDotted]
  cases segments : Dotted.read text with
  | nil => exact absurd segments nonempty
  | cons first rest =>
      rw [links_extendBy]
      rfl

/-- Texts with the same segments are read as the same class type. -/
theorem ofDotted_congr {text other : String} (same : Dotted.read text = Dotted.read other) :
    ofDotted text = ofDotted other := by
  rw [ofDotted, ofDotted, same]

end ClassExpr

/-! ## The readers together -/

/-- The readers of package names, qualified names and class types agree and undo
the printer.  Whatever the text, they print the same, read what is printed as they
read the text, and keep tidy segments alone; and tidy segments joined by dots are
read as just these segments, by the last of them as a chain of scopes without type
arguments. -/
theorem dotted_readers_agree :
    (∀ text : String,
      (PackageName.ofDotted text).dotted = (ClassExpr.ofDotted text).dotted ∧
      (QualifiedName.ofDotted text).dotted = (ClassExpr.ofDotted text).dotted ∧
      PackageName.ofDotted (ClassExpr.ofDotted text).dotted = PackageName.ofDotted text ∧
      QualifiedName.ofDotted (ClassExpr.ofDotted text).dotted = QualifiedName.ofDotted text ∧
      ClassExpr.ofDotted (ClassExpr.ofDotted text).dotted = ClassExpr.ofDotted text ∧
      (∀ segment ∈ (PackageName.ofDotted text).segments, Dotted.IsTidy segment) ∧
      ∀ segment ∈ (QualifiedName.ofDotted text).segments, Dotted.IsTidy segment) ∧
    ∀ segments : List String, segments ≠ [] → (∀ segment ∈ segments, Dotted.IsTidy segment) →
      (PackageName.ofDotted (Dotted.join segments)).segments = segments ∧
      (QualifiedName.ofDotted (Dotted.join segments)).segments = segments ∧
      (ClassExpr.ofDotted (Dotted.join segments)).links =
        segments.map fun name => (name, none) := by
  constructor
  · intro text
    have printed := ClassExpr.dotted_ofDotted text
    have again : Dotted.read (ClassExpr.ofDotted text).dotted = Dotted.read text := by
      rw [printed, Dotted.read_join_read]
    refine ⟨printed.symm, printed.symm, congrArg PackageName.mk again,
      congrArg QualifiedName.mk again, ClassExpr.ofDotted_congr again, ?_, ?_⟩
    · exact fun segment => Dotted.isTidy_of_mem_read
    · exact fun segment => Dotted.isTidy_of_mem_read
  · intro segments nonempty tidy
    have back : Dotted.read (Dotted.join segments) = segments := Dotted.read_join_of_isTidy tidy
    refine ⟨back, back, ?_⟩
    rw [ClassExpr.links_ofDotted (back.symm ▸ nonempty), back]

/-- Three segments, two of them with white space inside, and a text in which they
stand among dots and wider white space. -/
theorem dotted_readers_of_untidy :
    (PackageName.ofDotted "\u3000. a b ..\u00a0Map\n. c\td ").dotted = "a b.Map.c\td" ∧
    ClassExpr.ofDotted "a b.Map.c\td" = ClassExpr.ofDotted "\u3000. a b ..\u00a0Map\n. c\td " ∧
    (∀ segment ∈ ["a b", "Map", "c\td"], Dotted.IsTidy segment) ∧
    (ClassExpr.ofDotted (Dotted.join ["a b", "Map", "c\td"])).links =
      [("a b", none), ("Map", none), ("c\td", none)] := by
  have printed : (PackageName.ofDotted "\u3000. a b ..\u00a0Map\n. c\td ").dotted =
      "a b.Map.c\td" := by decide +kernel
  have tidy : ∀ segment ∈ ["a b", "Map", "c\td"], Dotted.IsTidy segment := by decide +kernel
  have agree := dotted_readers_agree.1 "\u3000. a b ..\u00a0Map\n. c\td "
  have again := agree.2.2.2.2.1
  rw [← agree.1, printed] at again
  exact ⟨printed, again, tidy, (dotted_readers_agree.2 _ (List.cons_ne_nil _ _) tidy).2.2⟩

end JavaSymbols
