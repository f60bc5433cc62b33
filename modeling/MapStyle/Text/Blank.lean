/-!
# White space and blank text

The characters with the Unicode property `White_Space`, the text between them, and the rule that
decides whether an optional text counts as present: it must hold something besides white space.
Text that counts is always used as it stands, never trimmed.
-/

namespace MapStyle

namespace Text

/-- The characters with the Unicode property `White_Space`. -/
def isWhiteSpace (c : Char) : Bool :=
  let n := c.toNat
  (0x09 ≤ n && n ≤ 0x0D) || n == 0x20 || n == 0x85 || n == 0xA0 || n == 0x1680 ||
    (0x2000 ≤ n && n ≤ 0x200A) || n == 0x2028 || n == 0x2029 || n == 0x202F || n == 0x205F ||
    n == 0x3000

/-- Drops the white space a text begins with. -/
def trimStart (s : List Char) : List Char := s.dropWhile isWhiteSpace

/-- Drops the white space a text ends with. -/
def trimEnd (s : List Char) : List Char := (s.reverse.dropWhile isWhiteSpace).reverse

/-- Drops white space at both ends. -/
def trim (s : List Char) : List Char := trimEnd (trimStart s)

/-- A text without any character but white space. -/
def isBlank (s : String) : Bool := s.toList.all isWhiteSpace

/-- The text, if it is set and not blank (`non_empty`, `optional_layer_name`). -/
def nonBlank? (s : Option String) : Option String := s.filter (!isBlank ·)

@[simp] theorem trimStart_nil : trimStart [] = [] := rfl

@[simp] theorem trim_nil : trim [] = [] := rfl

/-- Nothing is left of a text exactly where every character is dropped. -/
theorem dropWhile_eq_nil {p : Char → Bool} {s : List Char} : s.dropWhile p = [] ↔ s.all p := by
  induction s with
  | nil => simp
  | cons c rest ih => by_cases h : p c <;> simp [h, ih]

/-- Trimming leaves nothing exactly where all is white space. -/
theorem trim_eq_nil_iff (s : List Char) : trim s = [] ↔ s.all isWhiteSpace := by
  rw [trim, trimEnd, List.reverse_eq_nil_iff, dropWhile_eq_nil, List.all_reverse]
  constructor
  · intro h
    cases e : trimStart s with
    | nil => exact dropWhile_eq_nil.1 e
    | cons c rest =>
      have head := List.head?_dropWhile_not isWhiteSpace s
      have first : s.dropWhile isWhiteSpace = c :: rest := e
      simp [first] at head
      simp [e, head] at h
  · intro h
    rw [trimStart, dropWhile_eq_nil.2 h]
    rfl

theorem nonBlank?_none : nonBlank? none = none := rfl

theorem nonBlank?_some (s : String) : nonBlank? (some s) = if isBlank s then none else some s := by
  cases h : isBlank s <;> simp [nonBlank?, h]

end Text

end MapStyle
