import MapStyle.Xml.Escape

/-!
# Comment bodies

A comment must not hold two hyphens in a row. A pass over the text puts a space into each pair of
hyphens that it meets and goes on behind the pair, so a run of three still holds a pair afterwards;
passes are repeated until none is left. Each pass lowers the number of adjacent hyphens.
-/

namespace MapStyle.Xml

/-- The places where one hyphen follows another. -/
def adjacentHyphens : List Char → Nat
  | '-' :: '-' :: rest => adjacentHyphens ('-' :: rest) + 1
  | _ :: rest => adjacentHyphens rest
  | [] => 0

/-- One pass: every pair of hyphens, taken from the left, becomes hyphen, space, hyphen. -/
def spaceHyphenPairs : List Char → List Char
  | '-' :: '-' :: rest => '-' :: ' ' :: '-' :: spaceHyphenPairs rest
  | c :: rest => c :: spaceHyphenPairs rest
  | [] => []

theorem adjacentHyphens_cons (c : Char) (s : List Char) :
    adjacentHyphens (c :: s) =
      adjacentHyphens s + if c = '-' ∧ s.head? = some '-' then 1 else 0 := by
  cases s with
  | nil => by_cases h : c = '-' <;> simp [adjacentHyphens, h]
  | cons d rest =>
    by_cases hc : c = '-'
    · by_cases hd : d = '-'
      · subst hc hd; simp [adjacentHyphens]
      · subst hc; simp [adjacentHyphens, hd]
    · simp [adjacentHyphens, hc]

theorem head?_spaceHyphenPairs (s : List Char) : (spaceHyphenPairs s).head? = s.head? := by
  fun_cases spaceHyphenPairs s <;> simp

/-- A pass never adds adjacent hyphens, and takes one away where there is any. -/
theorem adjacentHyphens_spaceHyphenPairs (s : List Char) :
    adjacentHyphens (spaceHyphenPairs s) ≤ adjacentHyphens s ∧
      (adjacentHyphens s ≠ 0 → adjacentHyphens (spaceHyphenPairs s) < adjacentHyphens s) := by
  fun_induction spaceHyphenPairs s with
  | case1 rest ih =>
    have step : adjacentHyphens ('-' :: spaceHyphenPairs rest) ≤ adjacentHyphens ('-' :: rest) := by
      rw [adjacentHyphens_cons, adjacentHyphens_cons, head?_spaceHyphenPairs]
      omega
    have two : adjacentHyphens ('-' :: '-' :: rest) = adjacentHyphens ('-' :: rest) + 1 := rfl
    rw [adjacentHyphens_cons, adjacentHyphens_cons ' ']
    simp only [List.head?_cons, Option.some.injEq, Char.reduceEq, and_false, ↓reduceIte,
      false_and]
    omega
  | case2 c rest alone ih =>
    have single : ¬ (c = '-' ∧ rest.head? = some '-') := by
      rintro ⟨hc, hd⟩
      obtain ⟨tail, rfl⟩ := List.head?_eq_some_iff.1 hd
      exact alone tail hc rfl
    rw [adjacentHyphens_cons, adjacentHyphens_cons, head?_spaceHyphenPairs, if_neg single]
    omega
  | case3 => simp [adjacentHyphens]

/-- The text with its hyphens kept apart. -/
def separateHyphens (s : List Char) : List Char :=
  if adjacentHyphens s = 0 then s else separateHyphens (spaceHyphenPairs s)
termination_by adjacentHyphens s
decreasing_by exact (adjacentHyphens_spaceHyphenPairs s).2 ‹_›

/-- What a comment holds between its delimiters (`SldBuilder::comment`). -/
def commentBody (s : List Char) : List Char := separateHyphens (escape s)

end MapStyle.Xml
