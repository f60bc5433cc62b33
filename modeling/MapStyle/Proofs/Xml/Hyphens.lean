import MapStyle.Proofs.Xml.Entities
import MapStyle.Xml.Comment

/-!
# Hyphens kept apart

The passes over a comment's text come to putting one space between any two hyphens that stand side
by side, whichever way the passes pair them up. Nothing else changes, no two hyphens are left side by
side, and it makes no difference whether the text is escaped before or after.
-/

namespace MapStyle.Xml

/-- Puts a space between every two adjacent hyphens. -/
def spaced : List Char → List Char
  | '-' :: '-' :: rest => '-' :: ' ' :: spaced ('-' :: rest)
  | c :: rest => c :: spaced rest
  | [] => []

/-- What goes between a character and the text behind it. -/
def hyphenGap (c : Char) (s : List Char) : List Char :=
  if c = '-' ∧ s.head? = some '-' then [' '] else []

@[simp] theorem spaced_nil : spaced [] = [] := rfl

theorem spaced_cons (c : Char) (s : List Char) :
    spaced (c :: s) = c :: (hyphenGap c s ++ spaced s) := by
  cases s with
  | nil => by_cases hc : c = '-' <;> simp [spaced, hyphenGap, hc]
  | cons d rest =>
    by_cases hc : c = '-'
    · by_cases hd : d = '-'
      · subst hc hd
        simp [spaced, hyphenGap]
      · subst hc
        simp [spaced, hyphenGap, hd]
    · simp [spaced, hyphenGap, hc]

theorem head?_spaced (s : List Char) : (spaced s).head? = s.head? := by
  cases s with
  | nil => rfl
  | cons c rest => rw [spaced_cons]; rfl

theorem hyphenGap_congr {c : Char} {s t : List Char} (h : s.head? = t.head?) :
    hyphenGap c s = hyphenGap c t := by
  rw [hyphenGap, hyphenGap, h]

/-- A pass leaves it to `spaced` to space the same places. -/
theorem spaced_spaceHyphenPairs (s : List Char) : spaced (spaceHyphenPairs s) = spaced s := by
  fun_induction spaceHyphenPairs s with
  | case1 rest ih =>
    have same : hyphenGap '-' (spaceHyphenPairs rest) = hyphenGap '-' rest :=
      hyphenGap_congr (head?_spaceHyphenPairs rest)
    have pair : spaced ('-' :: '-' :: rest) = '-' :: ' ' :: spaced ('-' :: rest) := rfl
    rw [pair, spaced_cons, spaced_cons, spaced_cons, ih, same, spaced_cons '-' rest]
    rfl
  | case2 c rest alone ih =>
    rw [spaced_cons, spaced_cons, ih, hyphenGap_congr (head?_spaceHyphenPairs rest)]
  | case3 => rfl

theorem spaced_eq_self {s : List Char} (h : adjacentHyphens s = 0) : spaced s = s := by
  induction s with
  | nil => rfl
  | cons c rest ih =>
    rw [adjacentHyphens_cons] at h
    have apart : ¬ (c = '-' ∧ rest.head? = some '-') := by
      intro both
      rw [if_pos both] at h
      omega
    rw [spaced_cons, hyphenGap, if_neg apart, ih (by omega)]
    rfl

/-- Repeated passes and the one walk over the text agree. -/
theorem separateHyphens_eq_spaced (s : List Char) : separateHyphens s = spaced s := by
  fun_induction separateHyphens s with
  | case1 s none => exact (spaced_eq_self none).symm
  | case2 s some ih => rw [ih, spaced_spaceHyphenPairs]

theorem adjacentHyphens_spaced (s : List Char) : adjacentHyphens (spaced s) = 0 := by
  induction s with
  | nil => rfl
  | cons c rest ih =>
    rw [spaced_cons, adjacentHyphens_cons, hyphenGap]
    by_cases h : c = '-' ∧ rest.head? = some '-'
    · rw [if_pos h, List.singleton_append, adjacentHyphens_cons]
      simp [ih]
    · rw [if_neg h, List.nil_append, head?_spaced, if_neg h, ih]

/-- Spacing a text twice does no more than spacing it once. -/
theorem spaced_spaced (s : List Char) : spaced (spaced s) = spaced s :=
  spaced_eq_self (adjacentHyphens_spaced s)

/-- A text that does not end in a hyphen keeps away from the text behind it. -/
theorem spaced_append {s : List Char} (t : List Char) (apart : s.getLast? ≠ some '-') :
    spaced (s ++ t) = spaced s ++ spaced t := by
  induction s with
  | nil => rfl
  | cons c rest ih =>
    cases rest with
    | nil =>
      have plain : c ≠ '-' := by simpa using apart
      simp [spaced_cons, hyphenGap, plain]
    | cons d rest =>
      rw [List.getLast?_cons_cons] at apart
      have gap : hyphenGap c (d :: rest ++ t) = hyphenGap c (d :: rest) := hyphenGap_congr rfl
      rw [List.cons_append, spaced_cons, gap, ih apart, spaced_cons c (d :: rest), List.cons_append,
        List.append_assoc]

theorem spaced_toList_append {before : String} (text : String)
    (plain : adjacentHyphens before.toList = 0) (apart : before.toList.getLast? ≠ some '-') :
    spaced (before ++ text).toList = before.toList ++ spaced text.toList := by
  rw [String.toList_append, spaced_append _ apart, spaced_eq_self plain]

/-! ## Spacing and escaping -/

/-- Escaped text begins with a character that is not reserved exactly if the text does. -/
theorem head?_entity {c d : Char} (plain : isReserved d = false) (s : List Char) :
    (entity c ++ s).head? = some d ↔ c = d := by
  cases h : isReserved c with
  | true =>
    have mark : '&' ≠ d := by
      rintro rfl
      exact absurd plain (by decide)
    have other : c ≠ d := by
      rintro rfl
      exact absurd (h.symm.trans plain) (by decide)
    rcases reserved_cases h with rfl | rfl | rfl | rfl | rfl <;> simp [entity, mark, other]
  | false => simp [entity_of_not_reserved h]

theorem head?_escape {d : Char} (plain : isReserved d = false) (s : List Char) :
    (escape s).head? = some d ↔ s.head? = some d := by
  cases s with
  | nil => simp
  | cons c rest => rw [escape_cons, head?_entity plain]; simp

/-- An entity brings no hyphen with it. -/
theorem spaced_entity_append (c : Char) (s : List Char) :
    spaced (entity c ++ s) = entity c ++ (hyphenGap c s ++ spaced s) := by
  cases h : isReserved c with
  | true =>
    rcases reserved_cases h with rfl | rfl | rfl | rfl | rfl <;>
      simp [entity, spaced_cons, hyphenGap]
  | false => rw [entity_of_not_reserved h, List.singleton_append, spaced_cons]; rfl

theorem spaced_escape (s : List Char) : spaced (escape s) = escape (spaced s) := by
  induction s with
  | nil => rfl
  | cons c rest ih =>
    have gap : hyphenGap c (escape rest) = escape (hyphenGap c rest) := by
      have hyphen : isReserved '-' = false := by decide
      simp only [hyphenGap, head?_escape hyphen]
      split <;> rfl
    rw [escape_cons, spaced_entity_append, spaced_cons, escape_cons, escape_append, ih, gap]

/-- The body of a comment is its text, spaced once and escaped. -/
theorem commentBody_eq (s : List Char) : commentBody s = escape (spaced s) := by
  rw [commentBody, separateHyphens_eq_spaced, spaced_escape]

theorem commentBody_spaced (s : List Char) : commentBody (spaced s) = commentBody s := by
  rw [commentBody_eq, commentBody_eq, spaced_spaced]

/-- Two comments look the same exactly if their texts do once they are spaced. -/
theorem commentBody_inj {s t : List Char} : commentBody s = commentBody t ↔ spaced s = spaced t := by
  rw [commentBody_eq, commentBody_eq]
  exact ⟨escape_injective, congrArg escape⟩

theorem adjacentHyphens_commentBody (s : List Char) : adjacentHyphens (commentBody s) = 0 := by
  rw [commentBody, separateHyphens_eq_spaced]
  exact adjacentHyphens_spaced _

end MapStyle.Xml
