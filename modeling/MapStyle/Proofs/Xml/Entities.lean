import MapStyle.Xml.Escape

/-!
# Escaping one character at a time

The passes of `escape` come to one replacement for each character, because no pass finds anything in
what an earlier one brought in. `entity?` reads an entity back, and `character?` a character of
escaped text.
-/

namespace MapStyle.Xml

/-- What a single character becomes in escaped text. -/
def entity (c : Char) : List Char :=
  if c = '&' then ['&', 'a', 'm', 'p', ';']
  else if c = '<' then ['&', 'l', 't', ';']
  else if c = '>' then ['&', 'g', 't', ';']
  else if c = '\x22' then ['&', 'q', 'u', 'o', 't', ';']
  else if c = '\x27' then ['&', '#', '3', '9', ';']
  else [c]

/-- The characters that do not stand for themselves. -/
def isReserved (c : Char) : Bool :=
  c == '&' || c == '<' || c == '>' || c == '\x22' || c == '\x27'

theorem entity_of_not_reserved {c : Char} (h : isReserved c = false) : entity c = [c] := by
  simp only [isReserved, Bool.or_eq_false_iff, beq_eq_false_iff_ne, ne_eq] at h
  simp [entity, h]

/-- A character is reserved exactly if it is one of the five. -/
theorem reserved_cases {c : Char} (h : isReserved c = true) :
    c = '&' ∨ c = '<' ∨ c = '>' ∨ c = '\x22' ∨ c = '\x27' := by
  simpa [isReserved, or_assoc] using h

theorem escape_singleton (c : Char) : escape [c] = entity c := by
  cases h : isReserved c with
  | true => rcases reserved_cases h with rfl | rfl | rfl | rfl | rfl <;> decide
  | false =>
    rw [entity_of_not_reserved h]
    simp only [isReserved, Bool.or_eq_false_iff, beq_eq_false_iff_ne, ne_eq] at h
    simp [escape, replaceChar, h]

/-- The passes together replace every character once, whatever stands beside it. -/
theorem escape_cons (c : Char) (s : List Char) : escape (c :: s) = entity c ++ escape s := by
  rw [← escape_singleton, ← escape_append]
  rfl

theorem escape_eq_flatMap (s : List Char) : escape s = s.flatMap entity := by
  induction s with
  | nil => rfl
  | cons c rest ih => rw [escape_cons, ih, List.flatMap_cons]

/-- What stands behind an ampersand, up to the semicolon, and the character it means. -/
def entity? : List Char → Option (Char × List Char)
  | 'a' :: 'm' :: 'p' :: ';' :: rest => some ('&', rest)
  | 'l' :: 't' :: ';' :: rest => some ('<', rest)
  | 'g' :: 't' :: ';' :: rest => some ('>', rest)
  | 'q' :: 'u' :: 'o' :: 't' :: ';' :: rest => some ('\x22', rest)
  | '#' :: '3' :: '9' :: ';' :: rest => some ('\x27', rest)
  | _ => none

/-- A character of text. An ampersand must begin an entity; angle brackets must not stand bare, so
    that neither a tag nor the end of a marked section can begin inside text. -/
def character? : List Char → Option (Char × List Char)
  | [] => none
  | c :: rest =>
    if c = '&' then entity? rest
    else if c = '<' ∨ c = '>' then none
    else some (c, rest)

theorem entity?_length {s rest : List Char} {c : Char} (h : entity? s = some (c, rest)) :
    rest.length < s.length := by
  unfold entity? at h
  split at h <;> simp_all <;> omega

theorem character?_length {s rest : List Char} {c : Char} (h : character? s = some (c, rest)) :
    rest.length < s.length := by
  cases s with
  | nil => simp [character?] at h
  | cons d tail =>
    simp only [character?] at h
    split at h
    · have shorter := entity?_length h
      simp only [List.length_cons]
      omega
    · split at h
      · simp at h
      · obtain ⟨-, rfl⟩ : d = c ∧ tail = rest := by simpa using h
        simp

/-- A character is read back from what it becomes, and nothing behind it is touched. -/
theorem character?_entity (c : Char) (rest : List Char) :
    character? (entity c ++ rest) = some (c, rest) := by
  cases h : isReserved c with
  | true => rcases reserved_cases h with rfl | rfl | rfl | rfl | rfl <;> rfl
  | false =>
    rw [entity_of_not_reserved h]
    simp only [isReserved, Bool.or_eq_false_iff, beq_eq_false_iff_ne, ne_eq] at h
    simp [character?, h]

theorem entity_ne_nil (c : Char) : entity c ≠ [] := by
  intro h
  have read := character?_entity c []
  simp [h, character?] at read

/-- Different texts stay different when they are escaped. -/
theorem escape_injective {s t : List Char} (h : escape s = escape t) : s = t := by
  induction s generalizing t with
  | nil =>
    cases t with
    | nil => rfl
    | cons d rest =>
      rw [escape_cons] at h
      exact absurd (List.append_eq_nil_iff.1 h.symm).1 (entity_ne_nil d)
  | cons c s ih =>
    cases t with
    | nil =>
      rw [escape_cons] at h
      exact absurd (List.append_eq_nil_iff.1 h).1 (entity_ne_nil c)
    | cons d t =>
      have first : character? (entity c ++ escape s) = character? (entity d ++ escape t) := by
        rw [← escape_cons, ← escape_cons, h]
      rw [character?_entity, character?_entity] at first
      obtain ⟨rfl, rest⟩ : c = d ∧ escape s = escape t := by simpa using first
      rw [ih rest]

end MapStyle.Xml
