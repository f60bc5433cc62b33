import MapStyle.Proofs.Text.Cuts

/-!
# Parts of a text with white space around them

White space around a trimmed text is trimmed away again. Where a solid text, which has no white space
in it, a word between blanks and a third part follow each other with white space around them, another
such word can stand in two places only: where the word stands, and then it is the same one, or behind
the last blank before the third part. Main statement: `place_cases`.
-/

namespace MapStyle.Text

/-- Whether a text holds something, and no white space. -/
def isSolid (s : List Char) : Bool := !s.isEmpty && s.all (!isWhiteSpace ·)

/-- A text between two blanks. -/
def betweenBlanks (s : List Char) : List Char := ' ' :: (s ++ [' '])

theorem isSolid_iff {s : List Char} :
    isSolid s = true ↔ s ≠ [] ∧ ∀ c ∈ s, isWhiteSpace c = false := by
  simp [isSolid]

theorem isTrimmed_of_isSolid {s : List Char} (solid : isSolid s = true) : isTrimmed s = true := by
  obtain ⟨filled, dark⟩ := isSolid_iff.1 solid
  obtain ⟨c, rest, rfl⟩ := List.exists_cons_of_ne_nil filled
  obtain ⟨d, last⟩ := Option.isSome_iff_exists.1 (List.getLast?_isSome.2 filled)
  rw [isTrimmed, last]
  simp [dark c List.mem_cons_self, dark d (List.mem_of_getLast? last)]

/-! ## White space around a text -/

/-- A text with trimmed texts at its ends is trimmed. -/
theorem isTrimmed_append {s t : List Char} (inner : List Char) (first : isTrimmed s = true)
    (last : isTrimmed t = true) : isTrimmed (s ++ inner ++ t) = true := by
  have begun := (Bool.and_eq_true_iff.1 first).1
  have ended := (Bool.and_eq_true_iff.1 last).2
  cases s with
  | nil => simp at begun
  | cons c s =>
    rcases List.eq_nil_or_concat t with rfl | ⟨front, d, rfl⟩
    · simp at ended
    · rw [List.concat_eq_append] at ended ⊢
      rw [isTrimmed, ← List.append_assoc, List.getLast?_concat]
      simpa using And.intro begun ended

theorem dropWhile_padded {w s : List Char} (blank : w.all isWhiteSpace = true)
    (begun : s.head?.any (!isWhiteSpace ·) = true) : (w ++ s).dropWhile isWhiteSpace = s := by
  rw [List.dropWhile_append_of_pos (List.all_eq_true.1 blank)]
  cases s with
  | nil => rfl
  | cons c rest =>
    have dark : isWhiteSpace c = false := by simpa using begun
    rw [List.dropWhile_cons_of_neg (by simp [dark])]

/-- Trimming takes off what was put around a trimmed text. -/
theorem trim_padded {w s w' : List Char} (blank : w.all isWhiteSpace = true)
    (blank' : w'.all isWhiteSpace = true) (trimmed : isTrimmed s = true) :
    trim (w ++ s ++ w') = s := by
  obtain ⟨begun, ended⟩ := Bool.and_eq_true_iff.1 trimmed
  have start : trimStart (w ++ s ++ w') = s ++ w' := by
    rw [trimStart, List.append_assoc]
    apply dropWhile_padded blank
    cases s with
    | nil => simp at begun
    | cons c rest => exact begun
  have stop : (w'.reverse ++ s.reverse).dropWhile isWhiteSpace = s.reverse := by
    apply dropWhile_padded
    · rwa [List.all_reverse]
    · rwa [List.head?_reverse]
  rw [trim, start, trimEnd, List.reverse_append, stop, List.reverse_reverse]

theorem trim_append_blank {s w : List Char} (blank : w.all isWhiteSpace = true)
    (trimmed : isTrimmed s = true) : trim (s ++ w) = s := by
  have padded := trim_padded List.all_nil blank trimmed
  rwa [List.nil_append] at padded

theorem trim_blank_append {w s : List Char} (blank : w.all isWhiteSpace = true)
    (trimmed : isTrimmed s = true) : trim (w ++ s) = s := by
  have padded := trim_padded blank List.all_nil trimmed
  rwa [List.append_nil] at padded

/-! ## Places of a word -/

/-- A blank stands behind a text that has no white space. -/
theorem append_eq_of_dark {d s left right : List Char} (dark : ∀ c ∈ d, isWhiteSpace c = false)
    (whole : d ++ s = left ++ ' ' :: right) :
    ∃ inner, left = d ++ inner ∧ s = inner ++ ' ' :: right := by
  rcases List.append_eq_append_iff.1 whole with ⟨inner, rfl, rest⟩ | ⟨inner, rfl, rest⟩
  · exact ⟨inner, rfl, rest⟩
  · cases inner with
    | nil => exact ⟨[], by simp, rest.symm⟩
    | cons c inner =>
      obtain ⟨rfl, -⟩ := List.cons.inj rest
      exact absurd (dark ' ' (by simp)) (by decide)

/-- A blank with a solid text behind it stands behind white space, or is the last of it. -/
theorem append_eq_of_blank {w s left x right : List Char} (blank : w.all isWhiteSpace = true)
    (solid : isSolid x = true) (whole : w ++ s = left ++ ' ' :: (x ++ right)) :
    (∃ inner, left = w ++ inner ∧ s = inner ++ ' ' :: (x ++ right)) ∨
      w = left ++ [' '] ∧ s = x ++ right := by
  rcases List.append_eq_append_iff.1 whole with ⟨inner, rfl, rest⟩ | ⟨inner, rfl, rest⟩
  · exact .inl ⟨inner, rfl, rest⟩
  · rcases inner with - | ⟨c, - | ⟨d, inner⟩⟩
    · exact .inl ⟨[], by simp, rest.symm⟩
    · obtain ⟨rfl, behind⟩ := List.cons.inj rest
      exact .inr ⟨rfl, behind.symm⟩
    · obtain ⟨-, behind⟩ := List.cons.inj rest
      obtain ⟨filled, dark⟩ := isSolid_iff.1 solid
      obtain ⟨e, x, rfl⟩ := List.exists_cons_of_ne_nil filled
      obtain ⟨rfl, -⟩ := List.cons.inj behind
      have white : isWhiteSpace e = true := List.all_eq_true.1 blank e (by simp)
      rw [dark e List.mem_cons_self] at white
      cases white

/-- Texts without white space that end at a blank are the same. -/
theorem eq_of_dark {x m right behind : List Char} (dark : ∀ c ∈ x, isWhiteSpace c = false)
    (dark' : ∀ c ∈ m, isWhiteSpace c = false)
    (whole : m ++ ' ' :: behind = x ++ ' ' :: right) : x = m ∧ right = behind := by
  obtain ⟨inner, rfl, rest⟩ := append_eq_of_dark dark' whole
  cases inner with
  | nil => exact ⟨List.append_nil m, (List.cons.inj rest).2.symm⟩
  | cons c inner =>
    obtain ⟨rfl, -⟩ := List.cons.inj rest
    exact absurd (dark ' ' (by simp)) (by decide)

section

variable {p w₂ m w₃ s : List Char} (property : isSolid p = true) (blank₂ : w₂.all isWhiteSpace = true)
  (word : isSolid m = true) (blank₃ : w₃.all isWhiteSpace = true)

include property blank₂ word blank₃

/-- Where a word between blanks stands in a text that is put together of a solid text, such a word and
    another part, with white space around them. -/
theorem place_cases {left x right : List Char} (solid : isSolid x = true)
    (whole : p ++ w₂ ++ betweenBlanks m ++ (w₃ ++ s) = left ++ betweenBlanks x ++ right) :
    left = p ++ w₂ ∧ x = m ∧ right = w₃ ++ s ∨
      betweenBlanks x <:+: ' ' :: s ∧ (p ++ w₂).length < left.length := by
  obtain ⟨-, dark⟩ := isSolid_iff.1 property
  obtain ⟨-, dark'⟩ := isSolid_iff.1 word
  have parts : p ++ ((w₂ ++ [' ']) ++ (m ++ ((' ' :: w₃) ++ s))) =
      left ++ ' ' :: (x ++ ' ' :: right) := by
    simpa [betweenBlanks] using whole
  have blanks₂ : (w₂ ++ [' ']).all isWhiteSpace = true := by
    rw [List.all_append, blank₂]
    rfl
  have blanks₃ : (' ' :: w₃).all isWhiteSpace = true := by
    rw [List.all_cons, blank₃]
    rfl
  obtain ⟨left₁, rfl, behindProperty⟩ := append_eq_of_dark dark parts
  rcases append_eq_of_blank blanks₂ solid behindProperty with
    ⟨left₂, rfl, behindBlanks⟩ | ⟨last, here⟩
  · obtain ⟨left₃, rfl, behindWord⟩ := append_eq_of_dark dark' behindBlanks
    refine .inr ⟨?_, by simp⟩
    rcases append_eq_of_blank blanks₃ solid behindWord with ⟨inner, -, rfl⟩ | ⟨-, rfl⟩
    · exact ⟨' ' :: inner, right, by simp [betweenBlanks]⟩
    · exact ⟨[], right, by simp [betweenBlanks]⟩
  · obtain ⟨rfl, rfl⟩ := eq_of_dark (isSolid_iff.1 solid).2 dark' here
    obtain ⟨rfl, -⟩ := List.append_inj' last rfl
    exact .inl ⟨rfl, rfl, rfl⟩

/-- The text is cut at its word, if all words asked for stand between blanks. -/
theorem firstCut_between {Asked : List Char → Prop} (asked : Asked (betweenBlanks m))
    (between : ∀ other, Asked other → ∃ x, isSolid x = true ∧ other = betweenBlanks x) :
    FirstCut Asked (p ++ w₂ ++ betweenBlanks m ++ (w₃ ++ s)) (p ++ w₂) (betweenBlanks m)
      (w₃ ++ s) := by
  refine ⟨asked, rfl, ?_⟩
  intro left other right known whole
  obtain ⟨x, solid, rfl⟩ := between other known
  rcases place_cases property blank₂ word blank₃ solid whole with ⟨rfl, -⟩ | ⟨-, longer⟩
  · exact Nat.le_refl _
  · exact Nat.le_of_lt longer

/-- No other word stands in the text unless it does so behind the last blank before the third part. -/
theorem not_infix_between {x : List Char} (solid : isSolid x = true) (other : x ≠ m)
    (absent : ¬ betweenBlanks x <:+: ' ' :: s) :
    ¬ betweenBlanks x <:+: p ++ w₂ ++ betweenBlanks m ++ (w₃ ++ s) := by
  rintro ⟨left, right, whole⟩
  rcases place_cases property blank₂ word blank₃ solid whole.symm with ⟨-, same, -⟩ | ⟨inside, -⟩
  · exact other same
  · exact absent inside

end

end MapStyle.Text
