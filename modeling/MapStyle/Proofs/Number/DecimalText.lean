import MapStyle.Proofs.Number.DocumentText

/-!
# Decimal literals

What documents write for a number is a decimal literal exactly if the number is finite; it is never
that of negative zero then. Infinities and missing numbers are written as words.
-/

namespace MapStyle

namespace Decimal

/-- One digit or more. -/
def IsDigits (s : List Char) : Prop := s ≠ [] ∧ ∀ c ∈ s, c.isDigit = true

/-- Digits, and possibly a point and digits behind it. -/
def IsUnsigned (s : List Char) : Prop :=
  IsDigits s ∨ ∃ whole fraction, s = whole ++ '.' :: fraction ∧ IsDigits whole ∧ IsDigits fraction

/-- A decimal literal: possibly a minus sign, then digits and possibly a point and digits. -/
def IsLiteral (text : String) : Prop :=
  ∃ s, IsUnsigned s ∧ (text = String.ofList s ∨ text = String.ofList ('-' :: s))

theorem isDigits_digits (n : Nat) : IsDigits (Spelling.digits n) :=
  ⟨Nat.toDigits_ne_nil, all_digits n⟩

theorem isDigits_zero : IsDigits ['0'] := ⟨by simp, isDigit_of_mem_zero⟩

theorem isDigit_of_mem_replicate {n : Nat} : ∀ c ∈ List.replicate n '0', c.isDigit = true := by
  intro c member
  rw [List.eq_of_mem_replicate member]
  rfl

section Digits

variable {ds : List Char}

theorem IsDigits.zeros_behind (plain : IsDigits ds) (n : Nat) :
    IsDigits (ds ++ List.replicate n '0') :=
  ⟨by simp [plain.1], List.forall_mem_append.2 ⟨plain.2, isDigit_of_mem_replicate⟩⟩

theorem IsDigits.zeros_before (plain : IsDigits ds) (n : Nat) :
    IsDigits (List.replicate n '0' ++ ds) :=
  ⟨by simp [plain.1], List.forall_mem_append.2 ⟨isDigit_of_mem_replicate, plain.2⟩⟩

theorem IsDigits.take (plain : IsDigits ds) {n : Nat} (some : 0 < n) : IsDigits (ds.take n) := by
  refine ⟨?_, fun c member => plain.2 c (List.mem_of_mem_take member)⟩
  rw [Ne, List.take_eq_nil_iff, not_or]
  exact ⟨by omega, plain.1⟩

theorem IsDigits.drop (plain : IsDigits ds) {n : Nat} (less : n < ds.length) :
    IsDigits (ds.drop n) := by
  refine ⟨?_, fun c member => plain.2 c (List.mem_of_mem_drop member)⟩
  rw [Ne, List.drop_eq_nil_iff]
  omega

end Digits

/-- A decimal is written with digits and one point at most. -/
theorem isUnsigned_positional (d : Decimal) : IsUnsigned (Spelling.positional [] d) := by
  have plain := isDigits_digits d.digits
  simp only [Spelling.positional]
  split
  · rw [List.append_nil]
    exact .inl (plain.zeros_behind _)
  · next some =>
    right
    split
    · next few => exact ⟨_, _, rfl, plain.take (by omega), plain.drop (by omega)⟩
    · exact ⟨['0'], _, rfl, isDigits_zero, plain.zeros_before _⟩

theorem IsUnsigned.signed {s : List Char} (unsigned : IsUnsigned s) (negative : Bool) :
    IsLiteral (String.ofList (Spelling.signed negative s)) := by
  cases negative with
  | false => exact ⟨s, unsigned, .inl rfl⟩
  | true => exact ⟨s, unsigned, .inr rfl⟩

/-- A literal has no letters. -/
theorem IsLiteral.mem {text : String} (literal : IsLiteral text) {c : Char}
    (member : c ∈ text.toList) : c = '-' ∨ c = '.' ∨ c.isDigit = true := by
  obtain ⟨s, unsigned, shape⟩ := literal
  have inside : c ∈ s → c = '.' ∨ c.isDigit = true := by
    intro member
    rcases unsigned with digits | ⟨whole, fraction, rfl, before, behind⟩
    · exact .inr (digits.2 c member)
    · rcases List.mem_append.1 member with digit | other
      · exact .inr (before.2 c digit)
      · rcases List.mem_cons.1 other with point | digit
        · exact .inl point
        · exact .inr (behind.2 c digit)
  rcases shape with rfl | rfl
  · exact .inr (inside (by simpa using member))
  · rw [String.toList_ofList, List.mem_cons] at member
    exact member.imp_right inside

end Decimal

namespace Binary64

open Decimal (IsLiteral IsUnsigned)

theorem isUnsigned_magnitudeText (rank : Nat) : IsUnsigned (magnitudeText rank) := by
  rw [magnitudeText]
  split
  · exact .inl Decimal.isDigits_zero
  · rw [documentSpelling_magnitude]
    exact Decimal.isUnsigned_positional _

theorem isLiteral_finite (negative : Bool) (rank : Fin rankLimit) :
    IsLiteral (finite negative rank).documentText := by
  rw [documentText_finite]
  exact (isUnsigned_magnitudeText rank.val).signed _

/-- No number is written as negative zero. -/
theorem documentText_ne_negative_zero (x : Binary64) : x.documentText ≠ "-0" := by
  intro same
  cases x with
  | finite negative rank =>
    have least : "-0" = String.ofList (Spelling.signed true (magnitudeText 0)) := by
      rw [magnitudeText, if_pos rfl]
      rfl
    rw [documentText_finite, least] at same
    obtain ⟨sign, zero⟩ := signed_magnitudeText_inj (String.ofList_injective same)
    rw [zero] at sign
    simp at sign
  | infinite negative => cases negative <;> exact absurd same (by decide)
  | nan => exact absurd same (by decide)

/-- The words for numbers that are not finite. -/
theorem documentText_of_not_finite {x : Binary64} (other : x.isFinite = false) :
    x.documentText ∈ ["inf", "-inf", "NaN"] := by
  cases x with
  | finite negative rank => cases other
  | infinite negative => cases negative <;> decide
  | nan => decide

theorem not_isLiteral_of_mem {text : String} (word : text ∈ ["inf", "-inf", "NaN"]) :
    ¬ IsLiteral text := by
  have letter : ∃ c ∈ text.toList, c ≠ '-' ∧ c ≠ '.' ∧ c.isDigit = false := by
    simp only [List.mem_cons, List.not_mem_nil, or_false] at word
    rcases word with rfl | rfl | rfl
    · exact ⟨'i', by decide⟩
    · exact ⟨'i', by decide⟩
    · exact ⟨'N', by decide⟩
  obtain ⟨c, member, notMinus, notPoint, notDigit⟩ := letter
  intro literal
  rcases literal.mem member with minus | point | digit
  · exact notMinus minus
  · exact notPoint point
  · rw [notDigit] at digit
    cases digit

/-- A number is written as a decimal literal exactly if it is finite. -/
theorem isLiteral_documentText_iff {x : Binary64} :
    IsLiteral x.documentText ↔ x.isFinite = true := by
  constructor
  · intro literal
    by_contra other
    exact not_isLiteral_of_mem (documentText_of_not_finite (Bool.eq_false_iff.2 other)) literal
  · intro finite
    cases x with
    | finite negative rank => exact isLiteral_finite negative rank
    | infinite negative => cases finite
    | nan => cases finite

end Binary64

end MapStyle
