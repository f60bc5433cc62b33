import MapStyle.Number.Spelling
import MapStyle.Proofs.Number.Rounding

/-!
# What the text of a number tells

The digits of a document number and the place of their point give back a decimal that rounds to the
number. So two numbers are written alike exactly if they are equal, the two zeros being one.
-/

namespace MapStyle

namespace Decimal

/-- The decimal that digits with at most one point stand for. -/
def ofText (s : List Char) : Decimal :=
  let whole := s.takeWhile (· != '.')
  let fraction := (s.dropWhile (· != '.')).drop 1
  { digits := Nat.ofDigitChars 10 (whole ++ fraction) 0, exponent := -(fraction.length : Int) }

theorem all_digits (n : Nat) : ∀ c ∈ Spelling.digits n, c.isDigit = true := fun _ member =>
  Nat.isDigit_of_mem_toDigits (by decide) (by decide) member

theorem ne_point_of_isDigit {c : Char} (h : c.isDigit = true) : (c != '.') = true := by
  rw [bne_iff_ne]
  rintro rfl
  exact absurd h (by decide)

theorem isDigit_of_mem_zero : ∀ c ∈ ['0'], c.isDigit = true := by
  intro c member
  rw [List.mem_singleton.1 member]
  rfl

theorem ofText_whole {s : List Char} (plain : ∀ c ∈ s, c.isDigit = true) :
    ofText s = { digits := Nat.ofDigitChars 10 s 0, exponent := 0 } := by
  have inside : ∀ c ∈ s, (c != '.') = true := fun c member => ne_point_of_isDigit (plain c member)
  rw [← List.append_nil s, ofText, List.takeWhile_append_of_pos inside,
    List.dropWhile_append_of_pos inside]
  simp

theorem ofText_point {s t : List Char} (plain : ∀ c ∈ s, c.isDigit = true) :
    ofText (s ++ '.' :: t) =
      { digits := Nat.ofDigitChars 10 (s ++ t) 0, exponent := -(t.length : Int) } := by
  have inside : ∀ c ∈ s, (c != '.') = true := fun c member => ne_point_of_isDigit (plain c member)
  rw [ofText, List.takeWhile_append_of_pos inside, List.dropWhile_append_of_pos inside]
  simp

section Digits

variable {ds : List Char} {places : Nat}

/-- Zeros behind the digits multiply by powers of ten. -/
theorem ofText_zeros (plain : ∀ c ∈ ds, c.isDigit = true) (zeros : Nat) :
    ofText (ds ++ List.replicate zeros '0') =
      { digits := Nat.pow 10 zeros * Nat.ofDigitChars 10 ds 0, exponent := 0 } := by
  have all : ∀ c ∈ ds ++ List.replicate zeros '0', c.isDigit = true := by
    intro c member
    rcases List.mem_append.1 member with digit | zero
    · exact plain c digit
    · rw [List.eq_of_mem_replicate zero]
      rfl
  rw [ofText_whole all, Nat.ofDigitChars_append, Nat.ofDigitChars_replicate_zero, Nat.pow_eq]

/-- A point among the digits divides by a power of ten. -/
theorem ofText_inside (plain : ∀ c ∈ ds, c.isDigit = true) (few : places < ds.length) :
    ofText (ds.take (ds.length - places) ++ '.' :: ds.drop (ds.length - places)) =
      { digits := Nat.ofDigitChars 10 ds 0, exponent := -(places : Int) } := by
  have behind : (ds.drop (ds.length - places)).length = places := by
    rw [List.length_drop]
    omega
  rw [ofText_point fun c member => plain c (List.mem_of_mem_take member), List.take_append_drop,
    behind]

/-- So does a point before the digits, with zeros between them. -/
theorem ofText_before (many : ds.length ≤ places) :
    ofText ('0' :: '.' :: (List.replicate (places - ds.length) '0' ++ ds)) =
      { digits := Nat.ofDigitChars 10 ds 0, exponent := -(places : Int) } := by
  have behind : (List.replicate (places - ds.length) '0' ++ ds).length = places := by
    rw [List.length_append, List.length_replicate]
    omega
  have shape := ofText_point isDigit_of_mem_zero
    (t := List.replicate (places - ds.length) '0' ++ ds)
  rw [List.singleton_append] at shape
  rw [shape, behind, Nat.ofDigitChars_append, Nat.ofDigitChars_append,
    Nat.ofDigitChars_replicate_zero, show Nat.ofDigitChars 10 ['0'] 0 = 0 by decide, Nat.mul_zero]

end Digits

/-- The text of a decimal stands for it, on whatever grid. -/
theorem amount_ofText_positional {d : Decimal} (grid : -1075 ≤ d.exponent) :
    (ofText (Spelling.positional [] d)).amount = d.amount := by
  have digits := all_digits d.digits
  have value : Nat.ofDigitChars 10 (Spelling.digits d.digits) 0 = d.digits :=
    Nat.ofDigitChars_ten_toDigits
  simp only [Spelling.positional]
  split
  · next none =>
    -- nothing behind the point: the exponent is written as zeros
    have power : (d.exponent + 1075).toNat = d.exponent.toNat + 1075 := by omega
    rw [List.append_nil, ofText_zeros digits, value, amount, amount, power, Nat.pow_eq, Nat.pow_eq,
      Nat.pow_eq, Nat.pow_add, ← Nat.mul_assoc, Nat.mul_comm d.digits]
    rfl
  · next some =>
    have back : -((-d.exponent).toNat : Int) = d.exponent := by omega
    split
    · next few => rw [ofText_inside digits few, value, back]
    · next many => rw [ofText_before (Nat.not_lt.1 many), value, back]

end Decimal

/-! ## Texts of numbers -/

namespace Binary64

/-- The number that a document shows: neither zero has a sign. -/
def shown : Binary64 → Binary64
  | .finite negative rank => if rank.val = 0 then zero else .finite negative rank
  | x => x

/-- The text of a finite magnitude. -/
def magnitudeText (rank : Nat) : List Char :=
  if rank = 0 then ['0'] else documentSpelling.magnitude rank

theorem documentText_finite (negative : Bool) (rank : Fin rankLimit) :
    (finite negative rank).documentText =
      String.ofList (Spelling.signed (negative && rank.val != 0) (magnitudeText rank.val)) := by
  rw [documentText, Spelling.spell, magnitudeText]
  by_cases none : rank.val = 0
  · rw [if_pos none, if_pos none, none]
    simp [documentSpelling, Spelling.signed]
  · have some : (rank.val != 0) = true := bne_iff_ne.2 none
    rw [if_neg none, if_neg none, some, Bool.and_true]

theorem documentSpelling_magnitude (rank : Nat) :
    documentSpelling.magnitude rank = Spelling.positional [] (Decimal.shortest .up rank) := by
  rw [Spelling.magnitude]
  exact if_pos rfl

/-- The text of a magnitude begins with a digit. -/
theorem magnitudeText_cons (rank : Nat) :
    ∃ c rest, magnitudeText rank = c :: rest ∧ c.isDigit = true := by
  rw [magnitudeText]
  split
  · exact ⟨'0', [], rfl, by decide⟩
  · rw [documentSpelling_magnitude]
    generalize Decimal.shortest .up rank = d
    have digits := Decimal.all_digits d.digits
    obtain ⟨c, rest, some⟩ : ∃ c rest, Spelling.digits d.digits = c :: rest :=
      List.exists_cons_of_ne_nil Nat.toDigits_ne_nil
    have first : c.isDigit = true := digits c (by simp [some])
    simp only [Spelling.positional, some]
    split
    · exact ⟨c, _, rfl, first⟩
    · split
      · next inside =>
        obtain ⟨k, more⟩ : ∃ k, (c :: rest).length - (-d.exponent).toNat = k + 1 :=
          ⟨(c :: rest).length - (-d.exponent).toNat - 1, by omega⟩
        exact ⟨c, _, by rw [more, List.take_succ_cons]; rfl, first⟩
      · exact ⟨'0', _, rfl, by decide⟩

theorem amount_magnitudeText {rank : Nat} (positive : 0 < rank) :
    (Decimal.Interval.ofRank rank).holds (Decimal.ofText (magnitudeText rank)).amount = true := by
  obtain ⟨grid, inside⟩ := Decimal.holds_shortest .up positive
  rw [magnitudeText, if_neg (by omega), documentSpelling_magnitude,
    Decimal.amount_ofText_positional grid]
  exact inside

/-- The text of a magnitude determines it. -/
theorem magnitudeText_injective {r s : Nat} (h : magnitudeText r = magnitudeText s) : r = s := by
  have zero : (Decimal.ofText (magnitudeText 0)).amount = 0 := by
    rw [magnitudeText, if_pos rfl, Decimal.ofText_whole Decimal.isDigit_of_mem_zero, Decimal.amount,
      show Nat.ofDigitChars 10 ['0'] 0 = 0 by decide, Nat.zero_mul]
  have some : ∀ rank, 0 < rank → (Decimal.ofText (magnitudeText rank)).amount ≠ 0 := by
    intro rank positive
    have lower := (Decimal.Interval.bounds_of_holds (amount_magnitudeText positive)).1
    have above := Decimal.Interval.lower_pos positive
    omega
  rcases Nat.eq_zero_or_pos r with rfl | positiveR
  · rcases Nat.eq_zero_or_pos s with rfl | positiveS
    · rfl
    · exact absurd (h ▸ zero) (some s positiveS)
  · rcases Nat.eq_zero_or_pos s with rfl | positiveS
    · exact absurd (h.symm ▸ zero) (some r positiveR)
    · have inR := amount_magnitudeText positiveR
      rw [h] at inR
      exact Decimal.Interval.rank_unique inR (amount_magnitudeText positiveS)

/-- How the text of a number begins tells infinities and missing numbers from the rest. -/
theorem signed_magnitudeText_ne (negative other : Bool) (rank : Nat) :
    Spelling.signed negative (magnitudeText rank) ≠ Spelling.signed other "inf".toList ∧
      Spelling.signed negative (magnitudeText rank) ≠ "NaN".toList := by
  obtain ⟨c, rest, text, digit⟩ := magnitudeText_cons rank
  have notLetter : c ≠ 'i' ∧ c ≠ 'N' ∧ c ≠ '-' := by
    refine ⟨?_, ?_, ?_⟩ <;> rintro rfl <;> exact absurd digit (by decide)
  rw [text]
  cases negative <;> cases other <;> simp [Spelling.signed, notLetter]

theorem signed_magnitudeText_inj {negative other : Bool} {r s : Nat}
    (h : Spelling.signed negative (magnitudeText r) = Spelling.signed other (magnitudeText s)) :
    negative = other ∧ r = s := by
  have notMinus : ∀ rank tail, magnitudeText rank ≠ '-' :: tail := by
    intro rank tail same
    obtain ⟨c, rest, text, digit⟩ := magnitudeText_cons rank
    rw [same] at text
    rw [← (List.cons.inj text).1] at digit
    exact absurd digit (by decide)
  rw [Spelling.signed, Spelling.signed] at h
  cases negative <;> cases other <;>
    simp only [Bool.false_eq_true, if_false, if_true, List.cons.injEq, true_and] at h
  · exact ⟨rfl, magnitudeText_injective h⟩
  · exact absurd h (notMinus r _)
  · exact absurd h.symm (notMinus s _)
  · exact ⟨rfl, magnitudeText_injective h⟩

theorem documentText_of_zero (negative : Bool) {rank : Fin rankLimit} (none : rank.val = 0) :
    (finite negative rank).documentText = String.ofList ['0'] := by
  rw [documentText, Spelling.spell, if_pos none]
  simp [documentSpelling, Spelling.signed]

theorem documentText_shown (x : Binary64) : x.shown.documentText = x.documentText := by
  cases x with
  | finite negative rank =>
    rw [shown]
    split
    · next none =>
      have other : zero.documentText = String.ofList ['0'] := documentText_of_zero false rfl
      rw [other, documentText_of_zero negative none]
    · rfl
  | infinite negative => rfl
  | nan => rfl

/-- Only a finite number has the text of one. -/
theorem documentText_finite_ne {negative : Bool} {rank : Fin rankLimit} {x : Binary64}
    (other : x.isFinite = false) : (finite negative rank).documentText ≠ x.documentText := by
  intro same
  rw [documentText_finite, documentText] at same
  have text := congrArg String.toList same
  rw [String.toList_ofList] at text
  have differ := signed_magnitudeText_ne (negative && rank.val != 0)
  cases x with
  | finite s r => cases other
  | infinite s =>
    rw [Spelling.spell, String.toList_ofList] at text
    exact (differ s rank.val).1 text
  | nan => exact (differ true rank.val).2 text

/-- The text of a finite number determines its rank, and its sign unless it is zero. -/
theorem shown_of_documentText_finite {s t : Bool} {r q : Fin rankLimit}
    (h : (finite s r).documentText = (finite t q).documentText) :
    (finite s r).shown = (finite t q).shown := by
  rw [documentText_finite, documentText_finite] at h
  obtain ⟨sign, rank⟩ := signed_magnitudeText_inj (String.ofList_injective h)
  obtain rfl : r = q := Fin.ext rank
  rw [shown, shown]
  by_cases none : r.val = 0
  · rw [if_pos none, if_pos none]
  · have some : (r.val != 0) = true := bne_iff_ne.2 none
    rw [some, Bool.and_true, Bool.and_true] at sign
    rw [sign]

/-- Two numbers are written alike exactly if documents show the same number. -/
theorem documentText_inj {x y : Binary64} :
    x.documentText = y.documentText ↔ x.shown = y.shown := by
  constructor
  · intro h
    cases x with
    | finite s r =>
      cases y with
      | finite t q => exact shown_of_documentText_finite h
      | infinite t => exact absurd h (documentText_finite_ne rfl)
      | nan => exact absurd h (documentText_finite_ne rfl)
    | infinite s =>
      cases y with
      | finite t q => exact absurd h.symm (documentText_finite_ne rfl)
      | infinite t => cases s <;> cases t <;> first | rfl | exact absurd h (by decide)
      | nan => cases s <;> exact absurd h (by decide)
    | nan =>
      cases y with
      | finite t q => exact absurd h.symm (documentText_finite_ne rfl)
      | infinite t => cases t <;> exact absurd h (by decide)
      | nan => rfl
  · intro h
    rw [← documentText_shown x, ← documentText_shown y, h]

end Binary64

end MapStyle
