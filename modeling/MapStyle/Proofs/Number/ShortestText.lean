import MapStyle.Proofs.Number.DecimalText
import MapStyle.Proofs.Number.Fewest
import Mathlib.Data.List.DropRight

/-!
# The shortest text of a number

A document shows zero as `0`, and every other finite number plainly: with a minus sign if it is
negative, no exponent and no zero too many. What it shows rounds to the number, and no decimal of
fewer digits does. Main statement: `Binary64.documentText_shortest`.
-/

namespace MapStyle

namespace Decimal

/-! ## Literals -/

/-- Unsigned digits without superfluous zeros: a zero in front of others stands before the point,
    and a fraction does not end in one. -/
structure IsPlain (s : List Char) : Prop where
  unsigned : IsUnsigned s
  leading : ∀ c rest, s = '0' :: c :: rest → c = '.'
  trailing : '.' ∈ s → s.getLast? ≠ some '0'

/-- The exact value of a literal. -/
def textValue (text : String) : ℚ :=
  match text.toList with
  | '-' :: s => -(ofText s).value
  | s => (ofText s).value

/-- The significant digits of a literal: all but the zeros in front of the others and behind
    them. -/
def significant (text : String) : List Char :=
  ((text.toList.filter Char.isDigit).dropWhile (· == '0')).rdropWhile (· == '0')

/-! ## Digits -/

theorem digitChar_ne_zero {n : Nat} (some : n ≠ 0) : n.digitChar ≠ '0' :=
  Nat.digitChar_eq_zero.not.2 some

/-- The digits of a positive number do not begin with zero. -/
theorem head?_digits {n : Nat} (positive : 0 < n) : (Spelling.digits n).head? ≠ some '0' := by
  induction n using Nat.strong_induction_on with
  | _ n ih =>
    rw [Spelling.digits]
    rcases Nat.lt_or_ge n 10 with less | more
    · rw [Nat.toDigits_of_lt_base less, List.head?_cons, Ne, Option.some.injEq]
      exact digitChar_ne_zero positive.ne'
    · rw [Nat.toDigits_of_base_le (by decide) more,
        List.head?_append_of_ne_nil _ Nat.toDigits_ne_nil]
      exact ih (n / 10) (by omega) (by omega)

/-- They end in zero only if the number is a multiple of ten. -/
theorem getLast?_digits {n : Nat} (last : n % 10 ≠ 0) :
    (Spelling.digits n).getLast? ≠ some '0' := by
  rw [Spelling.digits]
  rcases Nat.lt_or_ge n 10 with less | more
  · rw [Nat.toDigits_of_lt_base less, List.getLast?_singleton, Ne, Option.some.injEq]
    exact digitChar_ne_zero (by omega)
  · rw [Nat.toDigits_of_base_le (by decide) more, List.getLast?_concat, Ne, Option.some.injEq]
    exact digitChar_ne_zero last

theorem dropWhile_zeros {ds : List Char} (head : ds.head? ≠ some '0') (n : Nat) :
    (List.replicate n '0' ++ ds).dropWhile (· == '0') = ds := by
  rw [List.dropWhile_append_of_pos fun c member => by rw [List.eq_of_mem_replicate member]; rfl]
  cases ds with
  | nil => rfl
  | cons c rest =>
    refine List.dropWhile_cons_of_neg ?_
    rwa [beq_iff_eq, ← Option.some.injEq, ← List.head?_cons]

theorem rdropWhile_zeros {ds : List Char} (last : ds.getLast? ≠ some '0') (n : Nat) :
    (ds ++ List.replicate n '0').rdropWhile (· == '0') = ds := by
  rw [← List.head?_reverse] at last
  rw [List.rdropWhile, List.reverse_append, List.reverse_replicate, dropWhile_zeros last,
    List.reverse_reverse]

section Positional

variable {d : Decimal}

/-- The three ways in which digits are written: zeros are added behind them, the point is set among
    them, or it is set before them and zeros are put between. -/
theorem positional_cases (d : Decimal) :
    (∃ zeros : Nat, d.exponent = zeros ∧
      Spelling.positional [] d = Spelling.digits d.digits ++ List.replicate zeros '0') ∨
    (∃ whole fraction, Spelling.digits d.digits = whole ++ fraction ∧ whole ≠ [] ∧ fraction ≠ [] ∧
      d.exponent = -(fraction.length : Int) ∧
      Spelling.positional [] d = whole ++ '.' :: fraction) ∨
    ∃ zeros : Nat, d.exponent = -((zeros + (Spelling.digits d.digits).length : Nat) : Int) ∧
      Spelling.positional [] d =
        '0' :: '.' :: (List.replicate zeros '0' ++ Spelling.digits d.digits) := by
  have plain := isDigits_digits d.digits
  simp only [Spelling.positional]
  split
  · exact .inl ⟨d.exponent.toNat, by omega, List.append_nil _⟩
  · right
    split
    · have behind : ((Spelling.digits d.digits).drop
          ((Spelling.digits d.digits).length - (-d.exponent).toNat)).length =
            (-d.exponent).toNat := by
        rw [List.length_drop]
        omega
      exact .inl ⟨_, _, (List.take_append_drop _ _).symm, (plain.take (by omega)).1,
        (plain.drop (by omega)).1, by omega, rfl⟩
    · exact .inr ⟨_, by omega, rfl⟩

/-- Without its point the text of a decimal is the digits and zeros. -/
theorem filter_positional (d : Decimal) :
    ∃ before behind, (Spelling.positional [] d).filter Char.isDigit =
      List.replicate before '0' ++ (Spelling.digits d.digits ++ List.replicate behind '0') := by
  have digits : (Spelling.digits d.digits).filter Char.isDigit = Spelling.digits d.digits :=
    List.filter_eq_self.2 (all_digits d.digits)
  have zeros : ∀ n, (List.replicate n '0').filter Char.isDigit = List.replicate n '0' := fun n =>
    List.filter_eq_self.2 isDigit_of_mem_replicate
  have point : ∀ s, ('.' :: s).filter Char.isDigit = s.filter Char.isDigit := fun _ => rfl
  have zero : ∀ s, ('0' :: s).filter Char.isDigit = '0' :: s.filter Char.isDigit := fun _ => rfl
  rcases positional_cases d with
    ⟨n, -, shape⟩ | ⟨whole, fraction, parts, -, -, -, shape⟩ | ⟨n, -, shape⟩
  · refine ⟨0, n, ?_⟩
    rw [shape, List.filter_append, digits, zeros]
    rfl
  · refine ⟨0, 0, ?_⟩
    rw [shape, List.filter_append, point, ← List.filter_append, ← parts, digits,
      List.replicate_zero, List.append_nil, List.nil_append]
  · refine ⟨n + 1, 0, ?_⟩
    rw [shape, zero, point, List.filter_append, digits, zeros, List.replicate_zero, List.append_nil,
      List.replicate_succ, List.cons_append]

/-- The significant digits are those of the decimal, wherever the point is. -/
theorem significant_signed_positional (last : d.digits % 10 ≠ 0) (negative : Bool) :
    significant (String.ofList (Spelling.signed negative (Spelling.positional [] d))) =
      Spelling.digits d.digits := by
  have unsigned : (Spelling.signed negative (Spelling.positional [] d)).filter Char.isDigit =
      (Spelling.positional [] d).filter Char.isDigit := by
    cases negative <;> rfl
  obtain ⟨before, behind, filtered⟩ := filter_positional d
  have head : (Spelling.digits d.digits ++ List.replicate behind '0').head? ≠ some '0' := by
    rw [List.head?_append_of_ne_nil _ (isDigits_digits _).1]
    exact head?_digits (by omega)
  rw [significant, String.toList_ofList, unsigned, filtered, dropWhile_zeros head,
    rdropWhile_zeros (getLast?_digits last)]

theorem isPlain_positional (last : d.digits % 10 ≠ 0) : IsPlain (Spelling.positional [] d) := by
  have plain := isDigits_digits d.digits
  have head := head?_digits (n := d.digits) (by omega)
  have tail := getLast?_digits last
  refine ⟨isUnsigned_positional d, ?_, ?_⟩
  · intro c rest first
    rcases positional_cases d with
      ⟨n, -, shape⟩ | ⟨whole, fraction, parts, some, -, -, shape⟩ | ⟨n, -, shape⟩
    · rw [← List.head?_append_of_ne_nil _ plain.1, ← shape, first] at head
      exact absurd rfl head
    · rw [parts, List.head?_append_of_ne_nil _ some, ← List.head?_append_of_ne_nil _ some, ← shape,
        first] at head
      exact absurd rfl head
    · rw [shape] at first
      exact (List.cons.inj (List.cons.inj first).2).1.symm
  · intro point
    rcases positional_cases d with
      ⟨n, -, shape⟩ | ⟨whole, fraction, parts, -, some, -, shape⟩ | ⟨n, -, shape⟩
    · have digit := (plain.zeros_behind n).2 _ (shape ▸ point)
      cases digit
    · rw [parts, List.getLast?_append_of_ne_nil _ some] at tail
      rwa [shape, List.getLast?_append_cons, ← List.singleton_append,
        List.getLast?_append_of_ne_nil _ some]
    · rwa [shape, ← List.cons_append, ← List.cons_append,
        List.getLast?_append_of_ne_nil _ plain.1]

/-- A decimal is written so that its text has its value. -/
theorem value_ofText_positional (d : Decimal) :
    (ofText (Spelling.positional [] d)).value = d.value := by
  have digits := all_digits d.digits
  have number : Nat.ofDigitChars 10 (Spelling.digits d.digits) 0 = d.digits :=
    Nat.ofDigitChars_ten_toDigits
  rcases positional_cases d with
    ⟨n, exponent, shape⟩ | ⟨whole, fraction, parts, -, -, exponent, shape⟩ | ⟨n, exponent, shape⟩
  · rw [shape, ofText_zeros digits, number, value, value, exponent, zpow_zero, mul_one, Nat.pow_eq,
      Nat.cast_mul, Nat.cast_pow, Nat.cast_ofNat, mul_comm, zpow_natCast]
  · have before : ∀ c ∈ whole, c.isDigit = true := fun c member =>
      digits c (parts ▸ List.mem_append_left _ member)
    rw [shape, ofText_point before, ← parts, number, ← exponent]
  · have between := ofText_before (Nat.le_add_left (Spelling.digits d.digits).length n)
    rw [Nat.add_sub_cancel] at between
    rw [shape, between, number, ← exponent]

end Positional

theorem IsUnsigned.head {s : List Char} (unsigned : IsUnsigned s) :
    ∃ c rest, s = c :: rest ∧ c.isDigit = true := by
  have first : ∀ {ds}, IsDigits ds → ∃ c rest, ds = c :: rest ∧ c.isDigit = true := by
    intro ds plain
    obtain ⟨c, rest, rfl⟩ := List.exists_cons_of_ne_nil plain.1
    exact ⟨c, rest, rfl, plain.2 c List.mem_cons_self⟩
  rcases unsigned with plain | ⟨whole, fraction, rfl, plain, -⟩
  · exact first plain
  · obtain ⟨c, rest, rfl, digit⟩ := first plain
    exact ⟨c, _, rfl, digit⟩

/-- The value of a literal is that of its digits, with its sign. -/
theorem textValue_signed {s : List Char} (unsigned : IsUnsigned s) (negative : Bool) :
    textValue (String.ofList (Spelling.signed negative s)) =
      if negative then -(ofText s).value else (ofText s).value := by
  rw [textValue, String.toList_ofList]
  cases negative with
  | true => rfl
  | false =>
    obtain ⟨c, rest, rfl, digit⟩ := unsigned.head
    show (match c :: rest with
      | '-' :: s => -(ofText s).value
      | s => (ofText s).value) = _
    split
    · next minus =>
      rw [(List.cons.inj minus).1] at digit
      cases digit
    · rfl

theorem value_natAbs (m e : Int) : value ⟨m.natAbs, e⟩ = |(m : ℚ) * 10 ^ e| := by
  have power : (0 : ℚ) < 10 ^ e := zpow_pos (by norm_num) e
  rw [value, abs_mul, abs_of_pos power, Nat.cast_natAbs, Int.cast_abs]

end Decimal

namespace Binary64

open Decimal (IsPlain textValue significant)

/-! ## Texts of numbers -/

/-- A text shows the nonzero value of a sign and a rank as shortly as can be: it is plain and rounds
    to the value, and no decimal `m · 10 ^ e` that does has fewer digits. -/
structure IsShortest (negative : Bool) (rank : Nat) (text : String) : Prop where
  plain : ∃ s, IsPlain s ∧ text = String.ofList (Spelling.signed negative s)
  rounds : Rounds (textValue text) negative rank
  fewest : ∀ m e : Int, Rounds (m * 10 ^ e) negative rank →
    (significant text).length ≤ (Spelling.digits m.natAbs).length

/-- With its sign, what rounds to a positive value rounds to the value of either sign. -/
theorem rounds_signed {q : ℚ} {negative : Bool} {rank : Nat} :
    Rounds (if negative then -q else q) negative rank ↔ Rounds q false rank := by
  cases negative with
  | false => rfl
  | true => exact ⟨fun rounds => neg_neg q ▸ rounds.neg, Rounds.neg⟩

/-- What rounds to a value that is not zero has the sign of the value. -/
theorem Rounds.abs {q : ℚ} {negative : Bool} {rank : Nat} (rounds : Rounds q negative rank)
    (positive : 0 < rank) : Rounds |q| false rank := by
  cases negative with
  | false => rwa [abs_of_pos (rounds.pos positive)]
  | true =>
    have opposite : Rounds (-q) false rank := rounds.neg
    rwa [abs_of_neg (neg_pos.1 (opposite.pos positive))]

theorem documentText_isShortest (negative : Bool) (rank : Fin rankLimit) (some : rank.val ≠ 0) :
    IsShortest negative rank.val (finite negative rank).documentText := by
  have positive := Nat.pos_of_ne_zero some
  have last := Decimal.shortest_digits_mod .up positive
  have text : (finite negative rank).documentText = String.ofList (Spelling.signed negative
      (Spelling.positional [] (Decimal.shortest .up rank.val))) := by
    rw [documentText_finite, magnitudeText, if_neg some, documentSpelling_magnitude,
      bne_iff_ne.2 some, Bool.and_true]
  rw [text]
  refine ⟨⟨_, Decimal.isPlain_positional last, rfl⟩, ?_, ?_⟩
  · rw [Decimal.textValue_signed (Decimal.isUnsigned_positional _),
      Decimal.value_ofText_positional, rounds_signed]
    exact Decimal.rounds_shortest .up positive
  · intro m e rounds
    rw [Decimal.significant_signed_positional last]
    refine Decimal.shortest_fewest .up positive (d := ⟨m.natAbs, e⟩) ?_
    rw [Decimal.value_natAbs]
    exact rounds.abs positive

/-! ## Equal numbers -/

theorem rankValue_eq_zero {negative : Bool} {rank : Nat} :
    rankValue negative rank = 0 ↔ rank = 0 := by
  constructor
  · intro none
    by_contra some
    have positive := rankValue_pos (Nat.pos_of_ne_zero some)
    cases negative with
    | false => exact positive.ne' none
    | true => exact positive.ne' (neg_eq_zero.1 none)
  · rintro rfl
    exact rankValue_zero negative

theorem rankValue_inj {s t : Bool} {r q : Nat} (some : r ≠ 0)
    (same : rankValue s r = rankValue t q) : s = t ∧ r = q := by
  have positive := rankValue_pos (Nat.pos_of_ne_zero some)
  cases s <;> cases t
  · exact ⟨rfl, rankValue_strictMono.injective same⟩
  · exact absurd (same ▸ positive) (not_lt.2 (rankValue_true_nonpos q))
  · have least := rankValue_strictMono.monotone (Nat.zero_le q)
    rw [rankValue_zero, ← same] at least
    exact absurd (neg_nonneg.1 least) (not_le.2 positive)
  · exact ⟨rfl, rankValue_strictMono.injective (neg_inj.1 same)⟩

theorem value_shown (x : Binary64) : x.shown.value = x.value := by
  cases x with
  | finite negative rank =>
    rw [shown]
    split
    · next none => rw [value, none, rankValue_zero]; exact rankValue_zero false
    · rfl
  | infinite negative => rfl
  | nan => rfl

/-- Documents show the same for finite numbers exactly if their values are equal. -/
theorem shown_eq_iff {s t : Bool} {r q : Fin rankLimit} :
    (finite s r).shown = (finite t q).shown ↔ (finite s r).value = (finite t q).value := by
  constructor
  · intro same
    rw [← value_shown (finite s r), same, value_shown]
  · intro same
    by_cases none : r.val = 0
    · have zero : rankValue t q = 0 := same.symm.trans (rankValue_eq_zero.2 none)
      rw [shown, shown, if_pos none, if_pos (rankValue_eq_zero.1 zero)]
    · obtain ⟨rfl, rank⟩ := rankValue_inj none same
      rw [Fin.ext rank]

/-- Zero of either sign is written `0`, any other finite number in the shortest way, and two are
    written alike exactly if they are equal. -/
theorem documentText_shortest (s t : Bool) (r q : Fin rankLimit) :
    ((finite s r).documentText = "0" ↔ (finite s r).value = 0) ∧
      ((finite s r).value ≠ 0 → IsShortest s r.val (finite s r).documentText) ∧
      ((finite s r).documentText = (finite t q).documentText ↔
        (finite s r).value = (finite t q).value) := by
  have alike : (finite s r).documentText = (finite t q).documentText ↔
      (finite s r).value = (finite t q).value := documentText_inj.trans shown_eq_iff
  have nothing : (finite s r).documentText = zero.documentText ↔
      (finite s r).value = zero.value := documentText_inj.trans shown_eq_iff
  have none : zero.value = 0 := rankValue_zero false
  refine ⟨none ▸ nothing, fun some => ?_, alike⟩
  exact documentText_isShortest s r (rankValue_eq_zero.not.1 some)

end Binary64

end MapStyle
