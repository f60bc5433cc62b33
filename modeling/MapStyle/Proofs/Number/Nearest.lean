import MapStyle.Proofs.Number.Rounding
import Mathlib.Algebra.Order.Field.Power
import Mathlib.Tactic.Linarith
import Mathlib.Tactic.Ring

/-!
# Rounding to the nearest value

The exact values of numbers are rational. A rational number rounds to the value that is nearest to
it, and of two that are equally near to the one of even rank. So the numbers that round to a value
are those between two points, halfway to the values next to it.
-/

namespace MapStyle

/-- The one number is less than the other; or it is the same, if ends belong to what they bound. -/
def Before (ends : Prop) (a b : ℚ) : Prop := a < b ∨ a = b ∧ ends

namespace Before

variable {ends : Prop} {a b c k : ℚ}

theorem of_le_of_before (ab : a ≤ b) (bc : Before ends b c) : Before ends a c := by
  rcases bc with less | ⟨rfl, member⟩
  · exact .inl (lt_of_le_of_lt ab less)
  · exact ab.lt_or_eq.imp_right fun same => ⟨same, member⟩

theorem of_before_of_le (ab : Before ends a b) (bc : b ≤ c) : Before ends a c := by
  rcases ab with less | ⟨rfl, member⟩
  · exact .inl (lt_of_lt_of_le less bc)
  · exact bc.lt_or_eq.imp_right fun same => ⟨same, member⟩

theorem le (ab : Before ends a b) : a ≤ b := by
  rcases ab with less | ⟨rfl, -⟩
  · exact less.le
  · exact le_rfl

theorem mul_right_iff (positive : 0 < k) : Before ends (a * k) (b * k) ↔ Before ends a b := by
  rw [Before, Before, mul_lt_mul_iff_of_pos_right positive, mul_left_inj' positive.ne']

theorem sub_iff : Before ends 0 (b - a) ↔ Before ends a b := by
  rw [Before, Before, sub_pos, eq_comm, sub_eq_zero, eq_comm]

theorem abs_iff : Before ends |a| |b| ↔ Before ends 0 (b ^ 2 - a ^ 2) := by
  rw [sub_iff, Before, Before, sq_lt_sq, sq_eq_sq_iff_abs_eq_abs]

section Middle

variable {q : ℚ}

/-- What is nearer to the greater of two numbers is beyond the middle between them. -/
theorem nearer_greater_iff (less : a < b) :
    Before ends |q - b| |q - a| ↔ Before ends (a + b) (2 * q) := by
  have squares : (q - a) ^ 2 - (q - b) ^ 2 = (2 * q - (a + b)) * (b - a) := by ring
  rw [abs_iff, squares, ← zero_mul (b - a), mul_right_iff (sub_pos.2 less), sub_iff]

/-- What is nearer to the less of them is on this side of the middle. -/
theorem nearer_less_iff (less : a < b) :
    Before ends |q - a| |q - b| ↔ Before ends (2 * q) (a + b) := by
  have squares : (q - b) ^ 2 - (q - a) ^ 2 = (a + b - 2 * q) * (b - a) := by ring
  rw [abs_iff, squares, ← zero_mul (b - a), mul_right_iff (sub_pos.2 less), sub_iff]

end Middle

end Before

namespace Binary64

/-! ## Values -/

/-- The least positive value. -/
def unit : ℚ := 1 / 2 ^ 1074

/-- The exact value of a sign and a rank. Ranks beyond the finite ones go on as if there were no
    greatest magnitude. -/
def rankValue (negative : Bool) (rank : Nat) : ℚ :=
  if negative then -(units rank * unit) else units rank * unit

/-- The exact value of a finite number. -/
def value : Binary64 → ℚ
  | .finite negative rank => rankValue negative rank
  | _ => 0

/-- A rational number rounds to the value of a sign and a rank: every other value is farther from
    it, or just as far where the rank is even. -/
def Rounds (q : ℚ) (negative : Bool) (rank : Nat) : Prop :=
  ∀ s r, rankValue s r ≠ rankValue negative rank →
    Before (rank % 2 = 0) |q - rankValue negative rank| |q - rankValue s r|

theorem unit_pos : 0 < unit := div_pos one_pos (pow_pos two_pos _)

theorem rankValue_strictMono : StrictMono (rankValue false) := fun _ _ less =>
  mul_lt_mul_of_pos_right (Nat.cast_lt.2 (units_strictMono less)) unit_pos

theorem rankValue_not (negative : Bool) (rank : Nat) :
    rankValue (!negative) rank = -rankValue negative rank := by
  cases negative
  · rfl
  · exact (neg_neg _).symm

theorem rankValue_zero (negative : Bool) : rankValue negative 0 = 0 := by
  have none : units 0 = 0 := units_of_lt (by decide)
  cases negative <;> simp [rankValue, none]

theorem rankValue_pos {rank : Nat} (positive : 0 < rank) : 0 < rankValue false rank := by
  rw [← rankValue_zero false]
  exact rankValue_strictMono positive

theorem rankValue_true_nonpos (rank : Nat) : rankValue true rank ≤ 0 := by
  have least := rankValue_strictMono.monotone (Nat.zero_le rank)
  rw [rankValue_zero] at least
  exact neg_nonpos.2 least

/-- The value of a positive rank is next to those of the ranks before and after it. -/
theorem rankValue_neighbours {rank r : Nat} {s : Bool} (positive : 0 < rank)
    (other : rankValue s r ≠ rankValue false rank) :
    rankValue s r ≤ rankValue false (rank - 1) ∨ rankValue false (rank + 1) ≤ rankValue s r := by
  cases s with
  | true =>
    left
    have least := rankValue_strictMono.monotone (Nat.zero_le (rank - 1))
    rw [rankValue_zero] at least
    exact (rankValue_true_nonpos r).trans least
  | false =>
    have differ : r ≠ rank := by
      rintro rfl
      exact other rfl
    rcases Nat.lt_or_gt_of_ne differ with less | more
    · exact .inl (rankValue_strictMono.monotone (by omega))
    · exact .inr (rankValue_strictMono.monotone more)

/-! ## Rounding -/

/-- What rounds to a number has an opposite that rounds to the opposite number. -/
theorem Rounds.neg {q : ℚ} {negative : Bool} {rank : Nat} (rounds : Rounds q negative rank) :
    Rounds (-q) (!negative) rank := by
  intro s r other
  obtain ⟨t, rfl⟩ : ∃ t, s = !t := ⟨!s, (Bool.not_not s).symm⟩
  have mirrored : ∀ v, |-q - -v| = |q - v| := fun v => by rw [← neg_sub', abs_neg]
  rw [rankValue_not, rankValue_not, Ne, neg_inj] at other
  rw [rankValue_not, rankValue_not, mirrored, mirrored]
  exact rounds t r other

/-- To a positive value rounds what lies between the points halfway to the values next to it. -/
theorem rounds_iff {q : ℚ} {rank : Nat} (positive : 0 < rank) :
    Rounds q false rank ↔
      Before (rank % 2 = 0) (rankValue false (rank - 1) + rankValue false rank) (2 * q) ∧
      Before (rank % 2 = 0) (2 * q) (rankValue false rank + rankValue false (rank + 1)) := by
  have below : rankValue false (rank - 1) < rankValue false rank := rankValue_strictMono (by omega)
  have above : rankValue false rank < rankValue false (rank + 1) := rankValue_strictMono (by omega)
  constructor
  · intro rounds
    exact ⟨(Before.nearer_greater_iff below).1 (rounds _ _ below.ne),
      (Before.nearer_less_iff above).1 (rounds _ _ above.ne')⟩
  · -- another value is no nearer than the neighbour on its side
    rintro ⟨lower, upper⟩ s r other
    rcases rankValue_neighbours positive other with before | after
    · refine (Before.nearer_greater_iff (before.trans_lt below)).2 ?_
      exact .of_le_of_before (by linarith) lower
    · refine (Before.nearer_less_iff (above.trans_le after)).2 ?_
      exact .of_before_of_le upper (by linarith)

/-- Only positive numbers round to a positive value. -/
theorem Rounds.pos {q : ℚ} {rank : Nat} (rounds : Rounds q false rank) (positive : 0 < rank) :
    0 < q := by
  have lower := ((rounds_iff positive).1 rounds).1.le
  have before := rankValue_strictMono.monotone (Nat.zero_le (rank - 1))
  have value := rankValue_pos positive
  rw [rankValue_zero] at before
  linarith

end Binary64

namespace Decimal.Interval

/-- Whether a rational multiple of `10 ^ -1075` lies in the interval. -/
def Contains (i : Interval) (q : ℚ) : Prop :=
  Before (i.closed = true) i.lower q ∧ Before (i.closed = true) q i.upper

theorem contains_natCast {i : Interval} {n : Nat} : i.Contains n ↔ i.holds n = true := by
  rw [Contains, Before, Before, holds]
  cases i.closed <;> simp [le_iff_lt_or_eq]

/-- An interval has no gaps. -/
theorem Contains.between {i : Interval} {a b c : ℚ} (lower : i.Contains a) (upper : i.Contains c)
    (ab : a ≤ b) (bc : b ≤ c) : i.Contains b :=
  ⟨lower.1.of_before_of_le ab, .of_le_of_before bc upper.2⟩

/-- The values as multiples of `10 ^ -1075`. -/
theorem unit_scaled : Binary64.unit * 10 ^ 1075 = 2 * 5 ^ 1075 := by
  have ten : ∀ n : Nat, (10 : ℚ) ^ n = 2 ^ n * 5 ^ n := fun n => by rw [← mul_pow]; norm_num
  have one : (2 : ℚ) ^ 1075 = 2 ^ 1074 * 2 := pow_succ _ _
  have some : (2 : ℚ) ^ 1074 ≠ 0 := pow_ne_zero _ two_ne_zero
  rw [Binary64.unit, ten, one, div_mul_eq_mul_div, one_mul, mul_assoc, mul_div_cancel_left₀ _ some]

/-- The point halfway between the values of two ranks as a multiple of `10 ^ -1075`. -/
theorem halfway_scaled (r s : Nat) :
    (Binary64.rankValue false r + Binary64.rankValue false s) * 10 ^ 1075 =
      ((Binary64.units r + Binary64.units s) * Nat.pow 5 1075 : Nat) * 2 := by
  have sum : Binary64.rankValue false r + Binary64.rankValue false s =
      (Binary64.units r + Binary64.units s) * Binary64.unit := (add_mul _ _ _).symm
  have scale : ∀ n, ((Nat.pow 5 n : Nat) : ℚ) = 5 ^ n := fun n => Nat.cast_pow 5 n
  simp only [Nat.cast_mul, Nat.cast_add, scale]
  rw [sum, mul_assoc, unit_scaled, mul_assoc, mul_comm 2]

/-- The interval of a rank has what rounds to its value. -/
theorem rounds_iff_contains {q : ℚ} {rank : Nat} (positive : 0 < rank) :
    Binary64.Rounds q false rank ↔ (ofRank rank).Contains (q * 10 ^ 1075) := by
  have closed : (ofRank rank).closed = true ↔ rank % 2 = 0 := beq_iff_eq
  have scale : (0 : ℚ) < 10 ^ 1075 := pow_pos (by norm_num) _
  have double : 2 * q * 10 ^ 1075 = q * 10 ^ 1075 * 2 := by
    rw [mul_assoc, mul_comm]
  rw [Binary64.rounds_iff positive, Contains, closed]
  refine and_congr ?_ ?_
  · rw [← Before.mul_right_iff scale, halfway_scaled, double, Before.mul_right_iff two_pos]
    rfl
  · rw [← Before.mul_right_iff scale, halfway_scaled, double, Before.mul_right_iff two_pos]
    rfl

end Decimal.Interval

end MapStyle
