import MapStyle.Number.Shortest
import Mathlib.Order.Monotone.Basic

/-!
# What rounds to a magnitude

The magnitudes grow with their ranks, so the intervals of the decimals that round to them lie side by
side: no decimal lies in two of them, because of two neighbours only one owns the point between them.
The search for the shortest decimal ends inside the interval that it searches.
-/

namespace MapStyle

namespace Binary64

/-- The next rank lies in the same block, or begins the next one. -/
theorem block_succ (n : Nat) :
    (n + 1) / blockSize = n / blockSize ∧ (n + 1) % blockSize = n % blockSize + 1 ∨
      (n + 1) / blockSize = n / blockSize + 1 ∧ (n + 1) % blockSize = 0 ∧
        n % blockSize + 1 = blockSize := by
  have size : blockSize = 4503599627370496 := rfl
  rw [size]
  omega

theorem units_of_lt {n : Nat} (small : n < blockSize) : units n = n := if_pos small

theorem units_of_ge {n : Nat} (large : blockSize ≤ n) :
    units n = (blockSize + n % blockSize) * Nat.pow 2 (n / blockSize - 1) :=
  if_neg (Nat.not_lt.2 large)

theorem units_blockSize : units blockSize = blockSize := by
  rw [units_of_ge (Nat.le_refl _)]
  decide

theorem units_lt_succ (n : Nat) : units n < units (n + 1) := by
  rcases Nat.lt_trichotomy (n + 1) blockSize with small | edge | large
  · rw [units_of_lt small, units_of_lt (by omega)]
    omega
  · rw [edge, units_blockSize, units_of_lt (by omega)]
    omega
  · have positive : ∀ k, 0 < Nat.pow 2 k := fun k => Nat.pow_pos (by decide)
    have block : 0 < n / blockSize := Nat.div_pos (by omega) (by decide)
    rw [units_of_ge (by omega : blockSize ≤ n), units_of_ge (by omega : blockSize ≤ n + 1)]
    rcases block_succ n with ⟨quotient, remainder⟩ | ⟨quotient, remainder, last⟩
    · rw [quotient, remainder]
      exact Nat.mul_lt_mul_of_pos_right (by omega) (positive _)
    · obtain ⟨k, index⟩ : ∃ k, n / blockSize = k + 1 := ⟨n / blockSize - 1, by omega⟩
      have doubled : Nat.pow 2 (k + 1) = 2 * Nat.pow 2 k := Nat.pow_succ' ..
      rw [quotient, remainder, index, Nat.add_sub_cancel, Nat.add_sub_cancel, doubled,
        Nat.add_zero, Nat.mul_left_comm, ← Nat.mul_assoc]
      exact Nat.mul_lt_mul_of_pos_right (by omega) (positive _)

/-- A greater rank is a greater magnitude. -/
theorem units_strictMono : StrictMono units := strictMono_nat_of_lt_succ units_lt_succ

end Binary64

namespace Decimal

open Binary64 (units units_strictMono)

/-- A decimal as a multiple of `10 ^ -1075`. -/
def amount (d : Decimal) : Nat := d.digits * Nat.pow 10 (d.exponent + 1075).toNat

namespace Interval

/-- The ends of an interval and its value in units, times a scale that does not matter. -/
theorem ofRank_scaled : ∃ scale, 0 < scale ∧ ∀ rank,
    (ofRank rank).lower = (units (rank - 1) + units rank) * scale ∧
      (ofRank rank).value = units rank * 2 * scale ∧
      (ofRank rank).upper = (units rank + units (rank + 1)) * scale := by
  have positive : ∀ k, 0 < Nat.pow 5 k := fun k => Nat.pow_pos (by decide)
  exact ⟨_, positive _, fun _ => ⟨rfl, rfl, rfl⟩⟩

theorem bounds_of_holds {i : Interval} {n : Nat} (h : i.holds n = true) :
    i.lower ≤ n ∧ n ≤ i.upper ∧ (i.closed = false → i.lower < n ∧ n < i.upper) := by
  rw [holds] at h
  cases closed : i.closed with
  | true =>
    simp only [closed, if_true, Bool.and_eq_true, decide_eq_true_eq] at h
    exact ⟨h.1, h.2, by simp⟩
  | false =>
    simp only [closed, Bool.false_eq_true, if_false, Bool.and_eq_true, decide_eq_true_eq] at h
    exact ⟨Nat.le_of_lt h.1, Nat.le_of_lt h.2, fun _ => h⟩

/-- A magnitude lies strictly inside its own interval. -/
theorem holds_value {rank : Nat} (positive : 0 < rank) :
    (ofRank rank).holds (ofRank rank).value = true := by
  obtain ⟨scale, scale_pos, scaled⟩ := ofRank_scaled
  obtain ⟨lower, value, upper⟩ := scaled rank
  have before : units (rank - 1) < units rank := units_strictMono (by omega)
  have after : units rank < units (rank + 1) := units_strictMono (by omega)
  have below : (ofRank rank).lower < (ofRank rank).value := by
    rw [lower, value]
    exact Nat.mul_lt_mul_of_pos_right (by omega) scale_pos
  have above : (ofRank rank).value < (ofRank rank).upper := by
    rw [value, upper]
    exact Nat.mul_lt_mul_of_pos_right (by omega) scale_pos
  rw [holds]
  split <;> simp only [Bool.and_eq_true, decide_eq_true_eq] <;> omega

theorem lower_pos {rank : Nat} (positive : 0 < rank) : 0 < (ofRank rank).lower := by
  obtain ⟨scale, scale_pos, scaled⟩ := ofRank_scaled
  have some : units 0 < units rank := units_strictMono positive
  rw [(scaled rank).1]
  exact Nat.mul_pos (by omega) scale_pos

/-- No decimal rounds to two magnitudes: the intervals of two ranks in order have at most an end in
    common, that of neighbours, and one of two neighbours has its ends left out. -/
theorem not_holds_of_lt {r s n : Nat} (less : r < s) (inR : (ofRank r).holds n = true)
    (inS : (ofRank s).holds n = true) : False := by
  obtain ⟨-, upTo, openR⟩ := bounds_of_holds inR
  obtain ⟨fromS, -, openS⟩ := bounds_of_holds inS
  obtain ⟨scale, scale_pos, scaled⟩ := ofRank_scaled
  have above : units (r + 1) ≤ units s := units_strictMono.monotone (by omega)
  rcases Nat.lt_or_ge (r + 1) s with apart | adjacent
  · have between : units r < units (s - 1) := units_strictMono (by omega)
    have gap : (ofRank r).upper < (ofRank s).lower := by
      rw [(scaled r).2.2, (scaled s).1]
      exact Nat.mul_lt_mul_of_pos_right (by omega) scale_pos
    omega
  · obtain rfl : s = r + 1 := by omega
    have shared : (ofRank r).upper = (ofRank (r + 1)).lower := by
      rw [(scaled r).2.2, (scaled (r + 1)).1, Nat.add_sub_cancel]
    rcases Nat.mod_two_eq_zero_or_one r with even | odd
    · have left : (ofRank (r + 1)).closed = false := by
        show ((r + 1) % 2 == 0) = false
        rw [show (r + 1) % 2 = 1 by omega]
        rfl
      have := openS left
      omega
    · have left : (ofRank r).closed = false := by
        show (r % 2 == 0) = false
        rw [odd]
        rfl
      have := openR left
      omega

theorem rank_unique {r s n : Nat} (inR : (ofRank r).holds n = true)
    (inS : (ofRank s).holds n = true) : r = s := by
  rcases Nat.lt_trichotomy r s with less | same | more
  · exact (not_holds_of_lt less inR inS).elim
  · exact same
  · exact (not_holds_of_lt more inS inR).elim

/-! ## The search -/

/-- A point that is taken lies in the interval. -/
theorem holds_multiple {i : Interval} {tie : Tie} {step n : Nat}
    (h : i.multiple? tie step = some n) : i.holds (n * step) = true := by
  unfold multiple? at h
  cases below : i.holds (i.value / step * step) <;>
    cases above : i.holds ((i.value / step + 1) * step) <;>
    simp only [below, above] at h
  · simp at h
  · rw [← Option.some.inj h]
    exact above
  · rw [← Option.some.inj h]
    exact below
  · have either : n = i.value / step ∨ n = i.value / step + 1 := by
      split at h
      · exact .inl (Option.some.inj h).symm
      · split at h
        · exact .inr (Option.some.inj h).symm
        · cases tie with
          | up => exact .inr (Option.some.inj h).symm
          | even =>
            have taken := Option.some.inj h
            omega
    rcases either with rfl | rfl
    · exact below
    · exact above

/-- The search ends at a decimal in the interval, on no finer a grid than the magnitude itself. -/
theorem holds_coarsest {i : Interval} (inside : i.holds i.value = true) (tie : Tie) (k : Nat) :
    -1075 ≤ (i.coarsest tie k).exponent ∧ i.holds (i.coarsest tie k).amount = true := by
  induction k with
  | zero =>
    refine ⟨Int.le_refl _, ?_⟩
    rw [coarsest, amount]
    simpa using inside
  | succ k ih =>
    rw [coarsest]
    split
    · next n found =>
      refine ⟨by simp; omega, ?_⟩
      have power : ((k + 1 : Nat) - 1075 + 1075 : Int).toNat = k + 1 := by omega
      rw [amount, power]
      exact holds_multiple found
    · exact ih

end Interval

/-- The shortest decimal of a magnitude rounds to it. -/
theorem holds_shortest (tie : Tie) {rank : Nat} (positive : 0 < rank) :
    -1075 ≤ (shortest tie rank).exponent ∧
      (Interval.ofRank rank).holds (shortest tie rank).amount = true :=
  Interval.holds_coarsest (Interval.holds_value positive) tie _

end Decimal

end MapStyle
