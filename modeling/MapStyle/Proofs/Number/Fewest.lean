import MapStyle.Number.Spelling
import MapStyle.Proofs.Number.Nearest

/-!
# Fewest digits

The search for the shortest decimal goes from coarse grids to fine ones, and misses no grid that
meets the interval. A decimal of fewer digits than the one that is found would be on a coarser grid,
or have a point of a coarser grid between itself and that one.
-/

namespace MapStyle.Decimal

/-- The exact value of a decimal. -/
def value (d : Decimal) : ℚ := d.digits * 10 ^ d.exponent

namespace Interval

variable {i : Interval} {tie : Tie}

/-! ## Grids -/

theorem not_holds_of_multiple?_eq_none {step : Nat} (none : i.multiple? tie step = none) :
    i.holds (i.value / step * step) = false ∧ i.holds ((i.value / step + 1) * step) = false := by
  unfold multiple? at none
  cases below : i.holds (i.value / step * step) <;>
    cases above : i.holds ((i.value / step + 1) * step) <;>
    simp only [below, above] at none
  · exact ⟨rfl, rfl⟩
  · cases none
  · cases none
  · split at none
    · cases none
    · split at none
      · cases none
      · cases tie <;> cases none

/-- If any point of a grid lies in the interval, so does one of the two next to the value. -/
theorem not_holds_mul {step : Nat} (positive : 0 < step) (inside : i.holds i.value = true)
    (none : i.multiple? tie step = none) (n : Nat) : i.holds (n * step) = false := by
  obtain ⟨below, above⟩ := not_holds_of_multiple?_eq_none none
  by_contra met
  rw [Bool.not_eq_false, ← contains_natCast] at met
  rw [← contains_natCast] at inside
  -- between such a point and the value there is one of the two, and the interval has no gaps
  rcases Nat.lt_or_ge (i.value / step) n with beyond | within
  · have least : i.value ≤ (i.value / step + 1) * step :=
      (Nat.lt_mul_of_div_lt (Nat.lt_succ_self _) positive).le
    have next : (i.value / step + 1) * step ≤ n * step := Nat.mul_le_mul_right _ beyond
    have reached := inside.between met (Nat.cast_le.2 least) (Nat.cast_le.2 next)
    rw [contains_natCast, above] at reached
    cases reached
  · have greatest : i.value / step * step ≤ i.value := Nat.div_mul_le_self _ _
    have previous : n * step ≤ i.value / step * step := Nat.mul_le_mul_right _ within
    have reached := met.between inside (Nat.cast_le.2 previous) (Nat.cast_le.2 greatest)
    rw [contains_natCast, below] at reached
    cases reached

/-- The search ends on a grid such that no coarser one up to where it began meets the interval. -/
theorem coarsest_grid (inside : i.holds i.value = true) (tie : Tie) (k : Nat) :
    ∃ j : Nat, (i.coarsest tie k).exponent = j - 1075 ∧
      ∀ l, j < l → l ≤ k → ∀ n, i.holds (n * 10 ^ l) = false := by
  induction k with
  | zero => exact ⟨0, rfl, fun l later upTo => absurd later (Nat.not_lt.2 upTo)⟩
  | succ k ih =>
    rw [coarsest]
    split
    · exact ⟨k + 1, rfl, fun l later upTo => absurd later (Nat.not_lt.2 upTo)⟩
    · next none =>
      obtain ⟨j, exponent, missed⟩ := ih
      refine ⟨j, exponent, fun l later upTo n => ?_⟩
      rcases Nat.le_succ_iff.1 upTo with before | rfl
      · exact missed l later before n
      · exact not_holds_mul (Nat.pow_pos (by decide)) inside none n

/-- A positive multiple of a step beyond the interval does not lie in it. -/
theorem not_holds_of_upper_lt {step : Nat} (far : i.upper < step) (least : 0 < i.lower) (n : Nat) :
    i.holds (n * step) = false := by
  by_contra met
  obtain ⟨above, upTo, -⟩ := bounds_of_holds (Bool.not_eq_false _ ▸ met)
  have some : 0 < n := by
    rcases Nat.eq_zero_or_pos n with rfl | positive
    · rw [Nat.zero_mul] at above
      omega
    · exact positive
  have one : 1 * step ≤ n * step := Nat.mul_le_mul_right _ some
  omega

end Interval

/-- A power of ten that is greater than a number. -/
theorem lt_ten_pow_log2 (n : Nat) : n < 10 ^ (n.log2 / 3 + 1) :=
  calc n < 2 ^ (n.log2 + 1) := Nat.lt_log2_self
    _ ≤ 2 ^ (3 * (n.log2 / 3 + 1)) := Nat.pow_le_pow_right (by decide) (by omega)
    _ = 8 ^ (n.log2 / 3 + 1) := Nat.pow_mul ..
    _ ≤ 10 ^ (n.log2 / 3 + 1) := Nat.pow_le_pow_left (by decide) _

/-- The shortest decimal is on a grid such that no coarser one meets the interval. -/
theorem shortest_grid (tie : Tie) {rank : Nat} (positive : 0 < rank) :
    ∃ j : Nat, (shortest tie rank).exponent = j - 1075 ∧
      ∀ l, j < l → ∀ n, (Interval.ofRank rank).holds (n * 10 ^ l) = false := by
  obtain ⟨j, exponent, missed⟩ := Interval.coarsest_grid (Interval.holds_value positive) tie
    ((Interval.ofRank rank).upper.log2 / 3 + 1)
  refine ⟨j, exponent, fun l later n => ?_⟩
  rcases Nat.lt_or_ge ((Interval.ofRank rank).upper.log2 / 3 + 1) l with beyond | within
  · refine Interval.not_holds_of_upper_lt ?_ (Interval.lower_pos positive) n
    exact (lt_ten_pow_log2 _).trans_le (Nat.pow_le_pow_right (by decide) beyond.le)
  · exact missed l later within n

/-! ## Digits -/

/-- A value as a multiple of `10 ^ -1075`. -/
theorem value_scaled (d : Decimal) : d.value * 10 ^ 1075 = d.digits * 10 ^ (d.exponent + 1075) := by
  rw [value, mul_assoc, zpow_add₀ (by norm_num)]
  rfl

theorem value_scaled_natCast {d : Decimal} {j : Nat} (exponent : d.exponent = j - 1075) :
    d.value * 10 ^ 1075 = (d.digits * 10 ^ j : Nat) := by
  rw [value_scaled, exponent, sub_add_cancel, zpow_natCast, Nat.cast_mul, Nat.cast_pow,
    Nat.cast_ofNat]

theorem digits_lt (n : Nat) : n < 10 ^ (Spelling.digits n).length :=
  (Nat.length_toDigits_le_iff (by decide) Nat.length_toDigits_pos).1 le_rfl

theorem le_digits {n k : Nat} (some : 0 < k) (more : k < (Spelling.digits n).length) :
    10 ^ k ≤ n := by
  by_contra less
  have few := (Nat.length_toDigits_le_iff (by decide) some).2 (Nat.lt_of_not_le less)
  exact absurd more (Nat.not_lt.2 few)

section Shortest

variable (tie : Tie) {rank : Nat}

theorem contains_shortest (positive : 0 < rank) :
    (Interval.ofRank rank).Contains ((shortest tie rank).value * 10 ^ 1075) := by
  obtain ⟨j, exponent, -⟩ := shortest_grid tie positive
  have inside := (holds_shortest tie positive).2
  have power : ((shortest tie rank).exponent + 1075).toNat = j := by omega
  rw [amount, power, Nat.pow_eq] at inside
  rw [value_scaled_natCast exponent, Interval.contains_natCast]
  exact inside

/-- The shortest decimal rounds to the value that it was sought for. -/
theorem rounds_shortest (positive : 0 < rank) :
    Binary64.Rounds (shortest tie rank).value false rank :=
  (Interval.rounds_iff_contains positive).2 (contains_shortest tie positive)

/-- The last digit of the shortest decimal is not zero. -/
theorem shortest_digits_mod (positive : 0 < rank) : (shortest tie rank).digits % 10 ≠ 0 := by
  intro last
  obtain ⟨j, exponent, missed⟩ := shortest_grid tie positive
  have inside := contains_shortest tie positive
  have coarser : (shortest tie rank).digits * 10 ^ j =
      (shortest tie rank).digits / 10 * 10 ^ (j + 1) := by
    rw [Nat.pow_succ', ← Nat.mul_assoc, Nat.div_mul_cancel (Nat.dvd_of_mod_eq_zero last)]
  rw [value_scaled_natCast exponent, coarser, Interval.contains_natCast,
    missed _ (Nat.lt_succ_self j)] at inside
  cases inside

/-- What rounds to the value has at least as many digits. -/
theorem shortest_fewest (positive : 0 < rank) {d : Decimal}
    (rounds : Binary64.Rounds d.value false rank) :
    (Spelling.digits (shortest tie rank).digits).length ≤ (Spelling.digits d.digits).length := by
  by_contra fewer
  rw [Nat.not_le] at fewer
  obtain ⟨j, exponent, missed⟩ := shortest_grid tie positive
  have inside := (Interval.rounds_iff_contains positive).1 rounds
  rcases Int.lt_or_le j (d.exponent + 1075) with coarser | finer
  · -- the decimal itself is on a grid that does not meet the interval
    obtain ⟨l, power⟩ : ∃ l : Nat, d.exponent = l - 1075 :=
      ⟨(d.exponent + 1075).toNat, by omega⟩
    rw [value_scaled_natCast power, Interval.contains_natCast, missed l (by omega)] at inside
    cases inside
  · -- a power of ten on such a grid is not less than the decimal, nor greater than the other one
    obtain ⟨k, length⟩ : ∃ k, (Spelling.digits d.digits).length = k + 1 :=
      Nat.exists_eq_succ_of_ne_zero (Nat.length_toDigits_pos).ne'
    have below : d.value * 10 ^ 1075 ≤ (10 ^ (k + 1) * 10 ^ j : Nat) := by
      have digits : (d.digits : ℚ) ≤ (10 ^ (k + 1) : Nat) :=
        Nat.cast_le.2 (length ▸ digits_lt d.digits).le
      have power : (10 : ℚ) ^ (d.exponent + 1075) ≤ (10 ^ j : Nat) := by
        rw [Nat.cast_pow, Nat.cast_ofNat, ← zpow_natCast]
        exact zpow_le_zpow_right₀ (by norm_num) finer
      rw [value_scaled, Nat.cast_mul]
      exact mul_le_mul digits power (zpow_nonneg (by norm_num) _) (Nat.cast_nonneg _)
    have above : 10 ^ (k + 1) * 10 ^ j ≤ (shortest tie rank).digits * 10 ^ j :=
      Nat.mul_le_mul_right _ (le_digits (Nat.succ_pos k) (length ▸ fewer))
    have point : 10 ^ (k + 1) * 10 ^ j = 10 ^ k * 10 ^ (j + 1) := by
      rw [← Nat.pow_add, ← Nat.pow_add, Nat.add_right_comm, Nat.add_assoc]
    have reached := inside.between (contains_shortest tie positive) below
      (by rw [value_scaled_natCast exponent]; exact Nat.cast_le.2 above)
    rw [point, Interval.contains_natCast, missed _ (Nat.lt_succ_self j)] at reached
    cases reached

end Shortest

end MapStyle.Decimal
