import MapStyle.Number.Binary64
import Mathlib.Tactic.Ring

/-!
# Whole numbers as doubles

A whole number of 64 bits is far below the largest double, so rounding it never gives an infinity.
-/

namespace MapStyle.Binary64

theorem rankBelow_lt {n : Nat} {k : Nat} (bound : n < 2 ^ (k + 53)) :
    rankBelow n < (k + 2) * blockSize := by
  rw [rankBelow]
  split
  · next small =>
    calc n < 2 * blockSize := small
      _ ≤ (k + 2) * blockSize := Nat.mul_le_mul_right _ (by omega)
  · next large =>
    have size : blockSize = 2 ^ 52 := rfl
    have some : n ≠ 0 := by
      rintro rfl
      exact large (by decide)
    have log : n.log2 < k + 53 := (Nat.log2_lt some).2 bound
    have least : 52 ≤ n.log2 := by
      apply (Nat.le_log2 some).2
      omega
    have quotient : n / Nat.pow 2 (n.log2 - 52) < 2 * blockSize := by
      apply Nat.div_lt_of_lt_mul
      have below := Nat.lt_log2_self (n := n)
      calc n < 2 ^ (n.log2 + 1) := below
        _ = 2 ^ (n.log2 - 52) * 2 ^ 53 := by rw [← pow_add]; congr 1; omega
    have blocks : (n.log2 - 52) * blockSize ≤ k * blockSize := Nat.mul_le_mul_right _ (by omega)
    calc n / Nat.pow 2 (n.log2 - 52) + (n.log2 - 52) * blockSize
      _ < 2 * blockSize + k * blockSize := Nat.add_lt_add_of_lt_of_le quotient blocks
      _ = (k + 2) * blockSize := by ring

theorem nearestRank_le (num den : Nat) : nearestRank num den ≤ rankBelow (num / den) + 1 := by
  rw [nearestRank]
  split
  · omega
  split
  · omega
  · have := Nat.mod_lt (rankBelow (num / den)) (show 2 > 0 by decide)
    omega

/-- A whole number below `2 ^ 65`, counted in units of any power of two. -/
theorem scaled_lt {digits : Nat} (bound : digits < 2 ^ 65) (e : Nat) :
    digits * Nat.pow 10 0 * Nat.pow 2 e / Nat.pow 10 0 < 2 ^ (e + 12 + 53) := by
  show digits * 1 * 2 ^ e / 1 < 2 ^ (e + 12 + 53)
  rw [Nat.div_one, Nat.mul_one]
  calc digits * 2 ^ e
    _ < 2 ^ 65 * 2 ^ e := Nat.mul_lt_mul_of_pos_right bound (Nat.pow_pos (by decide))
    _ = 2 ^ (e + 12 + 53) := by rw [← pow_add, Nat.add_comm 65 e, Nat.add_assoc]

theorem nearestRank_lt {digits e : Nat} (bound : digits < 2 ^ 65) (least : e ≤ 1074) :
    nearestRank (digits * Nat.pow 10 0 * Nat.pow 2 e) (Nat.pow 10 0) < rankLimit := by
  have below := rankBelow_lt (scaled_lt bound e)
  have blocks : (e + 12 + 2) * blockSize ≤ 1088 * blockSize := Nat.mul_le_mul_right _ (by omega)
  have room : 1088 * blockSize < rankLimit := by decide
  have nearest := nearestRank_le (digits * Nat.pow 10 0 * Nat.pow 2 e) (Nat.pow 10 0)
  omega

theorem isFinite_ofRank {negative : Bool} {rank : Nat} (bound : rank < rankLimit) :
    (ofRank negative rank).isFinite = true := by
  rw [ofRank, dif_pos bound]
  rfl

/-- Whole numbers of 64 bits, with or without a sign, are doubles. -/
theorem isFinite_ofInt {n : Int} (bound : n.natAbs < 2 ^ 65) : (ofInt n).isFinite = true := by
  rw [ofInt, ofDecimal]
  split
  · rfl
  rw [if_neg (by decide), if_neg (by omega), Int.neg_zero, Int.toNat_zero]
  apply isFinite_ofRank
  generalize least : 1074 = e
  exact nearestRank_lt bound (by omega)

end MapStyle.Binary64
