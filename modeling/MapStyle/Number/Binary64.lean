/-!
# Double-precision numbers

A double is a sign and a magnitude, an infinity, or not a number. A finite magnitude is held by its
rank, its place in the increasing list of all magnitudes: zero has rank 0 and the least positive
magnitude rank 1. The magnitude itself is a whole number of units, a unit being that least positive
magnitude, `2 ^ -1074`; so every statement about values is one about natural numbers.
-/

namespace MapStyle

/-- The rank that the first magnitude beyond the finite ones would have. -/
abbrev Binary64.rankLimit : Nat := 0x7FF0000000000000

/-- A double-precision number; the two zeros and the signs of infinities are kept apart. -/
inductive Binary64
  /-- The magnitude of the given rank with a sign. -/
  | finite (negative : Bool) (rank : Fin Binary64.rankLimit)
  | infinite (negative : Bool)
  | nan
  deriving DecidableEq

namespace Binary64

/-- How many ranks lie in a block of even spacing, `2 ^ 52`. -/
def blockSize : Nat := 0x10000000000000

/-- The magnitude of a rank in units. Each block after the first two has twice the spacing of the
    block before. -/
def units (rank : Nat) : Nat :=
  if rank < blockSize then rank
  else (blockSize + rank % blockSize) * Nat.pow 2 (rank / blockSize - 1)

/-- The largest rank whose magnitude is at most `n` units. -/
def rankBelow (n : Nat) : Nat :=
  if n < 2 * blockSize then n
  else n / Nat.pow 2 (n.log2 - 52) + (n.log2 - 52) * blockSize

/-- The rank nearest to `num / den` units; halfway the even one. -/
def nearestRank (num den : Nat) : Nat :=
  let rank := rankBelow (num / den)
  let middle := den * (units rank + units (rank + 1))
  if 2 * num < middle then rank
  else if middle < 2 * num then rank + 1
  else rank + rank % 2

/-- The number with this sign and rank; a rank beyond the finite ones is an infinity. -/
def ofRank (negative : Bool) (rank : Nat) : Binary64 :=
  if h : rank < rankLimit then .finite negative ⟨rank, h⟩ else .infinite negative

/-- Positive zero. -/
def zero : Binary64 := .finite false ⟨0, by decide⟩

/-- One. -/
def one : Binary64 := .finite false ⟨0x3FF0000000000000, by decide⟩

/-- The double nearest to `± digits · 10 ^ exponent`. The two early answers spare the powers of
    ten that no double can reach. -/
def ofDecimal (negative : Bool) (digits : Nat) (exponent : Int) : Binary64 :=
  if digits = 0 then .finite negative ⟨0, by decide⟩
  else if 400 < exponent then .infinite negative
  else if exponent + digits.log2 / 3 + 1 < -400 then .finite negative ⟨0, by decide⟩
  else
    ofRank negative
      (nearestRank (digits * Nat.pow 10 exponent.toNat * Nat.pow 2 1074)
        (Nat.pow 10 (-exponent).toNat))

/-- The double nearest to a whole number. -/
def ofInt (n : Int) : Binary64 := ofDecimal (n < 0) n.natAbs 0

/-- Numbers that are neither an infinity nor missing. -/
def isFinite : Binary64 → Bool
  | .finite _ _ => true
  | _ => false

/-- Strictly greater than zero; a missing number is not. -/
def isPositive : Binary64 → Bool
  | .finite negative rank => !negative && rank.val != 0
  | .infinite negative => !negative
  | .nan => false

/-- Equality of values: the two zeros are equal, and a missing number equals nothing. -/
def same : Binary64 → Binary64 → Bool
  | .finite s r, .finite t q => r == q && (s == t || r.val == 0)
  | .infinite s, .infinite t => s == t
  | _, _ => false

/-- Values that are compared as numbers: this is what `==` means wherever numbers occur. -/
instance : BEq Binary64 := ⟨same⟩

end Binary64

end MapStyle
