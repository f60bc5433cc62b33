import MapStyle.Number.Binary64

/-!
# The shortest decimal that reads back

Of the decimals that round to a given magnitude, the one with the fewest digits, and of those the
nearest. The search works on grids: a grid of step `10 ^ k` is the coarser, the fewer digits its
points have, and if any point of a grid rounds to the magnitude then so does one of the two points
next to it. All lengths are whole multiples of `10 ^ -1075`, in which the magnitude, the ends of
its rounding interval and every grid step are natural numbers.
-/

namespace MapStyle

/-- The number `digits · 10 ^ exponent`. -/
structure Decimal where
  digits : Nat
  exponent : Int

/-- Which of two equally near grid points is taken. -/
inductive Tie
  /-- The upper one. -/
  | up
  /-- The one whose digits make an even number. -/
  | even

namespace Decimal

/-- The open or closed interval of the decimals that round to a magnitude, and the magnitude. -/
structure Interval where
  lower : Nat
  value : Nat
  upper : Nat
  closed : Bool

/-- The decimals that round to the magnitude of a positive rank, in multiples of `10 ^ -1075`:
    from halfway to the rank below to halfway to the rank above, ends included for an even rank. -/
def Interval.ofRank (rank : Nat) : Interval :=
  { lower := (Binary64.units (rank - 1) + Binary64.units rank) * Nat.pow 5 1075
    value := Binary64.units rank * 2 * Nat.pow 5 1075
    upper := (Binary64.units rank + Binary64.units (rank + 1)) * Nat.pow 5 1075
    closed := rank % 2 == 0 }

/-- Whether a point lies in the interval. -/
def Interval.holds (i : Interval) (n : Nat) : Bool :=
  if i.closed then i.lower ≤ n && n ≤ i.upper else i.lower < n && n < i.upper

/-- The multiple of `step` taken for the interval's value, if one next to the value lies in it. -/
def Interval.multiple? (i : Interval) (tie : Tie) (step : Nat) : Option Nat :=
  let below := i.value / step
  let above := below + 1
  match i.holds (below * step), i.holds (above * step) with
  | false, false => none
  | true, false => some below
  | false, true => some above
  | true, true =>
    let toBelow := i.value - below * step
    let toAbove := above * step - i.value
    if toBelow < toAbove then some below
    else if toAbove < toBelow then some above
    else
      match tie with
      | .up => some above
      | .even => some (below + below % 2)

/-- The coarsest grid of step at most `10 ^ k` that meets the interval, and its point. -/
def Interval.coarsest (i : Interval) (tie : Tie) : Nat → Decimal
  | 0 => ⟨i.value, -1075⟩
  | k + 1 =>
    match i.multiple? tie (Nat.pow 10 (k + 1)) with
    | some n => ⟨n, (k + 1 : Nat) - 1075⟩
    | none => i.coarsest tie k

/-- The shortest decimal that rounds to the magnitude of a positive rank. The first grid tried has
    a step beyond the interval. -/
def shortest (tie : Tie) (rank : Nat) : Decimal :=
  let i := Interval.ofRank rank
  i.coarsest tie (i.upper.log2 / 3 + 1)

end Decimal

end MapStyle
