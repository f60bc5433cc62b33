import MapStyle.Number.Shortest

/-!
# Numbers as text

Documents and snapshots spell the shortest digits of a number in two ways. Both are values of
`Spelling`: which magnitudes are written out plainly, what marks a whole number, whether zero keeps
its sign, and which of two equally near digit strings is taken.
-/

namespace MapStyle

/-- The decisions of one way to spell numbers. -/
structure Spelling where
  /-- Whether a number whose first digit counts `10 ^ n` is written without an exponent. -/
  plain : Int → Bool
  /-- Follows the digits of a whole number that is written without an exponent. -/
  wholeEnd : List Char
  /-- Whether negative zero shows its sign. -/
  signedZero : Bool
  /-- Which of two equally near digit strings is taken. -/
  tie : Tie

namespace Spelling

/-- The decimal digits of a number. -/
def digits (n : Nat) : List Char := Nat.toDigits 10 n

/-- Digits with the point where the exponent puts it, filled up with zeros. -/
def positional (wholeEnd : List Char) (d : Decimal) : List Char :=
  let ds := digits d.digits
  let places := (-d.exponent).toNat
  if places = 0 then ds ++ List.replicate d.exponent.toNat '0' ++ wholeEnd
  else if places < ds.length then
    ds.take (ds.length - places) ++ '.' :: ds.drop (ds.length - places)
  else '0' :: '.' :: (List.replicate (places - ds.length) '0' ++ ds)

/-- One digit, the point and the others, and the power of ten that the first digit counts. -/
def scientific (d : Decimal) (power : Int) : List Char :=
  let fraction :=
    match (digits d.digits).drop 1 with
    | [] => []
    | rest => '.' :: rest
  (digits d.digits).take 1 ++ fraction ++
    'e' :: (if power < 0 then '-' else '+') :: digits power.natAbs

/-- The text of a positive magnitude. -/
def magnitude (s : Spelling) (rank : Nat) : List Char :=
  let d := Decimal.shortest s.tie rank
  let power := d.exponent + (digits d.digits).length - 1
  if s.plain power then positional s.wholeEnd d else scientific d power

/-- A minus sign before what is negative. -/
def signed (negative : Bool) (text : List Char) : List Char :=
  if negative then '-' :: text else text

/-- The text of a number. -/
def spell (s : Spelling) : Binary64 → String
  | .nan => "NaN"
  | .infinite negative => String.ofList (signed negative "inf".toList)
  | .finite negative rank =>
    if rank.val = 0 then String.ofList (signed (negative && s.signedZero) ('0' :: s.wholeEnd))
    else String.ofList (signed negative (s.magnitude rank.val))

end Spelling

namespace Binary64

/-- Documents never use an exponent, write whole numbers without a point, and zero without a
    sign; halfway the upper digits are taken. -/
def documentSpelling : Spelling := ⟨fun _ => true, [], false, .up⟩

/-- Snapshots write a number out from `0.00001` up to below `10 ^ 16`, always with a point, and
    the others with an exponent; halfway the even digits are taken. -/
def snapshotSpelling : Spelling := ⟨fun n => -5 ≤ n && n ≤ 15, ".0".toList, true, .even⟩

/-- A number as documents write it (`format_number`). -/
def documentText (x : Binary64) : String := documentSpelling.spell x

/-- A number as snapshots and messages write it. -/
def snapshotText (x : Binary64) : String := snapshotSpelling.spell x

end Binary64

end MapStyle
