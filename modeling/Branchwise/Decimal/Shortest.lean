/-
The fewest decimal digits that read back to a binary64 value, and how they are
laid out.

* `Binary.readsBack`: a decimal lies among the reals that round to the value.
* `Binary.shortest`: on the coarsest decimal grid with a point that reads back,
  the point nearest to the value; an exact tie goes to the even one.
* `Layout`, `layOut`: positional between `plainFrom` and `plainBelow`, else
  with an exponent that has a sign and at least two digits.
-/
import Branchwise.Decimal.Basic

namespace Branchwise

/-- Compares `a * 10 ^ i` with `n * 2 ^ j`, exactly. -/
def Decimal.compareScaled (a : Nat) (i : Int) (n : Nat) (j : Int) : Ordering :=
  compare (a * tenTo i.toNat * twoTo (-j).toNat) (n * twoTo j.toNat * tenTo (-i).toNat)

namespace Binary

open Decimal (compareScaled digitCount twoTo tenTo)

/-- Does the decimal round to the value? The ends of the interval count when
`m` is even. -/
def readsBack (x : Binary) (d : Decimal) : Bool :=
  let lo := if x.narrowBelow then 4 * x.m - 1 else 4 * x.m - 2
  let hi := 4 * x.m + 2
  let even := x.m % 2 == 0
  let below := compareScaled d.digits d.exponent lo (x.q - 2)
  let above := compareScaled d.digits d.exponent hi (x.q - 2)
  (below == .gt || (even && below == .eq)) && (above == .lt || (even && above == .eq))

/-- The least `k` with `m * 2 ^ q < 10 ^ k`, found near the estimate that the
binary length gives. -/
def scale (x : Binary) : Int :=
  let estimate := ((Nat.log2 x.m : Int) + x.q) * 30103 / 100000
  let holds (k : Int) : Bool := compareScaled 1 k x.m x.q == .gt
  ([estimate - 1, estimate, estimate + 1].find? holds).getD (estimate + 2)

/-- The point of the grid `10 ^ e` nearest to the value among those next to it
that read back. -/
def nearest? (x : Binary) (e : Int) : Option Decimal :=
  let num := x.m * twoTo x.q.toNat * tenTo (-e).toNat
  let den := twoTo (-x.q).toNat * tenTo e.toNat
  let low := num / den
  let lower : Decimal := ⟨low, e⟩
  let upper : Decimal := ⟨low + 1, e⟩
  match x.readsBack lower, x.readsBack upper with
  | true, false => some lower
  | false, true => some upper
  | false, false => none
  | true, true =>
    match compare (2 * (num % den)) den with
    | .lt => some lower
    | .gt => some upper
    | .eq => some (if low % 2 = 0 then lower else upper)

/-- Moves trailing zeros of the digits into the exponent. -/
def stripZeros : Nat → Decimal → Decimal
  | 0, d => d
  | fuel + 1, d =>
    if d.digits % 10 = 0 && d.digits != 0 then
      stripZeros fuel ⟨d.digits / 10, d.exponent + 1⟩
    else d

/-- The exact decimal value. -/
def exact (x : Binary) : Decimal :=
  ⟨x.m * twoTo x.q.toNat * Nat.pow 5 (-x.q).toNat, if x.q < 0 then x.q else 0⟩

/-- The fewest digits that read back; seventeen always suffice. -/
def shortest (x : Binary) : Decimal :=
  let k := x.scale
  let found := (List.range 17).findSome? fun (n : Nat) => x.nearest? (k - (n + 1 : Nat))
  let d := found.getD x.exact
  stripZeros (digitCount d.digits) d

end Binary

namespace Decimal

/-- How selected digits are written. -/
structure Layout where
  /-- The least exponent of the leading digit that is written positionally. -/
  plainFrom : Int
  /-- The least exponent above it that is not. -/
  plainBelow : Int
  /-- Whole numbers end in `.0`. -/
  pointZero : Bool
  /-- What stands for infinity. -/
  infinity : String

/-- A block of zeros. -/
def zeros (n : Nat) : List Char :=
  List.replicate n '0'

/-- The exponent part: a sign and at least two digits. -/
def exponentPart (e : Int) : List Char :=
  let ds := Nat.toDigits 10 e.natAbs
  'e' :: (if e < 0 then '-' else '+') :: zeros (2 - ds.length) ++ ds

/-- Writes a decimal whose digits do not end in zero. -/
def layOut (l : Layout) (d : Decimal) : List Char :=
  let ds := Nat.toDigits 10 d.digits
  let count : Int := ds.length
  -- the position of the point, counted from the first digit
  let point := if d.digits = 0 then 1 else d.exponent + count
  if l.plainFrom ≤ point - 1 ∧ point - 1 < l.plainBelow then
    if point ≤ 0 then '0' :: '.' :: zeros (-point).toNat ++ ds
    else if count ≤ point then
      ds ++ zeros (point - count).toNat ++ (if l.pointZero then ['.', '0'] else [])
    else ds.take point.toNat ++ '.' :: ds.drop point.toNat
  else
    ds.take 1 ++ (if count = 1 then [] else '.' :: ds.drop 1) ++ exponentPart (point - 1)

/-- Writes the binary64 value nearest to a number. -/
def render (l : Layout) (d : Decimal) : List Char :=
  let bits := d.toBits
  if bits = 0 then layOut l ⟨0, 0⟩
  else if bits = infinityBits then l.infinity.toList
  else layOut l (Binary.ofBits bits).shortest

end Decimal

end Branchwise
