/-
Decimal numbers and the binary64 values they stand for.

* `Decimal`: `digits * 10 ^ exponent`.
* `Decimal.toBits`: the bits of the nearest binary64 value, ties to even;
  beyond the largest value they are those of infinity.
* `Binary`: a finite value `m * 2 ^ q`, decoded from its bits.
-/
namespace Branchwise

/-- The number `digits * 10 ^ exponent`. -/
structure Decimal where
  digits : Nat
  exponent : Int
  deriving Repr, DecidableEq, Inhabited

/-- A finite binary64 value `m * 2 ^ q`. -/
structure Binary where
  m : Nat
  q : Int
  /-- The value below is half as far away as the value above. -/
  narrowBelow : Bool

namespace Decimal

/-- The number of decimal digits of a natural number. -/
def digitCount (n : Nat) : Nat :=
  (Nat.toDigits 10 n).length

/-- The power of two. -/
def twoTo (n : Nat) : Nat := Nat.pow 2 n

/-- The power of ten. -/
def tenTo (n : Nat) : Nat := Nat.pow 10 n

/-- The bits of infinity. -/
def infinityBits : Nat := 2047 * twoTo 52

/-- A quotient rounded to the nearest whole number, a half to the even one. -/
def roundDiv (num den : Nat) : Nat :=
  let low := num / den
  match compare (2 * (num % den)) den with
  | .lt => low
  | .gt => low + 1
  | .eq => low + low % 2

/-- The bits of the binary64 value nearest to `num / den`. With `2 ^ q` as the unit
in the last place, a mantissa `m` has the bits `(q + 1074) * 2 ^ 52 + m`, below and
above the least normal value alike. -/
def nearestBits (num den : Nat) : Nat :=
  let scaled (q : Int) : Nat × Nat := (num * twoTo (-q).toNat, den * twoTo q.toNat)
  let q : Int := max ((Nat.log2 num : Int) - Nat.log2 den - 53) (-1074)
  let q := if twoTo 53 ≤ (scaled q).1 / (scaled q).2 then q + 1 else q
  let m := roundDiv (scaled q).1 (scaled q).2
  min ((q + 1074).toNat * twoTo 52 + m) infinityBits

/-- The bits of the binary64 value nearest to the number. Numbers of 400 or
more places before the point exceed every finite value, and those that start
400 places behind it round to zero. -/
def toBits (d : Decimal) : Nat :=
  let lead := d.exponent + digitCount d.digits
  if d.digits = 0 || lead < -400 then 0
  else if 400 < lead then infinityBits
  else nearestBits (d.digits * tenTo d.exponent.toNat) (tenTo (-d.exponent).toNat)

end Decimal

/-- The finite value with these bits. -/
def Binary.ofBits (bits : Nat) : Binary :=
  let e := bits / Decimal.twoTo 52
  let f := bits % Decimal.twoTo 52
  if e = 0 then ⟨f, -1074, false⟩
  else ⟨Decimal.twoTo 52 + f, (e : Int) - 1075, f == 0 && 1 < e⟩

end Branchwise
