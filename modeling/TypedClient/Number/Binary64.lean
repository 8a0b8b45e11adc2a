/-!
# Binary floating point with 53 significant bits

A finite number of the format binary64, held as a sign, a significand and a power of two.  Nothing
here uses the machine's floating-point unit: a ratio of natural numbers is rounded by exact
arithmetic (`roundRatio`), to the nearest number of the format and to the even one at a tie, and
every other operation is an instance of that.

Two readers of decimal notation are built on it.  `ofDecimal` rounds the decimal once.  `ofScaled`
rounds the digits first and then the product with a power of ten, which is what a reader does that
keeps only a machine word of digits; the two differ in the last bit for some numbers.
-/

namespace TypedClient

/-- The number `± significand * 2 ^ exponent`.  A number is represented once: `significand` is below
`2 ^ 53`, `exponent` is at least `-1074`, and `significand` is below `2 ^ 52` only where `exponent`
is `-1074`.  The two zeros differ in their sign. -/
structure Binary64 where
  /-- Whether the sign is minus. -/
  negative : Bool
  /-- The digits, as a natural number. -/
  significand : Nat
  /-- The power of two. -/
  exponent : Int
deriving DecidableEq

namespace Binary64

/-- Zero of a given sign. -/
def zero (negative : Bool) : Binary64 := ⟨negative, 0, -1074⟩

/-- Whether the number is zero, of either sign. -/
def isZero (x : Binary64) : Bool := x.significand == 0

/-- The number with the sign turned. -/
def neg (x : Binary64) : Binary64 := { x with negative := !x.negative }

/-- The quotient of two natural numbers, rounded to the nearest one and to the even one at a tie. -/
def divideToEven (num den : Nat) : Nat :=
  let quotient := num / den
  let rest := num % den
  if 2 * rest < den then quotient
  else if den < 2 * rest then quotient + 1
  else if quotient % 2 = 0 then quotient else quotient + 1

/-- `num / (den * 2 ^ e)` as a quotient of natural numbers. -/
def scaleRatio (num den : Nat) (e : Int) : Nat × Nat :=
  if 0 ≤ e then (num, den * Nat.pow 2 e.toNat) else (num * Nat.pow 2 (-e).toNat, den)

/-- The exponent that gives a positive ratio 53 significant bits, or the least one of the format. -/
def exponentFor (num den : Nat) : Int :=
  let low : Int := (num.log2 : Int) - (den.log2 : Int) - 53
  let (n, d) := scaleRatio num den low
  let e := if Nat.pow 2 53 * d ≤ n then low + 1 else low
  max e (-1074)

/-- The number of the format nearest to a ratio; none where it lies beyond the greatest one. -/
def roundRatio (negative : Bool) (num den : Nat) : Option Binary64 :=
  if num = 0 then some (zero negative)
  else
    let e := exponentFor num den
    let (n, d) := scaleRatio num den e
    let m := divideToEven n d
    let (m, e) := if m = Nat.pow 2 53 then (Nat.pow 2 52, e + 1) else (m, e)
    if 971 < e then none else some ⟨negative, m, e⟩

/-- The number nearest to a natural number. -/
def ofNat? (n : Nat) : Option Binary64 := roundRatio false n 1

/-- The number as a ratio of natural numbers, without its sign. -/
def ratio (x : Binary64) : Nat × Nat :=
  if 0 ≤ x.exponent then (x.significand * Nat.pow 2 x.exponent.toNat, 1)
  else (x.significand, Nat.pow 2 (-x.exponent).toNat)

/-- The rounded product; none where it is too great. -/
def mul? (x y : Binary64) : Option Binary64 :=
  roundRatio (x.negative != y.negative) (x.ratio.1 * y.ratio.1) (x.ratio.2 * y.ratio.2)

/-- The rounded quotient by a number that is not zero; none where it is too great. -/
def div? (x y : Binary64) : Option Binary64 :=
  roundRatio (x.negative != y.negative) (x.ratio.1 * y.ratio.2) (x.ratio.2 * y.ratio.1)

/-- The number nearest to a decimal `digits * 10 ^ exponent`; none where it is too great.  A decimal
far outside the range of the format is recognised by its length. -/
def ofDecimal (negative : Bool) (digits : Nat) (exponent : Int) : Option Binary64 :=
  let length : Int := (toString digits).length
  if digits = 0 ∨ length + exponent < -330 then some (zero negative)
  else if 310 < length + exponent then none
  else if 0 ≤ exponent then roundRatio negative (digits * Nat.pow 10 exponent.toNat) 1
  else roundRatio negative digits (Nat.pow 10 (-exponent).toNat)

/-- The number nearest to a power of ten. -/
def powerOfTen (n : Nat) : Option Binary64 := ofDecimal false 1 n

/-- Divides by `10 ^ 308` a number of times; once the result is zero it stays so. -/
def shiftDown308 (x : Binary64) : (times : Nat) → Option Binary64
  | 0 => some x
  | times + 1 =>
    if x.isZero then some x
    else ((powerOfTen 308).bind x.div?).bind fun y => shiftDown308 y times

/-- Divides by `10 ^ n`, 308 places at a time and the rest at the end. -/
def shiftDown (x : Binary64) (n : Nat) : Option Binary64 :=
  let times := (n - 1) / 308
  (x.shiftDown308 times).bind fun y =>
    if y.isZero then some y else (powerOfTen (n - 308 * times)).bind y.div?

/-- The decimal `digits * 10 ^ exponent`, rounded at every step: the digits, then the product with
the power of ten, itself rounded.  None where the result is too great. -/
def ofScaled (digits : Nat) (exponent : Int) : Option Binary64 :=
  match ofNat? digits with
  | none => none
  | some x =>
    if exponent < 0 then shiftDown x (-exponent).toNat
    else if exponent ≤ 308 then (powerOfTen exponent.toNat).bind x.mul?
    else if x.isZero then some x else none

end Binary64

end TypedClient
