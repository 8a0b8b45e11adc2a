import TypedClient.Number.Binary64

/-!
# The shortest decimal of a floating-point number

Of all decimals that round to a given number, `shortest` takes one with the fewest digits, and of
those the nearest.  It looks at the grids of one, two, up to seventeen digits in turn: if a point of
a grid rounds to the number, then so does one of the two points next to the number, so the first
grid on which one of these two fits has the fewest digits possible.

`DecimalNotation.render` writes such a decimal out; where the point stands, and from where on a power of ten is
written instead, is the choice of a notation.
-/

namespace TypedClient

/-- The decimal `digits * 10 ^ exponent`. -/
structure Decimal where
  /-- The digits, without trailing zeros. -/
  digits : Nat
  /-- The power of ten. -/
  exponent : Int
deriving DecidableEq

namespace Decimal

/-- Moves trailing zeros into the power of ten. -/
def trim (digits : Nat) (exponent : Int) : Decimal :=
  if digits = 0 then ⟨0, 0⟩
  else if digits % 10 = 0 then trim (digits / 10) (exponent + 1)
  else ⟨digits, exponent⟩
termination_by digits
decreasing_by omega

end Decimal

namespace Binary64

/-- The positive reals that round to a number: between `low` and `high`, counted in units of
`2 ^ (exponent - 2)`, with the ends if `closed`. -/
structure Neighbourhood where
  /-- The lower end. -/
  low : Nat
  /-- The number itself. -/
  value : Nat
  /-- The upper end. -/
  high : Nat
  /-- Whether the ends belong to it. -/
  closed : Bool

/-- The neighbourhood of a number that is not zero.  Below a power of two the numbers lie twice as
dense, so the lower end is nearer there. -/
def neighbourhood (x : Binary64) : Neighbourhood where
  low := 4 * x.significand - (if x.significand = Nat.pow 2 52 ∧ -1074 < x.exponent then 1 else 2)
  value := 4 * x.significand
  high := 4 * x.significand + 2
  closed := x.significand % 2 = 0

/-- A count of units of `2 ^ (exponent - 2)` over the spacing `10 ^ grid`, as a ratio. -/
def overGrid (x : Binary64) (units : Nat) (grid : Int) : Nat × Nat :=
  let e := x.exponent - 2
  let num := units * Nat.pow 2 e.toNat * Nat.pow 10 (-grid).toNat
  let den := Nat.pow 2 (-e).toNat * Nat.pow 10 grid.toNat
  (num, den)

/-- Whether the point `k` of the grid `10 ^ grid` rounds to the number. -/
def rounds (x : Binary64) (grid : Int) (k : Nat) : Bool :=
  let area := x.neighbourhood
  let (low, d) := x.overGrid area.low grid
  let (high, _) := x.overGrid area.high grid
  if area.closed then low ≤ k * d && k * d ≤ high else low < k * d && k * d < high

/-- The point of a grid nearest to the number among the two next to it, if it rounds to the number. -/
def onGrid (x : Binary64) (grid : Int) : Option Nat :=
  let (n, d) := x.overGrid x.neighbourhood.value grid
  let below := n / d
  let nearest := divideToEven n d
  let other := if nearest = below then below + 1 else below
  if nearest ≠ 0 ∧ x.rounds grid nearest then some nearest
  else if other ≠ 0 ∧ x.rounds grid other then some other
  else none

/-- The least `p` with `x < 10 ^ p`, or one more: how far the decimal point is to the right of the
first digit, estimated from the number of bits. -/
def magnitude (x : Binary64) : Int :=
  (((x.significand.log2 : Int) + 1 + x.exponent) * 30103) / 100000 + 1

/-- The first grid, from `magnitude - 1` downwards, with a point that rounds to the number; `tries`
bounds the number of grids. -/
def shortestFrom (x : Binary64) : (tries : Nat) → (grid : Int) → Decimal
  | 0, grid => Decimal.trim (divideToEven (x.overGrid (4 * x.significand) grid).1
      (x.overGrid (4 * x.significand) grid).2) grid
  | tries + 1, grid =>
    match x.onGrid grid with
    | some k => Decimal.trim k grid
    | none => shortestFrom x tries (grid - 1)

/-- The shortest decimal that rounds to the number, without its sign. -/
def shortest (x : Binary64) : Decimal :=
  if x.isZero then ⟨0, 0⟩ else x.shortestFrom 20 x.magnitude

end Binary64

/-- How a decimal is written out. -/
structure DecimalNotation where
  /-- A decimal below `10 ^ (plainAbove)` is written with a power of ten. -/
  plainAbove : Int
  /-- A decimal from `10 ^ (plainBelow)` on is written with a power of ten. -/
  plainBelow : Int
  /-- What precedes a power of ten that is not negative. -/
  plus : String

namespace DecimalNotation

/-- A text of zeros. -/
def zeros (n : Nat) : String := String.ofList (List.replicate n '0')

/-- Writes a decimal; an integral one that is written without a power of ten ends in `.0`. -/
def render (style : DecimalNotation) (x : Decimal) : String :=
  if x.digits = 0 then "0.0"
  else
    let digits := toString x.digits
    let point : Int := digits.length + x.exponent
    if style.plainAbove < point ∧ point ≤ style.plainBelow then
      if 0 ≤ x.exponent then digits ++ zeros x.exponent.toNat ++ ".0"
      else if 0 < point then
        String.ofList (digits.toList.take point.toNat) ++ "." ++
          String.ofList (digits.toList.drop point.toNat)
      else "0." ++ zeros (-point).toNat ++ digits
    else
      let mantissa := match digits.toList with
        | [] => ""
        | [d] => String.ofList [d]
        | d :: rest => String.ofList (d :: '.' :: rest)
      let power := point - 1
      mantissa ++ "e" ++ (if 0 ≤ power then style.plus else "-") ++ toString power.natAbs

/-- Writes a floating-point number by its shortest decimal. -/
def renderBinary64 (style : DecimalNotation) (x : Binary64) : String :=
  (if x.negative then "-" else "") ++ style.render x.shortest

end DecimalNotation

end TypedClient
