/-! The shortest decimal that reads back as a given float. A finite positive float stands for
all reals that round to it; among the decimals in that interval the ones with fewest digits are
the candidates, and the one nearest to the float is chosen. -/

namespace SimResults.Number

/-- A finite positive float as `significand * 2 ^ power`. -/
structure Binary where
  significand : Nat
  power : Int

/-- The value `0.d₁d₂… * 10 ^ point`. -/
structure Decimal where
  digits : List Nat
  point : Int
deriving DecidableEq, Repr

/-- The bits of the fraction, and the first bit above them. -/
def fractionBound : Nat := 0x10000000000000

/-- Splits the bit pattern of a finite float, whose sign does not matter. -/
def Binary.ofBits (bits : Nat) : Binary :=
  let fraction : Nat := bits % fractionBound
  let exponent : Nat := bits / fractionBound % 0x800
  if exponent == 0 then ⟨fraction, -1074⟩ else ⟨fractionBound + fraction, (exponent : Int) - 1075⟩

def decimalLength (value : Nat) : Nat := (Nat.toDigits 10 value).length

/-- The interval of reals that round to a float, in units that make its bounds whole:
`low`, `value` and `high` over `unit`. The ends belong to it if `closed`. -/
structure Neighbourhood where
  low : Nat
  value : Nat
  high : Nat
  unit : Nat
  closed : Bool

/-- Below a power of two the next float is only half as far away as above it. -/
def Binary.neighbourhood (float : Binary) : Neighbourhood :=
  let scale := Nat.pow 2 float.power.toNat
  let below := if float.significand == fractionBound then 1 else 2
  { low := (4 * float.significand - below) * scale
    value := 4 * float.significand * scale
    high := (4 * float.significand + 2) * scale
    unit := 4 * Nat.pow 2 (-float.power).toNat
    closed := float.significand % 2 == 0 }

/-- The least `point` with `value < 10 ^ point`. -/
def Neighbourhood.point (near : Neighbourhood) : Int :=
  let whole := near.value / near.unit
  if whole > 0 then decimalLength whole
  else
    let inverse := (near.unit + near.value - 1) / near.value
    1 - (decimalLength (inverse - 1) : Int)

/-- The candidates among the multiples of `10 ^ power`: the two neighbours of the value on that
grid, as far as they lie in the interval. Of two the nearer is taken, and the upper one if they
are equally near. -/
def Neighbourhood.onGrid? (near : Neighbourhood) (power : Int) : Option Nat :=
  let step := near.unit * Nat.pow 10 power.toNat
  let factor := Nat.pow 10 (-power).toNat
  let inside (multiple : Nat) : Bool :=
    let point := multiple * step
    if near.closed then near.low * factor ≤ point && point ≤ near.high * factor
    else near.low * factor < point && point < near.high * factor
  let lower := near.value * factor / step
  let remainder := near.value * factor % step
  match inside lower, inside (lower + 1) with
  | true, true => some (if 2 * remainder < step then lower else lower + 1)
  | true, false => some lower
  | false, true => some (lower + 1)
  | false, false => none

/-- Tries grids with ever more digits. -/
def Neighbourhood.search (near : Neighbourhood) (point : Int) (digits : Nat) : Nat → Nat × Int
  | 0 => (near.value / near.unit, 0)
  | fuel + 1 =>
    let power := point - digits
    match near.onGrid? power with
    | some multiple => (multiple, power)
    | none => near.search point (digits + 1) fuel

/-- Seventeen digits tell all floats apart, so the search ends there at the latest. -/
def Binary.shortest (float : Binary) : Decimal :=
  let near := float.neighbourhood
  let (multiple, power) := near.search near.point 1 17
  let digits := (Nat.toDigits 10 multiple).map fun char => char.toNat - '0'.toNat
  { digits := (digits.reverse.dropWhile (· == 0)).reverse
    point := digits.length + power }

end SimResults.Number
