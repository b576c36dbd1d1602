/-!
# Shortest decimals of binary fractions

A positive binary fraction `m * 2 ^ q` stands for all numbers that round to it:
an interval around it, whose ends belong to it when `m` is even.  Its shortest
decimal is the point of the coarsest grid of powers of ten that lies in the
interval; of two such points it is the nearer, and of two equally near the
upper one.

All comparisons are made between natural numbers.
-/

namespace JavaSymbols

/-- The decimal `digits * 10 ^ exponent`. -/
structure Decimal where
  digits : Nat
  exponent : Int
  deriving DecidableEq

namespace Decimal

/-- The positive number `mantissa * 2 ^ exponent`. -/
structure Binary where
  mantissa : Nat
  exponent : Int

/-- The least exponent of a binary fraction, at which numbers are subnormal. -/
def leastExponent : Int :=
  -1074

/-- The number of fractions within one binary order of magnitude, `2 ^ 52`. -/
def fractionCount : Nat :=
  0x10000000000000

/-- The number of binary orders of magnitude, `2 ^ 11`, those of subnormal and
of infinite numbers included. -/
def orderCount : Nat :=
  0x800

/-- A common measure for a binary fraction and the points of a grid of powers
of ten: a quarter of the fraction's last place counts `scale`, a step of the
grid counts `unit`. -/
structure GridScale where
  scale : Nat
  unit : Nat

/-- The scales that make quarters of the last place of a fraction comparable
with the multiples of `10 ^ exponent`. -/
def gridScale (value : Binary) (exponent : Int) : GridScale :=
  let quarter := value.exponent - 2
  { scale := Nat.pow 2 quarter.toNat * Nat.pow 10 (-exponent).toNat
    unit := Nat.pow 2 (-quarter).toNat * Nat.pow 10 exponent.toNat }

/-- Whether a point of a grid rounds to the fraction.  Below a power of two the
interval is only half as wide, except among the least numbers. -/
def readsBack (value : Binary) (grid : GridScale) (point : Nat) : Bool :=
  let narrow := value.mantissa == fractionCount && leastExponent < value.exponent
  let low := (4 * value.mantissa - if narrow then 1 else 2) * grid.scale
  let high := (4 * value.mantissa + 2) * grid.scale
  let position := point * grid.unit
  if value.mantissa % 2 == 0 then low ≤ position && position ≤ high
  else low < position && position < high

/-- The point of a grid that a fraction is written as, if one reads back. -/
def gridPoint? (value : Binary) (exponent : Int) : Option Decimal :=
  let grid := gridScale value exponent
  let exact := 4 * value.mantissa * grid.scale
  let below := exact / grid.unit
  let above := below + 1
  match readsBack value grid below, readsBack value grid above with
  | false, false => none
  | true, false => some ⟨below, exponent⟩
  | false, true => some ⟨above, exponent⟩
  | true, true =>
      if exact - below * grid.unit < above * grid.unit - exact then some ⟨below, exponent⟩
      else some ⟨above, exponent⟩

/-- The exponents of the grids that are tried, coarsest first. -/
def gridExponents : List Int :=
  (List.range 660).map fun (step : Nat) => (310 : Int) - (step : Int)

/-- The shortest decimal that reads back to a fraction. -/
def shortest (value : Binary) : Decimal :=
  (gridExponents.findSome? (gridPoint? value)).getD ⟨0, 0⟩

/-- A decimal written without an exponent, with at least one digit on each side
of the point. -/
def positional (decimal : Decimal) : String :=
  let digits := (toString decimal.digits).toList
  if 0 ≤ decimal.exponent then
    String.ofList (digits ++ List.replicate decimal.exponent.toNat '0') ++ ".0"
  else
    let places := (-decimal.exponent).toNat
    let padded := List.replicate (places + 1 - digits.length) '0' ++ digits
    String.ofList (padded.take (padded.length - places)) ++ "." ++
      String.ofList (padded.drop (padded.length - places))

/-- The number whose floating-point form has the given bits, when it is finite
and not zero.  The sign is left out. -/
def Binary.ofBits (bits : Nat) : Binary :=
  let fraction : Nat := bits % fractionCount
  let order : Nat := bits / fractionCount % orderCount
  if order == 0 then ⟨fraction, leastExponent⟩
  else ⟨fractionCount + fraction, leastExponent + order - 1⟩

/-- A floating-point number written with the fewest digits that identify it. -/
def floatText (number : Float) : String :=
  let bits := number.toBits.toNat
  let signBit := orderCount * fractionCount
  let sign := if bits / signBit == 1 then "-" else ""
  if number.isNaN then "NaN"
  else if number.isInf then sign ++ "inf"
  else if bits % signBit == 0 then sign ++ "0.0"
  else sign ++ (shortest (Binary.ofBits bits)).positional

/-- The floating-point number nearest to `digits * 10 ^ exponent`.  Numbers far
outside the range of floating-point numbers are infinite or zero. -/
def nearestFloat (digits : Nat) (exponent : Int) : Float :=
  let magnitude := (toString digits).length + exponent
  if digits == 0 || magnitude < -400 then 0
  else if 400 < magnitude then 1 / 0
  else Float.ofScientific digits (exponent < 0) exponent.natAbs

end Decimal

end JavaSymbols
