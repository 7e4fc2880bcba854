import StructureGrader.Number.Binary

/-!
# The shortest decimal that reads back

`shortest` finds, for a positive double, the decimal with the fewest digits among those that are
nearer to it than to its neighbours, and of these the nearest to it. It tries one digit, then two,
and so on: of each decimal grid only the two neighbours of the value can be the nearest points, and
all comparisons are between natural numbers. `floatText` writes the decimal: in positions while its
exponent is at least -4 and below 16, else with an exponent, and never without a point or an
exponent.
-/

namespace StructureGrader.Number

/-- A value and the ends of the interval of numbers that read back as it, over one denominator. -/
structure Interval where
  value : Nat
  low : Nat
  high : Nat
  denominator : Nat
  /-- Whether the ends themselves read back. -/
  closed : Bool

/-- The interval of a positive double. Below a power of two the neighbour is only half as far. -/
def intervalOf (mantissa : Nat) (exponent : Int) : Interval :=
  let down := if mantissa == Nat.pow 2 Binary.fractionBits && exponent > -1074 then 1 else 2
  let (scale, denominator) := Binary.quotient 1 exponent
  { value := 4 * mantissa * scale
    low := (4 * mantissa - down) * scale
    high := (4 * mantissa + 2) * scale
    denominator := 4 * denominator
    closed := mantissa % 2 == 0 }

namespace Interval

/-- Whether the number `a / b` reads back. -/
def holds (i : Interval) (a b : Nat) : Bool :=
  let x := a * i.denominator
  if i.closed then i.low * b ≤ x && x ≤ i.high * b else i.low * b < x && x < i.high * b

/-- How far the number `a / b` is from the value, in units of the common denominator. -/
def distance (i : Interval) (a b : Nat) : Nat :=
  let x := a * i.denominator
  let y := i.value * b
  if x ≤ y then y - x else x - y

/-- The point of the grid of step `10 ^ step` that reads back and is nearest to the value, as a
multiple of the step. -/
def onGrid? (i : Interval) (step : Int) : Option Nat :=
  let (up, down) :=
    match step with
    | .ofNat n => (Nat.pow 10 n, 1)
    | .negSucc n => (1, Nat.pow 10 (n + 1))
  let below := i.value * down / (i.denominator * up)
  let fits (c : Nat) : Bool := i.holds (c * up) down
  match fits below, fits (below + 1) with
  | false, false => none
  | true, false => some below
  | false, true => some (below + 1)
  | true, true =>
    let a := i.distance (below * up) down
    let b := i.distance ((below + 1) * up) down
    some (if a < b || (a == b && below % 2 == 0) then below else below + 1)

/-- The first grid from `digits` digits on that has a point which reads back. -/
def search (i : Interval) (top : Int) : Nat → Nat → Nat × Int
  | 0, digits => (i.value, top - digits)
  | fuel + 1, digits =>
    let step := top - digits
    match i.onGrid? step with
    | some c => (c, step)
    | none => search i top fuel (digits + 1)

end Interval

/-- The number of decimal digits of a natural number; zero has none. -/
def digitCount : Nat → Nat → Nat
  | 0, _ => 0
  | fuel + 1, n => if n == 0 then 0 else digitCount fuel (n / 10) + 1

/-- The exponent `k` with `10 ^ (k - 1) ≤ a / b < 10 ^ k`, for positive `a`. -/
def magnitude (a b : Nat) : Int :=
  if b ≤ a then digitCount (a / b + 1) (a / b)
  else
    -- `10 ^ n · a / b` has its first digit at the units for the least such `n`.
    let n := digitCount (b / a + 1) (b / a)
    let n := if Nat.pow 10 (n - 1) * a ≥ b then n - 1 else n
    1 - Int.ofNat n

/-- A decimal `digits · 10 ^ step` without zeros at the end of its digits. -/
def trimZeros : Nat → Nat × Int → Nat × Int
  | 0, d => d
  | fuel + 1, (digits, step) =>
    if digits != 0 && digits % 10 == 0 then trimZeros fuel (digits / 10, step + 1)
    else (digits, step)

/-- The shortest decimal that reads back as `mantissa · 2 ^ exponent`, which is positive: its digits
and the power of ten of the last one. -/
def shortest (mantissa : Nat) (exponent : Int) : Nat × Int :=
  let i := intervalOf mantissa exponent
  trimZeros 17 (i.search (magnitude i.value i.denominator) 17 1)

/-- The text of `digits · 10 ^ step`: in positions, or with an exponent of at least two digits. -/
def decimalText (digits : Nat) (step : Int) : String :=
  let ds := (toString digits).toList
  let point : Int := step + ds.length
  let exponent := point - 1
  if -4 ≤ exponent && exponent < 16 then
    if point ≤ 0 then
      "0." ++ String.ofList (List.replicate (-point).toNat '0' ++ ds)
    else
      let n := point.toNat
      let whole := ds.take n ++ List.replicate (n - ds.length) '0'
      let fraction := if n < ds.length then ds.drop n else ['0']
      String.ofList (whole ++ '.' :: fraction)
  else
    let fraction := if ds.length ≤ 1 then [] else '.' :: ds.drop 1
    let size := toString exponent.natAbs
    let size := if size.length < 2 then "0" ++ size else size
    String.ofList (ds.take 1 ++ fraction) ++ "e" ++ (if exponent < 0 then "-" else "+") ++ size

/-- The text of a double: the shortest decimal that reads back as it. -/
def floatText (x : Float) : String :=
  match Binary.ofFloat x with
  | .notANumber => "nan"
  | .infinite negative => if negative then "-inf" else "inf"
  | .finite negative m q =>
    let sign := if negative then "-" else ""
    if m == 0 then sign ++ "0.0"
    else
      let (digits, step) := shortest m q
      sign ++ decimalText digits step

end StructureGrader.Number
