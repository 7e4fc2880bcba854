/-!
# Floating-point numbers taken apart

A double is a sign with a natural number times a power of two, or it is infinite, or it is no
number (`Binary`). `Binary.ofFloat` reads the three fields of the format; `floor?` and `roundDiv`
are the exact roundings that printing and scoring need.
-/

namespace StructureGrader.Number

/-- A double by its parts. -/
inductive Binary
  /-- `mantissa · 2 ^ exponent`, with a sign that zero has too. -/
  | finite (negative : Bool) (mantissa : Nat) (exponent : Int)
  | infinite (negative : Bool)
  | notANumber
deriving DecidableEq, Repr

namespace Binary

/-- The number of bits of the fraction field. -/
def fractionBits : Nat := 52

/-- The parts of a number from the bits of its format: one of sign, eleven of exponent, the rest of
fraction. A zero exponent field stands for the smallest exponent without the hidden bit. -/
def ofBits (bits : Nat) : Binary :=
  let negative := bits / Nat.pow 2 63 % 2 == 1
  let field := bits / Nat.pow 2 fractionBits % Nat.pow 2 11
  let fraction := bits % Nat.pow 2 fractionBits
  if field == Nat.pow 2 11 - 1 then
    if fraction == 0 then .infinite negative else .notANumber
  else if field == 0 then .finite negative fraction (-1074)
  else .finite negative (Nat.pow 2 fractionBits + fraction) (Int.ofNat field - 1075)

/-- The parts of a double. -/
def ofFloat (x : Float) : Binary :=
  ofBits x.toBits.toNat

/-- A nonnegative value `mantissa · 2 ^ exponent` as a quotient of natural numbers. -/
def quotient (mantissa : Nat) (exponent : Int) : Nat × Nat :=
  match exponent with
  | .ofNat e => (mantissa * Nat.pow 2 e, 1)
  | .negSucc e => (mantissa, Nat.pow 2 (e + 1))

/-- The greatest integer that is not above the number; only finite numbers have one. -/
def floor? : Binary → Option Int
  | .finite negative m q =>
    let (a, b) := quotient m q
    some (if negative then -(Int.ofNat ((a + b - 1) / b)) else Int.ofNat (a / b))
  | _ => none

end Binary

/-- The natural number nearest to `a / b`, the even one of two. -/
def roundDiv (a b : Nat) : Nat :=
  let q := a / b
  let r := a % b
  if 2 * r < b then q
  else if b < 2 * r then q + 1
  else if q % 2 == 0 then q else q + 1

end StructureGrader.Number
