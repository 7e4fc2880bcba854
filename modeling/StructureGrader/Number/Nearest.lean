/-!
# The double nearest to a decimal
-/

namespace StructureGrader.Number

/-- The number that ASCII digits write. -/
def digitsValue (ds : List Char) : Nat :=
  ds.foldl (fun n d => 10 * n + (d.toNat - 48)) 0

/-- The double nearest to `digits · 10 ^ exponent`: infinite past the greatest double and zero
before half of the least one, which the place of the first digit decides without a look at the
others. -/
def nearest (digits : Nat) (exponent : Int) : Float :=
  let first := exponent + (toString digits).length
  if digits == 0 || first < -330 then 0.0
  else if 320 < first then 1.0 / 0.0
  else Float.ofScientific digits (exponent < 0) exponent.natAbs

end StructureGrader.Number
