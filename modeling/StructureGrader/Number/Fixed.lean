import StructureGrader.Number.Binary

/-!
# Numbers with a fixed count of places

`fixedText` rounds the exact value of a double to so many places after the point, a half to the
even neighbour.
-/

namespace StructureGrader.Number

/-- A natural number with zeros in front up to a width. -/
def padded (width n : Nat) : String :=
  let s := toString n
  String.ofList (List.replicate (width - s.length) '0') ++ s

/-- A natural number of units of `10 ^ -places`. -/
def placesText (places units : Nat) : String :=
  if places == 0 then toString units
  else
    let unit := Nat.pow 10 places
    toString (units / unit) ++ "." ++ padded places (units % unit)

/-- A double with so many places after the point. -/
def fixedText (places : Nat) (x : Float) : String :=
  match Binary.ofFloat x with
  | .notANumber => "nan"
  | .infinite negative => if negative then "-inf" else "inf"
  | .finite negative m q =>
    let (a, b) := Binary.quotient m q
    (if negative then "-" else "") ++ placesText places (roundDiv (a * Nat.pow 10 places) b)

/-- A share as a percentage with two places. -/
def percentText (x : Float) : String :=
  fixedText 2 (x * 100) ++ "%"

end StructureGrader.Number
