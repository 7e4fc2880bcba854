import StructureGrader.Number.Nearest
import StructureGrader.Text.Blank
import StructureGrader.Text.Digit

/-!
# Reading numbers from settings

A number may have white space around it and a sign; its digits may be of any script, with single
underscores between two of them. `wholeNumber?` reads a whole number, `realNumber?` a double, which
may have a point and an exponent or be the name of a number that is not finite. The four information
separators are blanks elsewhere but not around a number (`isPadding`).
-/

namespace StructureGrader.Number

open Text

/-- The characters that may stand around a number: the blanks but for the information separators. -/
def isPadding (c : Char) : Bool :=
  isBlank c && !(28 ≤ c.toNat && c.toNat ≤ 31)

/-- The text with the digits of all scripts as ASCII digits and no white space at its ends. -/
def plainChars (s : String) : List Char :=
  (stripWhere isPadding s.toList).map fun c =>
    match digitValue? c with
    | some d => Char.ofNat (48 + d)
    | none => c

/-- A sign at the front of a text: whether it is a minus, and what follows. -/
def signed : List Char → Bool × List Char
  | '-' :: cs => (true, cs)
  | '+' :: cs => (false, cs)
  | cs => (false, cs)

/-- The text without underscores; each must stand between two digits. `before` is the character in
front. -/
def withoutUnderscores? (isDigit : Char → Bool) (before : Char) : List Char → Option (List Char)
  | [] => some []
  | '_' :: c :: cs =>
    if isDigit before && isDigit c then (withoutUnderscores? isDigit c cs).map (c :: ·) else none
  | '_' :: [] => none
  | c :: cs => (withoutUnderscores? isDigit c cs).map (c :: ·)

/-- How many digits a whole number may have. -/
def digitLimit : Nat := 4300

/-- The whole number that a text writes. -/
def wholeNumber? (s : String) : Option Int :=
  let (negative, cs) := signed (plainChars s)
  match withoutUnderscores? Char.isDigit ' ' cs with
  | none => none
  | some ds =>
    if ds.isEmpty || ds.any (!·.isDigit) || digitLimit < ds.length then none
    else
      let n := Int.ofNat (digitsValue ds)
      some (if negative then -n else n)

/-- How many digits the number at the front of a text has, where these are too many. They are
counted before what follows them is looked at. -/
def excessDigits? (s : String) : Option Nat :=
  let (_, cs) := signed (plainChars s)
  let front := cs.takeWhile fun c => c.isDigit || c == '_'
  ((withoutUnderscores? Char.isDigit ' ' front).map List.length).filter (digitLimit < ·)

/-- The names of numbers that are not finite, in small letters. -/
def specialNumber? (cs : List Char) : Option Float :=
  let name := String.ofList (cs.map Char.toLower)
  if name == "inf" || name == "infinity" then some (1.0 / 0.0)
  else if name == "nan" then some (0.0 / 0.0)
  else none

/-- The exponent that a text writes after its mark: an optional sign and digits. -/
def exponent? : List Char → Option Int
  | [] => some 0
  | e :: cs =>
    let (negative, ds) := signed cs
    if (e == 'e' || e == 'E') && !ds.isEmpty && ds.all Char.isDigit then
      let n := Int.ofNat (digitsValue ds)
      some (if negative then -n else n)
    else none

/-- The double that a text without sign writes: digits with a point among them or at an end, and an
optional exponent. -/
def decimal? (cs : List Char) : Option Float :=
  let whole := cs.takeWhile Char.isDigit
  let rest := cs.dropWhile Char.isDigit
  let (fraction, rest) :=
    match rest with
    | '.' :: more => (more.takeWhile Char.isDigit, more.dropWhile Char.isDigit)
    | _ => ([], rest)
  if whole.isEmpty && fraction.isEmpty then none
  else
    (exponent? rest).map fun e =>
      nearest (digitsValue (whole ++ fraction)) (e - Int.ofNat fraction.length)

/-- The double that a text writes. -/
def realNumber? (s : String) : Option Float :=
  let (negative, cs) := signed (plainChars s)
  match withoutUnderscores? Char.isDigit ' ' cs with
  | none => none
  | some cs =>
    ((specialNumber? cs).or (decimal? cs)).map fun x => if negative then -x else x

end StructureGrader.Number
