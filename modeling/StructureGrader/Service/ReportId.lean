import StructureGrader.Json.Reader
import StructureGrader.Number.Reading
import StructureGrader.Text.Quoted
import StructureGrader.Text.Search

/-!
# The names of reports

A report is given out under a number of 128 bits, written in thirty-two hexadecimal digits with small
letters (`ReportId.text`). Reading such a number is more liberal than that: marks in front, braces,
hyphens, capital letters, digits of other scripts and whatever else may go with a whole number are
understood (`ReportId.read?`). A name counts as given out only where the number that it is read as is
written in the same way again (`ReportId.isIssued`).
-/

namespace StructureGrader.Service.ReportId

/-- How many numbers there are. -/
def bound : Nat := Nat.pow 2 128

/-- How many digits a name has. -/
def width : Nat := 32

/-- The name that is given out for a number. -/
def text (n : Nat) : String :=
  String.ofList (Text.hexDigits width n)

/-! ## Reading -/

/-- Whether a character is a hexadecimal digit. -/
def isHexDigit (c : Char) : Bool :=
  (Json.hexValue? c).isSome

/-- The number that hexadecimal digits write. -/
def hexDigitsValue (ds : List Char) : Nat :=
  ds.foldl (fun n c => 16 * n + (Json.hexValue? c).getD 0) 0

/-- What follows the mark of the base and the one underscore that may stand behind it. -/
def behindBaseMark : List Char → List Char
  | '0' :: x :: cs =>
    if x == 'x' || x == 'X' then
      match cs with
      | '_' :: cs => cs
      | cs => cs
    else '0' :: x :: cs
  | cs => cs

/-- The whole number that a text writes in hexadecimal digits. -/
def hexNumber? (s : String) : Option Int :=
  let (negative, cs) := Number.signed (Number.plainChars s)
  match Number.withoutUnderscores? isHexDigit ' ' (behindBaseMark cs) with
  | none => none
  | some ds =>
    if ds.isEmpty || ds.any (!isHexDigit ·) then none
    else
      let n := Int.ofNat (hexDigitsValue ds)
      some (if negative then -n else n)

/-- Whether a character is a brace. -/
def isBrace (c : Char) : Bool :=
  c == '\x7b' || c == '\x7d'

/-- The characters of a name without marks, braces around it and hyphens. -/
def bareChars (name : String) : List Char :=
  let cs := Text.without "uuid:" (Text.without "urn:" name.toList)
  (Text.stripWhere isBrace cs).filter (· != '-')

/-- The number that a name is read as. -/
def read? (name : String) : Option Nat :=
  let cs := bareChars name
  if cs.length != width then none
  else
    match hexNumber? (String.ofList cs) with
    | none => none
    | some n => if 0 ≤ n && n < Int.ofNat bound then some n.toNat else none

/-- Whether a name is one that is given out. -/
def isIssued (name : String) : Bool :=
  match read? name with
  | none => false
  | some n => text n == name

end StructureGrader.Service.ReportId
