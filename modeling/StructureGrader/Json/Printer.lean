import StructureGrader.Json.Value
import StructureGrader.Number.Shortest

/-!
# Writing JSON

Two layouts: `indented`, over several lines and in ASCII only, for files, and `compact`, on one
line, for messages. Doubles are written as the shortest decimal that reads back.
-/

namespace StructureGrader.Json

open Number

/-! ## Text -/

/-- The last four hexadecimal digits of a number. -/
def hex4 (n : Nat) : String :=
  let digit (d : Nat) : Char := "0123456789abcdef".toList.getD (d % 16) '0'
  String.ofList [digit (n / 4096), digit (n / 256), digit (n / 16), digit n]

/-- The escape of a character by number, as two units where one is not enough. -/
def numbered (c : Char) : String :=
  let n := c.toNat
  if n < 0x10000 then "\\u" ++ hex4 n
  else
    let m := n - 0x10000
    "\\u" ++ hex4 (0xD800 + m / 0x400) ++ "\\u" ++ hex4 (0xDC00 + m % 0x400)

/-- One character between quotes; `far` says which characters past the controls are escaped. -/
def escaped (far : Char → Bool) (c : Char) : String :=
  match c with
  | '"' => "\\\""
  | '\\' => "\\\\"
  | '\n' => "\\n"
  | '\r' => "\\r"
  | '\t' => "\\t"
  | _ =>
    if c.toNat == 8 then "\\b"
    else if c.toNat == 12 then "\\f"
    else if c.toNat < 0x20 || far c then numbered c
    else String.singleton c

/-- A text in quotes. -/
def quoted (far : Char → Bool) (s : String) : String :=
  "\"" ++ String.join (s.toList.map (escaped far)) ++ "\""

/-- Characters past ASCII. -/
def isPastAscii (c : Char) : Bool :=
  0x80 ≤ c.toNat

/-- The line ends past ASCII. -/
def isFarLineEnd (c : Char) : Bool :=
  c.toNat == 0x85 || c.toNat == 0x2028 || c.toNat == 0x2029

/-- A double; the ones that are not finite have names. -/
def realText (x : Float) : String :=
  match Binary.ofFloat x with
  | .notANumber => "NaN"
  | .infinite negative => if negative then "-Infinity" else "Infinity"
  | .finite .. => floatText x

/-! ## Layouts -/

/-- A new line with so many steps of two spaces. -/
def newLine (level : Nat) : String :=
  "\n" ++ String.ofList (List.replicate (2 * level) ' ')

mutual

/-- A value over several lines, at a level of indentation. -/
def indentedAt (level : Nat) : Json → String
  | .null => "null"
  | .bool b => if b then "true" else "false"
  | .int n => toString n
  | .real x => realText x
  | .text s => quoted isPastAscii s
  | .list [] => "[]"
  | .list (item :: items) =>
    "[" ++ newLine (level + 1) ++ indentedAt (level + 1) item ++
      indentedItems (level + 1) items ++ newLine level ++ "]"
  | .object [] => "\x7b\x7d"
  | .object ((name, value) :: fields) =>
    "\x7b" ++ newLine (level + 1) ++ quoted isPastAscii name ++ ": " ++
      indentedAt (level + 1) value ++ indentedFields (level + 1) fields ++ newLine level ++ "\x7d"

/-- The items of a list after its first. -/
def indentedItems (level : Nat) : List Json → String
  | [] => ""
  | item :: items => "," ++ newLine level ++ indentedAt level item ++ indentedItems level items

/-- The fields of an object after its first. -/
def indentedFields (level : Nat) : List (String × Json) → String
  | [] => ""
  | (name, value) :: fields =>
    "," ++ newLine level ++ quoted isPastAscii name ++ ": " ++ indentedAt level value ++
      indentedFields level fields

end

/-- A value over several lines. -/
def indented (j : Json) : String :=
  indentedAt 0 j

mutual

/-- A value on one line. -/
def compact : Json → String
  | .null => "null"
  | .bool b => if b then "true" else "false"
  | .int n => toString n
  | .real x => realText x
  | .text s => quoted isFarLineEnd s
  | .list [] => "[]"
  | .list (item :: items) => "[" ++ compact item ++ compactItems items ++ "]"
  | .object [] => "\x7b\x7d"
  | .object ((name, value) :: fields) =>
    "\x7b" ++ quoted isFarLineEnd name ++ ":" ++ compact value ++ compactFields fields ++ "\x7d"

/-- The items of a list after its first, on one line. -/
def compactItems : List Json → String
  | [] => ""
  | item :: items => "," ++ compact item ++ compactItems items

/-- The fields of an object after its first, on one line. -/
def compactFields : List (String × Json) → String
  | [] => ""
  | (name, value) :: fields =>
    "," ++ quoted isFarLineEnd name ++ ":" ++ compact value ++ compactFields fields

end

end StructureGrader.Json
