import StructureGrader.Json.Value
import StructureGrader.Number.Nearest

/-!
# Reading JSON

`read?` reads one value that fills the whole text. A number without point and exponent is whole, of
any size; any other is the nearest double. The functions take a bound on the number of steps, for
which the length of the text is enough, and the characters not yet read.
-/

namespace StructureGrader.Json

open Number (digitsValue nearest)

/-- White space between the parts of a value. -/
def isGap (c : Char) : Bool :=
  c == ' ' || c == '\n' || c == '\r' || c == '\t'

/-- The characters after the white space in front. -/
def skipGap (cs : List Char) : List Char :=
  cs.dropWhile isGap

/-- The value of a hexadecimal digit. -/
def hexValue? (c : Char) : Option Nat :=
  if c.isDigit then some (c.toNat - 48)
  else if 'a' ≤ c && c ≤ 'f' then some (c.toNat - 87)
  else if 'A' ≤ c && c ≤ 'F' then some (c.toNat - 55)
  else none

/-- A number of four hexadecimal digits. -/
def unit? : List Char → Option (Nat × List Char)
  | a :: b :: c :: d :: cs => do
    let a ← hexValue? a
    let b ← hexValue? b
    let c ← hexValue? c
    let d ← hexValue? d
    some (4096 * a + 256 * b + 16 * c + d, cs)
  | _ => none

/-- The character of an escape by number, of two units where the first asks for a second. -/
def numbered? (cs : List Char) : Option (Char × List Char) := do
  let (high, rest) ← unit? cs
  if 0xD800 ≤ high && high < 0xDC00 then
    match rest with
    | '\\' :: 'u' :: more =>
      let (low, rest) ← unit? more
      some (Char.ofNat (0x10000 + (high - 0xD800) * 0x400 + (low - 0xDC00)), rest)
    | _ => none
  else some (Char.ofNat high, rest)

/-- The characters up to the closing quote; `done` holds those before, in reverse order. -/
def textTail? : Nat → List Char → List Char → Option (String × List Char)
  | 0, _, _ => none
  | _ + 1, _, [] => none
  | _ + 1, done, '"' :: cs => some (String.ofList done.reverse, cs)
  | fuel + 1, done, '\\' :: c :: cs =>
    match c with
    | 'n' => textTail? fuel ('\n' :: done) cs
    | 'r' => textTail? fuel ('\r' :: done) cs
    | 't' => textTail? fuel ('\t' :: done) cs
    | 'b' => textTail? fuel (Char.ofNat 8 :: done) cs
    | 'f' => textTail? fuel (Char.ofNat 12 :: done) cs
    | 'u' =>
      match numbered? cs with
      | some (c, cs) => textTail? fuel (c :: done) cs
      | none => none
    | c => textTail? fuel (c :: done) cs
  | fuel + 1, done, c :: cs => textTail? fuel (c :: done) cs

/-- A number at the front of a text. -/
def number? (cs : List Char) : Option (Json × List Char) :=
  let (negative, cs) :=
    match cs with
    | '-' :: rest => (true, rest)
    | _ => (false, cs)
  let whole := cs.takeWhile Char.isDigit
  let rest := cs.dropWhile Char.isDigit
  let (fraction, hasPoint, rest) :=
    match rest with
    | '.' :: more => (more.takeWhile Char.isDigit, true, more.dropWhile Char.isDigit)
    | _ => ([], false, rest)
  let (exponent, hasExponent, rest) :=
    match rest with
    | e :: more =>
      if e == 'e' || e == 'E' then
        let (minus, more) :=
          match more with
          | '-' :: r => (true, r)
          | '+' :: r => (false, r)
          | _ => (false, more)
        let n := Int.ofNat (digitsValue (more.takeWhile Char.isDigit))
        ((if minus then -n else n), true, more.dropWhile Char.isDigit)
      else ((0 : Int), false, rest)
    | [] => ((0 : Int), false, rest)
  if whole.isEmpty then none
  else if hasPoint || hasExponent then
    let x := nearest (digitsValue (whole ++ fraction)) (exponent - Int.ofNat fraction.length)
    some (.real (if negative then -x else x), rest)
  else
    let n := Int.ofNat (digitsValue whole)
    some (.int (if negative then -n else n), rest)

mutual

/-- A value at the front of a text. -/
def value? : Nat → List Char → Option (Json × List Char)
  | 0, _ => none
  | fuel + 1, cs =>
    match skipGap cs with
    | 'n' :: 'u' :: 'l' :: 'l' :: rest => some (.null, rest)
    | 't' :: 'r' :: 'u' :: 'e' :: rest => some (.bool true, rest)
    | 'f' :: 'a' :: 'l' :: 's' :: 'e' :: rest => some (.bool false, rest)
    | '"' :: rest => (textTail? (rest.length + 1) [] rest).map fun (s, rest) => (.text s, rest)
    | '[' :: rest =>
      match skipGap rest with
      | ']' :: rest => some (.list [], rest)
      | rest => (items? fuel rest).map fun (items, rest) => (.list items, rest)
    | '\x7b' :: rest =>
      match skipGap rest with
      | '\x7d' :: rest => some (.object [], rest)
      | rest => (fields? fuel rest).map fun (fields, rest) => (.object fields, rest)
    | rest => number? rest

/-- The items of a list up to its closing bracket. -/
def items? : Nat → List Char → Option (List Json × List Char)
  | 0, _ => none
  | fuel + 1, cs =>
    match value? fuel cs with
    | none => none
    | some (item, rest) =>
      match skipGap rest with
      | ',' :: rest => (items? fuel rest).map fun (items, rest) => (item :: items, rest)
      | ']' :: rest => some ([item], rest)
      | _ => none

/-- The fields of an object up to its closing brace. -/
def fields? : Nat → List Char → Option (List (String × Json) × List Char)
  | 0, _ => none
  | fuel + 1, cs =>
    match skipGap cs with
    | '"' :: rest =>
      match textTail? (rest.length + 1) [] rest with
      | none => none
      | some (name, rest) =>
        match skipGap rest with
        | ':' :: rest =>
          match value? fuel rest with
          | none => none
          | some (value, rest) =>
            match skipGap rest with
            | ',' :: rest =>
              (fields? fuel rest).map fun (fields, rest) => ((name, value) :: fields, rest)
            | '\x7d' :: rest => some ([(name, value)], rest)
            | _ => none
        | _ => none
    | _ => none

end

/-- The value that a text writes, or `none` where it writes none or more than one. -/
def read? (s : String) : Option Json :=
  let cs := s.toList
  match value? (cs.length + 1) cs with
  | some (j, rest) => if (skipGap rest).isEmpty then some j else none
  | none => none

end StructureGrader.Json
