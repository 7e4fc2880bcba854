import StructureGrader.Text.Quoted

/-!
# Reading bytes as text

A file is text in UTF-8 where its bytes are valid, and otherwise each byte is the character of that
number, which no sequence of bytes can fail. In the text every line ends in a line feed.
-/

namespace StructureGrader.Text

/-- The text in which each byte is the character of its number. -/
def ofOneByteChars (bytes : ByteArray) : String :=
  String.ofList (bytes.toList.map fun b => Char.ofNat b.toNat)

/-- The text that bytes stand for. -/
def ofBytes (bytes : ByteArray) : String :=
  (String.fromUTF8? bytes).getD (ofOneByteChars bytes)

/-! ## Faults of UTF-8 -/

/-- Where bytes stop being UTF-8: the bytes concerned, from a position on, and what is wrong. -/
structure Utf8Fault where
  first : Nat
  bytes : List UInt8
  reason : String
deriving DecidableEq, Repr

/-- The ranges that the bytes behind a first byte must lie in; `none` where no character starts with
that byte. -/
def followRanges (b : UInt8) : Option (List (UInt8 × UInt8)) :=
  let any : UInt8 × UInt8 := (0x80, 0xBF)
  if b < 0x80 then some []
  else if b < 0xC2 then none
  else if b < 0xE0 then some [any]
  else if b == 0xE0 then some [(0xA0, 0xBF), any]
  else if b == 0xED then some [(0x80, 0x9F), any]
  else if b < 0xF0 then some [any, any]
  else if b == 0xF0 then some [(0x90, 0xBF), any, any]
  else if b < 0xF4 then some [any, any, any]
  else if b == 0xF4 then some [(0x80, 0x8F), any, any]
  else none

/-- How many bytes lie in their ranges, and whether the bytes end before the ranges do. -/
def follow : List (UInt8 × UInt8) → List UInt8 → Nat × Bool
  | [], _ => (0, false)
  | _ :: _, [] => (0, true)
  | (low, high) :: ranges, b :: bs =>
    if low ≤ b && b ≤ high then
      let (n, ended) := follow ranges bs
      (n + 1, ended)
    else (0, false)

/-- The first fault of bytes as UTF-8, if there is one; `skip` bytes still belong to a character. -/
def utf8FaultFrom : Nat → Nat → List UInt8 → Option Utf8Fault
  | _, _, [] => none
  | i, skip + 1, _ :: bs => utf8FaultFrom (i + 1) skip bs
  | i, 0, b :: bs =>
    match followRanges b with
    | none => some ⟨i, [b], "invalid start byte"⟩
    | some ranges =>
      let (n, ended) := follow ranges bs
      if n == ranges.length then utf8FaultFrom (i + 1) n bs
      else
        let reason := if ended then "unexpected end of data" else "invalid continuation byte"
        some ⟨i, b :: bs.take n, reason⟩

/-- The wording of a fault. -/
def Utf8Fault.message (f : Utf8Fault) : String :=
  let place :=
    match f.bytes with
    | [b] =>
      "byte 0x" ++ String.ofList (hexDigits 2 b.toNat) ++ " in position " ++ toString f.first
    | bs =>
      "bytes in position " ++ toString f.first ++ "-" ++ toString (f.first + bs.length - 1)
  "'utf-8' codec can't decode " ++ place ++ ": " ++ f.reason

/-- The text that bytes write in UTF-8, or their first fault. -/
def ofUtf8 (bytes : ByteArray) : Except Utf8Fault String :=
  match String.fromUTF8? bytes with
  | some s => .ok s
  | none => .error ((utf8FaultFrom 0 0 bytes.toList).getD ⟨0, [], "invalid start byte"⟩)

/-! ## Files -/

/-- The characters with a line feed for each carriage return, alone or before a line feed. -/
def unifyLineEnds : List Char → List Char
  | [] => []
  | '\r' :: '\n' :: cs => '\n' :: unifyLineEnds cs
  | c :: cs => (if c == '\r' then '\n' else c) :: unifyLineEnds cs

/-- The text of a file with these bytes. -/
def ofFile (bytes : ByteArray) : String :=
  String.ofList (unifyLineEnds (ofBytes bytes).toList)

end StructureGrader.Text
