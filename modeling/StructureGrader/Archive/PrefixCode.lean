import StructureGrader.Archive.Bytes
import StructureGrader.Archive.Decoded

/-!
# Bits and prefix codes

Data are sent as bits. Their order within a byte is the lowest first (`bitAt?`) or the highest first
(`topBitAt?`). A prefix code has words of several lengths, none of which starts another; it is given by
the lengths alone, as the words of each length are taken in order (`PrefixCode.ofLengths`).
-/

namespace StructureGrader.Archive

/-! ## Bits -/

/-- The bit at a position, counted from the lowest bit of the first byte. -/
def bitAt? (b : ByteArray) (i : Nat) : Option Nat :=
  if i < 8 * b.size then some (byteAt b (i / 8) / Nat.pow 2 (i % 8) % 2) else none

/-- The bit at a position, counted from the highest bit of the first byte. -/
def topBitAt? (b : ByteArray) (i : Nat) : Option Nat :=
  if i < 8 * b.size then some (byteAt b (i / 8) / Nat.pow 2 (7 - i % 8) % 2) else none

/-! ## Prefix codes -/

/-- A prefix code by the lengths of its words: how many words there are of each length from one on,
and the symbols in the order of their words. -/
structure PrefixCode where
  counts : List Nat
  symbols : Array Nat

namespace PrefixCode

/-- The code whose words have these lengths by symbol, with a count for each length up to `longest`;
zero stands for no word. -/
def ofLengths (longest : Nat) (lengths : List Nat) : PrefixCode :=
  let counts := (List.range longest).map fun l => lengths.count (l + 1)
  let symbols := (List.range longest).flatMap fun l =>
    (lengths.zipIdx.filter fun x => x.1 == l + 1).map Prod.snd
  ⟨counts, symbols.toArray⟩

/-- The code without counts behind its longest word; one without words keeps one count. -/
def trimmed (c : PrefixCode) : PrefixCode :=
  let used := (c.counts.reverse.dropWhile (· == 0)).reverse
  { c with counts := if used.isEmpty then [0] else used }

/-- The words of a length that are not taken, when `free` words of the length before are not;
`none` where more are taken than there are. -/
def freeWords (counts : List Nat) : Option Nat :=
  counts.foldl (fun free n => free.bind fun f => if 2 * f < n then none else some (2 * f - n))
    (some 1)

/-- Whether the words fill the code. -/
def isComplete (c : PrefixCode) : Bool :=
  freeWords c.counts == some 0

/-- Whether the code may be used to send data: it is complete, or has no word longer than one bit
and not too many of those. -/
def isUsable (c : PrefixCode) : Bool :=
  c.isComplete || (c.counts.length == 1 && (freeWords c.counts).isSome)

/-- The symbol whose word starts at a position, and the position behind it; there is no symbol where
no word does. The word read so far is `word`, the first one of its length is `first`, and `index` is
the number of shorter words. -/
def symbolFrom (bit? : Nat → Option Nat) (symbols : Array Nat) :
    List Nat → Nat → Nat → Nat → Nat → Except Halt (Option Nat × Nat)
  | [], i, _, _, _ => .ok (none, i)
  | count :: counts, i, word, first, index =>
    match bit? i with
    | none => .error .cut
    | some bit =>
      let word := 2 * word + bit
      if word < first + count then .ok (symbols[index + (word - first)]?, i + 1)
      else symbolFrom bit? symbols counts (i + 1) word (2 * (first + count)) (index + count)

/-- The symbol whose word starts at a position, and the position behind it. -/
def symbolAt (c : PrefixCode) (bit? : Nat → Option Nat) (i : Nat) :
    Except Halt (Option Nat × Nat) :=
  symbolFrom bit? c.symbols c.counts i 0 0 0

end PrefixCode

end StructureGrader.Archive
