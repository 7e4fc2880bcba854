import StructureGrader.Archive.Bytes
import StructureGrader.Archive.Decoded

/-!
# Range coded data

Data are bytes and copies of bytes before them. What they are is sent as bits, each in a part of the
current range that is as large as the bit is likely; how likely it is, is learnt from the bits before it
in the same context (`Coder.bit`). A copy is given by its length and its distance, or by one of the last
four distances. In front of the data stand the settings: how many bits of a position and of the byte
before it a context depends on, and how far back a copy may reach (`Settings.of?`).
-/

namespace StructureGrader.Archive

namespace RangeCoded

/-! ## Bits -/

/-- The current range, and where in it the code lies that is read; `next` is the position of the
byte that has to be read next, and `chances` how likely a zero is in each context, in parts of 2048.
-/
structure Coder where
  range : UInt32
  code : UInt32
  next : Nat
  chances : Array UInt32

/-- The range and the code with one more byte, where the range has become small. -/
def normalized (b : ByteArray) (range code : UInt32) (next : Nat) :
    Except Halt (UInt32 × UInt32 × Nat) :=
  if range < 0x1000000 then
    if h : next < b.size then .ok (range <<< 8, (code <<< 8) ||| b[next].toUInt32, next + 1)
    else .error .cut
  else .ok (range, code, next)

/-- The next bit in a context. -/
def Coder.bit (b : ByteArray) (context : Nat) : Coder → Except Halt (Nat × Coder)
  | ⟨range, code, next, chances⟩ =>
    match normalized b range code next with
    | .error halt => .error halt
    | .ok (range, code, next) =>
      let chance := chances.getD context 0
      let bound := (range >>> 11) * chance
      if code < bound then
        .ok (0, ⟨bound, code, next, chances.setIfInBounds context (chance + ((2048 - chance) >>> 5))⟩)
      else
        .ok (1, ⟨range - bound, code - bound, next,
          chances.setIfInBounds context (chance - (chance >>> 5))⟩)

/-- The number that so many bits write that are as likely as not, the highest one first, behind
`front`. -/
def Coder.evenBits (b : ByteArray) : Nat → Nat → Coder → Except Halt (Nat × Coder)
  | 0, front, coder => .ok (front, coder)
  | n + 1, front, ⟨range, code, next, chances⟩ =>
    match normalized b range code next with
    | .error halt => .error halt
    | .ok (range, code, next) =>
      let range := range >>> 1
      -- The highest bit of the difference is set where the code lies in the lower half of the range.
      let above := code - range
      if above >>> 31 == 1 then evenBits b n (2 * front) ⟨range, code, next, chances⟩
      else evenBits b n (2 * front + 1) ⟨range, above, next, chances⟩

/-- The number that so many bits write, the highest one first; the bits so far are `node`, with a
one in front of them, and each bit has a context of its own for each of these. -/
def Coder.tree (b : ByteArray) (base : Nat) : Nat → Nat → Coder → Except Halt (Nat × Coder)
  | 0, node, coder => .ok (node, coder)
  | n + 1, node, coder => do
    let (bit, coder) ← coder.bit b (base + node)
    tree b base n (2 * node + bit) coder

/-- The number that so many bits write, the highest one first. -/
def Coder.number (b : ByteArray) (base width : Nat) (coder : Coder) : Except Halt (Nat × Coder) :=
  (coder.tree b base width 1).map fun (node, coder) => (node - Nat.pow 2 width, coder)

/-- The number that so many bits write, the lowest one first, with contexts as for a tree. -/
def Coder.reversed (b : ByteArray) (base : Nat) : Nat → Nat → Coder → Except Halt (Nat × Coder)
  | 0, _, coder => .ok (0, coder)
  | n + 1, node, coder => do
    let (bit, coder) ← coder.bit b (base + node)
    let (rest, coder) ← reversed b base n (2 * node + bit) coder
    return (bit + 2 * rest, coder)

/-! ## Contexts -/

/-- The settings of the data. -/
structure Settings where
  /-- How many bits of the byte before it the context of a byte depends on. -/
  before : Nat
  /-- How many bits of its position the context of a byte depends on. -/
  position : Nat
  /-- How many bits of its position any other context depends on. -/
  rough : Nat
  /-- How far back a copy may reach. -/
  reach : Nat

/-- The settings that five bytes write. -/
def Settings.of? (b : ByteArray) (i : Nat) : Option Settings :=
  let first := byteAt b i
  let before := first % 9
  let position := first / 9 % 5
  if 225 ≤ first || 4 < before + position then none
  else
    let reach := max 4096 (numberAt b (i + 1) 4)
    some ⟨before, position, first / 45, (reach + 15) / 16 * 16⟩

/-- Where the contexts of each kind start. -/
def isCopyBase : Nat := 0
def isRepeatBase : Nat := 192
def notLastBase : Nat := 204
def notSecondBase : Nat := 216
def notThirdBase : Nat := 228
def isLongBase : Nat := 240
def distanceBase : Nat := 432
def middleBase : Nat := 688
def lowBase : Nat := 802
def lengthBase : Nat := 818
def repeatLengthBase : Nat := 1332
def byteBase : Nat := 1846

/-- At the start either bit is as likely as the other in each context. -/
def startChances (s : Settings) : Array UInt32 :=
  Array.replicate (byteBase + 768 * Nat.pow 2 (s.before + s.position)) 1024

/-! ## Lengths and distances -/

/-- The length of a copy; `rough` is the part of the position that its contexts depend on. -/
def copyLength (b : ByteArray) (base rough : Nat) (coder : Coder) : Except Halt (Nat × Coder) := do
  let (isLonger, coder) ← coder.bit b base
  if isLonger == 0 then
    let (n, coder) ← coder.number b (base + 2 + 8 * rough) 3
    return (2 + n, coder)
  else
    let (isLongest, coder) ← coder.bit b (base + 1)
    if isLongest == 0 then
      let (n, coder) ← coder.number b (base + 130 + 8 * rough) 3
      return (10 + n, coder)
    else
      let (n, coder) ← coder.number b (base + 258) 8
      return (18 + n, coder)

/-- The distance of a copy, less one; it depends on the length. -/
def copyDistance (b : ByteArray) (length : Nat) (coder : Coder) : Except Halt (Nat × Coder) := do
  let (slot, coder) ← coder.number b (distanceBase + 64 * min (length - 2) 3) 6
  if slot < 4 then return (slot, coder)
  else
    let width := slot / 2 - 1
    let base := (2 + slot % 2) * Nat.pow 2 width
    if slot < 14 then
      let (low, coder) ← coder.reversed b (middleBase + base - slot - 1) width 1
      return (base + low, coder)
    else
      let (high, coder) ← coder.evenBits b (width - 4) 0
      let (low, coder) ← coder.reversed b lowBase 4 1
      return (base + 16 * high + low, coder)

/-- The distance that stands for the end of the data, less one. -/
def endDistance : Nat := 0xFFFFFFFF

/-! ## Symbols -/

/-- What the next symbol depends on beside the contexts: the kinds of the last few symbols, and the
last four distances, less one. -/
structure History where
  kinds : Nat := 0
  last : Nat := 0
  second : Nat := 0
  third : Nat := 0
  fourth : Nat := 0

namespace History

/-- The kinds after one more byte. -/
def afterByte (h : History) : History :=
  { h with kinds := if h.kinds < 4 then 0 else if h.kinds < 10 then h.kinds - 3 else h.kinds - 6 }

/-- The kinds after one more copy, of a kind that depends on whether the symbol before it was a
byte. -/
def after (h : History) (behindByte behindCopy : Nat) : History :=
  { h with kinds := if h.kinds < 7 then behindByte else behindCopy }

end History

/-- What a symbol stands for. -/
inductive Symbol
  | byte (value : Nat)
  | copy (distance length : Nat)
  | ended

/-- The byte so many bytes back, counted from zero. -/
def byteBefore (out : ByteArray) (distance : Nat) : Nat :=
  if distance < out.size then byteAt out (out.size - 1 - distance) else 0

/-- The rest of a byte that is sent with the byte at the last distance at hand; `node` holds the
bits so far, and `other` those of the other byte that are left, as long as the two bytes agree. -/
def matchedByte (b : ByteArray) (base : Nat) :
    Nat → Nat → Nat → Coder → Except Halt (Nat × Coder)
  | 0, node, _, coder => .ok (node, coder)
  | n + 1, node, other, coder => do
    let otherBit := other / 128 % 2
    let (bit, coder) ← coder.bit b (base + 256 * (1 + otherBit) + node)
    if bit == otherBit then matchedByte b base n (2 * node + bit) (2 * other) coder
    else coder.tree b base n (2 * node + bit)

/-- A byte that is sent as itself. -/
def plainByte (b : ByteArray) (s : Settings) (h : History) (out : ByteArray) (coder : Coder) :
    Except Halt (Symbol × History × Coder) := do
  let context := Nat.pow 2 s.before * (out.size % Nat.pow 2 s.position) +
    byteBefore out 0 / Nat.pow 2 (8 - s.before)
  let base := byteBase + 768 * context
  let (node, coder) ←
    if h.kinds < 7 then coder.tree b base 8 1
    else matchedByte b base 8 1 (byteBefore out h.last) coder
  return (.byte (node % 256), h.afterByte, coder)

/-- A copy from a new distance, or the end of the data. -/
def newCopy (b : ByteArray) (s : Settings) (h : History) (rough : Nat) (out : ByteArray)
    (coder : Coder) : Except Halt (Symbol × History × Coder) := do
  let (length, coder) ← copyLength b lengthBase rough coder
  let (distance, coder) ← copyDistance b length coder
  let history := { h.after 7 10 with last := distance, second := h.last, third := h.second,
                                     fourth := h.third }
  if distance == endDistance then
    let (_, code, _) ← normalized b coder.range coder.code coder.next
    if code == 0 then return (.ended, history, coder) else .error (.corrupt .rangeCoded)
  else if distance < min out.size s.reach then return (.copy distance length, history, coder)
  else .error (.corrupt .rangeCoded)

/-- A copy from one of the last four distances. -/
def repeatedCopy (b : ByteArray) (h : History) (rough : Nat) (out : ByteArray) (coder : Coder) :
    Except Halt (Symbol × History × Coder) := do
  if out.isEmpty then .error (.corrupt .rangeCoded)
  else
    let long (h : History) (coder : Coder) : Except Halt (Symbol × History × Coder) := do
      let (length, coder) ← copyLength b repeatLengthBase rough coder
      return (.copy h.last length, h.after 8 11, coder)
    let (notLast, coder) ← coder.bit b (notLastBase + h.kinds)
    if notLast == 0 then
      let (isLong, coder) ← coder.bit b (isLongBase + 16 * h.kinds + rough)
      if isLong == 0 then return (.copy h.last 1, h.after 9 11, coder) else long h coder
    else
      let (notSecond, coder) ← coder.bit b (notSecondBase + h.kinds)
      if notSecond == 0 then long { h with last := h.second, second := h.last } coder
      else
        let (notThird, coder) ← coder.bit b (notThirdBase + h.kinds)
        if notThird == 0 then
          long { h with last := h.third, second := h.last, third := h.second } coder
        else
          long { h with last := h.fourth, second := h.last, third := h.second, fourth := h.third }
            coder

/-- The next symbol behind the bytes so far. -/
def symbol (b : ByteArray) (s : Settings) (h : History) (out : ByteArray) (coder : Coder) :
    Except Halt (Symbol × History × Coder) := do
  let rough := out.size % Nat.pow 2 s.rough
  let (isCopy, coder) ← coder.bit b (isCopyBase + 16 * h.kinds + rough)
  if isCopy == 0 then plainByte b s h out coder
  else
    let (isRepeat, coder) ← coder.bit b (isRepeatBase + h.kinds)
    if isRepeat == 0 then newCopy b s h rough out coder else repeatedCopy b h rough out coder

/-- The bytes with so many of them copied to the end. -/
def copyBack (distance : Nat) : Nat → ByteArray → ByteArray
  | 0, out => out
  | n + 1, out => copyBack distance n (out.push (UInt8.ofNat (byteBefore out distance)))

/-- The bytes that symbols stand for, behind those so far. -/
def symbolsFrom (b : ByteArray) (s : Settings) :
    Nat → History → Coder → ByteArray → Decoded
  | 0, _, _, out => .cut out
  | fuel + 1, h, coder, out =>
    match symbol b s h out coder with
    | .error halt => halt.decoded out
    | .ok (.byte x, h, coder) => symbolsFrom b s fuel h coder (out.push (UInt8.ofNat x))
    | .ok (.copy distance length, h, coder) =>
      symbolsFrom b s fuel h coder (copyBack distance length out)
    | .ok (.ended, _, _) => .ended out

/-- The bytes that range coded data behind a position stand for. -/
def decodeFrom (b : ByteArray) (s : Settings) (i : Nat) : Decoded :=
  if b.size ≤ i then .cut .empty
  else if byteAt b i != 0 then .corrupt .rangeCoded .empty
  else if b.size < i + 5 then .cut .empty
  else
    let byte (k : Nat) : UInt32 := UInt32.ofNat (byteAt b (i + k))
    let code := (byte 1 <<< 24) ||| (byte 2 <<< 16) ||| (byte 3 <<< 8) ||| byte 4
    symbolsFrom b s (400 * b.size + 2000) {} ⟨0xFFFFFFFF, code, i + 5, startChances s⟩ .empty

end RangeCoded

/-- The bytes that range coded data stand for, with their settings in front of them. -/
def decodeRanges (b : ByteArray) : Decoded :=
  let size := numberAt b 2 2
  if b.size ≤ 4 || b.size ≤ 4 + size then .cut .empty
  else if size != 5 then .corrupt .settings .empty
  else
    match RangeCoded.Settings.of? b 4 with
    | none => .corrupt .settings .empty
    | some settings => RangeCoded.decodeFrom b settings 9

end StructureGrader.Archive
