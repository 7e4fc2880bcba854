import StructureGrader.Archive.PrefixCode

/-!
# Block-sorted data

Data are compressed in blocks. The bytes of a block, with runs of four and more of them shortened,
are sorted by what follows them; the last column of the sorted block is sent as the numbers of bytes
in a list in which each byte moves to the front when it is used; and runs of zeros among these
numbers are shortened once more. The numbers are symbols of prefix codes, of which a selector names
one for fifty symbols at a time. `mergeBlocks` undoes all of this. Each block carries a checksum of
its bytes and the data one of all blocks.

A block is decoded when all of its bits are there. Where no byte is left behind a block, no more of it
comes out at first than there is room for in the memory that is ready for it (`readyRoom`).
-/

namespace StructureGrader.Archive

namespace BlockSorted

/-! ## Reading -/

/-- A part of the data is read from a position on. -/
abbrev Reader (α : Type) := StateT Nat (Except Halt) α

/-- The data break a rule. -/
def broken {α : Type} : Reader α :=
  throw (.corrupt .blockSorted)

/-- Goes on where a condition holds; else the data break a rule. -/
def check (condition : Bool) : Reader Unit :=
  if condition then pure () else broken

/-- The next bit, the highest one of each byte first. -/
def bit (b : ByteArray) : Reader Nat := fun i =>
  match topBitAt? b i with
  | none => .error .cut
  | some x => .ok (x, i + 1)

/-- The number that the next bits write, the highest one first. -/
def bits (b : ByteArray) : Nat → Reader Nat
  | 0 => pure 0
  | n + 1 => do
    let front ← bits b n
    return 2 * front + (← bit b)

/-- The bytes that have to come next. -/
def expect (b : ByteArray) : List Nat → Reader Unit
  | [] => pure ()
  | x :: xs => do
    check ((← bits b 8) == x)
    expect b xs

/-- The positions of the bits that are set among the next `n`, counted from `start`. -/
def setBits (b : ByteArray) (start : Nat) : Nat → Reader (List Nat)
  | 0 => pure []
  | n + 1 => do
    let isSet ← bit b
    let rest ← setBits b (start + 1) n
    return if isSet == 1 then start :: rest else rest

/-- How many ones come before the next zero; there may be fewer than `n`. -/
def ones (b : ByteArray) : Nat → Reader Nat
  | 0 => broken
  | n + 1 => do
    if (← bit b) == 0 then return 0
    return (← ones b n) + 1

/-- What `read` reads, so many times. -/
def times {α : Type} (read : Reader α) : Nat → Reader (List α)
  | 0 => pure []
  | n + 1 => do
    let first ← read
    return first :: (← times read n)

/-! ## The head of a block -/

/-- The bytes in front of a block. -/
def blockMark : List Nat := [0x31, 0x41, 0x59, 0x26, 0x53, 0x59]

/-- The bytes behind the last block. -/
def endMark : List Nat := [0x17, 0x72, 0x45, 0x38, 0x50, 0x90]

/-- An item of a list moved to its front. -/
def toFront (xs : List Nat) (n : Nat) : List Nat :=
  xs.getD n 0 :: xs.eraseIdx n

/-- The items that numbers stand for in a list in which each item moves to the front. -/
def fromFront (xs : List Nat) : List Nat → List Nat
  | [] => []
  | n :: ns => xs.getD n 0 :: fromFront (toFront xs n) ns

/-- The bytes that a block uses: for each stretch of sixteen that has some a map of these. -/
def usedBytes (b : ByteArray) : Reader (List Nat) := do
  let stretches ← setBits b 0 16
  let maps ← stretches.mapM fun k => setBits b (16 * k) 16
  check !maps.flatten.isEmpty
  return maps.flatten

/-- The greatest number of selectors that a block has use for. -/
def selectorLimit : Nat := 18002

/-- Which code each fifty symbols are sent in, and how many codes there are. -/
def selectors (b : ByteArray) : Reader (Nat × Array Nat) := do
  let codes ← bits b 3
  check (2 ≤ codes && codes ≤ 6)
  let count ← bits b 15
  check (1 ≤ count)
  let numbers ← times (ones b codes) count
  return (codes, (fromFront (List.range codes) (numbers.take selectorLimit)).toArray)

/-- The greatest length of a word of a code. -/
def longestWord : Nat := 20

/-- The length of the next word: `length` with changes by one as long as the bits say so; `n` bounds
how many there are. -/
def changedLength (b : ByteArray) : Nat → Nat → Reader Nat
  | 0, _ => throw .cut
  | n + 1, length => do
    check (1 ≤ length && length ≤ longestWord)
    if (← bit b) == 0 then return length
    if (← bit b) == 0 then changedLength b n (length + 1) else changedLength b n (length - 1)

/-- The lengths of the words for so many symbols, each by the changes to the one before. -/
def wordLengths (b : ByteArray) : Nat → Nat → Reader (List Nat)
  | 0, _ => pure []
  | n + 1, length => do
    let length ← changedLength b (8 * b.size + 1) length
    return length :: (← wordLengths b n length)

/-- A code for so many symbols. A word that is no word of the code is found out one bit later than
the longest one that there may be. -/
def code (b : ByteArray) (symbols : Nat) : Reader PrefixCode := do
  let start ← bits b 5
  return .ofLengths (longestWord + 1) (← wordLengths b symbols start)

/-! ## Symbols -/

/-- The codes of a block, with the selectors that are left and how many symbols are left for the
current one. -/
structure Codes where
  codes : Array PrefixCode
  selectors : Array Nat
  /-- How many symbols have been read. -/
  read : Nat := 0

/-- The next symbol of a block. -/
def symbol (b : ByteArray) (c : Codes) : Reader (Nat × Codes) := fun i =>
  match (c.selectors[c.read / 50]?).bind fun k => c.codes[k]? with
  | none => broken i
  | some code =>
    match code.symbolAt (topBitAt? b) i with
    | .error halt => .error halt
    | .ok (none, _) => broken i
    | .ok (some s, i) => .ok ((s, { c with read := c.read + 1 }), i)

/-- The greatest number that the length of a run may double to. -/
def runLimit : Nat := 2 * 1024 * 1024

/-- The column of a block with a byte added so many times; it may not grow longer than `size`. -/
def pushTimes (size : Nat) (column : ByteArray) (byte : Nat) : Nat → Reader ByteArray
  | 0 => pure column
  | n + 1 => do
    check (column.size < size)
    pushTimes size (column.push (UInt8.ofNat byte)) byte n

/-- The last column of a block of at most `size` bytes: `front` holds the bytes that are used with
the ones used last in front, `run` is the length of the run of zeros under way, and `weight` what
the next symbol of the run counts. -/
def columnFrom (b : ByteArray) (size : Nat) :
    Nat → Codes → List Nat → Nat → Nat → ByteArray → Reader ByteArray
  | 0, _, _, _, _, _ => throw .cut
  | fuel + 1, codes, front, run, weight, column => do
    let (s, codes) ← symbol b codes
    if s ≤ 1 then
      check (weight < runLimit)
      columnFrom b size fuel codes front (run + (s + 1) * weight) (2 * weight) column
    else
      let column ← pushTimes size column (front.getD 0 0) run
      if s == front.length + 1 then return column
      check (column.size < size)
      columnFrom b size fuel codes (toFront front (s - 1)) 0 1
        (column.push (UInt8.ofNat (front.getD (s - 1) 0)))

/-! ## Blocks -/

/-- What is sent of a block. -/
structure Block where
  checksum : Nat
  isRandomised : Bool
  /-- Where the block itself stands among its sorted rotations. -/
  origin : Nat
  column : ByteArray

/-- How many bytes a block has at most, for each of nine levels. -/
def blockSize (level : Nat) : Nat :=
  100000 * level

/-- The block whose mark has been read. -/
def block (b : ByteArray) (level : Nat) : Reader Block := do
  let checksum ← bits b 32
  let isRandomised ← bit b
  let origin ← bits b 24
  check (origin ≤ 10 + blockSize level)
  let used ← usedBytes b
  let (count, selectors) ← selectors b
  let codes ← times (code b (used.length + 2)) count
  let column ← columnFrom b (blockSize level) (8 * b.size + 1) ⟨codes.toArray, selectors, 0⟩ used 0 1
    .empty
  check (origin < column.size)
  return { checksum, isRandomised := isRandomised == 1, origin, column }

/-- For each place of the sorted first column the place in the last column of the same byte. -/
def successors (column : ByteArray) : Array Nat :=
  let places := column.toList.zipIdx.foldl
    (fun places x => places.modify x.1.toNat (·.push x.2)) (Array.replicate 256 #[])
  places.foldl (· ++ ·) #[]

/-- The bytes of a block from a place on, in their order, behind those so far. -/
def unsortFrom (column : ByteArray) (successors : Array Nat) :
    Nat → Nat → ByteArray → ByteArray
  | 0, _, out => out
  | n + 1, place, out =>
    unsortFrom column successors n (successors.getD place 0)
      (out.push (UInt8.ofNat (byteAt column place)))

/-- The bytes of a block in their order. -/
def unsort (column : ByteArray) (origin : Nat) : ByteArray :=
  let successors := successors column
  unsortFrom column successors column.size (successors.getD origin 0) .empty

/-- The distances between the bytes of a randomised block that have their lowest bit turned, in
turn. -/
def turnedDistances : Array Nat :=
  #[619, 720, 127, 481, 931, 816, 813, 233, 566, 247, 985, 724, 205, 454, 863, 491, 741, 242, 949,
    214, 733, 859, 335, 708, 621, 574, 73, 654, 730, 472, 419, 436, 278, 496, 867, 210, 399, 680,
    480, 51, 878, 465, 811, 169, 869, 675, 611, 697, 867, 561, 862, 687, 507, 283, 482, 129, 807,
    591, 733, 623, 150, 238, 59, 379, 684, 877, 625, 169, 643, 105, 170, 607, 520, 932, 727, 476,
    693, 425, 174, 647, 73, 122, 335, 530, 442, 853, 695, 249, 445, 515, 909, 545, 703, 919, 874,
    474, 882, 500, 594, 612, 641, 801, 220, 162, 819, 984, 589, 513, 495, 799, 161, 604, 958, 533,
    221, 400, 386, 867, 600, 782, 382, 596, 414, 171, 516, 375, 682, 485, 911, 276, 98, 553, 163,
    354, 666, 933, 424, 341, 533, 870, 227, 730, 475, 186, 263, 647, 537, 686, 600, 224, 469, 68,
    770, 919, 190, 373, 294, 822, 808, 206, 184, 943, 795, 384, 383, 461, 404, 758, 839, 887, 715,
    67, 618, 276, 204, 918, 873, 777, 604, 560, 951, 160, 578, 722, 79, 804, 96, 409, 713, 940, 652,
    934, 970, 447, 318, 353, 859, 672, 112, 785, 645, 863, 803, 350, 139, 93, 354, 99, 820, 908,
    609, 772, 154, 274, 580, 184, 79, 626, 630, 742, 653, 282, 762, 623, 680, 81, 927, 626, 789,
    125, 411, 521, 938, 300, 821, 78, 343, 175, 128, 250, 170, 774, 972, 275, 999, 639, 495, 78,
    352, 126, 857, 956, 358, 619, 580, 124, 737, 594, 701, 612, 669, 112, 134, 694, 363, 992, 809,
    743, 168, 974, 944, 375, 748, 52, 600, 747, 642, 182, 862, 81, 344, 805, 988, 739, 511, 655,
    814, 334, 249, 515, 897, 955, 664, 981, 649, 113, 974, 459, 893, 228, 433, 837, 553, 268, 926,
    240, 102, 654, 459, 51, 686, 754, 806, 760, 493, 403, 415, 394, 687, 700, 946, 670, 656, 610,
    738, 392, 760, 799, 887, 653, 978, 321, 576, 617, 626, 502, 894, 679, 243, 440, 680, 879, 194,
    572, 640, 724, 926, 56, 204, 700, 707, 151, 457, 449, 797, 195, 791, 558, 945, 679, 297, 59, 87,
    824, 713, 663, 412, 693, 342, 606, 134, 108, 571, 364, 631, 212, 174, 643, 304, 329, 343, 97,
    430, 751, 497, 314, 983, 374, 822, 928, 140, 206, 73, 263, 980, 736, 876, 478, 430, 305, 170,
    514, 364, 692, 829, 82, 855, 953, 676, 246, 369, 970, 294, 750, 807, 827, 150, 790, 288, 923,
    804, 378, 215, 828, 592, 281, 565, 555, 710, 82, 896, 831, 547, 261, 524, 462, 293, 465, 502,
    56, 661, 821, 976, 991, 658, 869, 905, 758, 745, 193, 768, 550, 608, 933, 378, 286, 215, 979,
    792, 961, 61, 688, 793, 644, 986, 403, 106, 366, 905, 644, 372, 567, 466, 434, 645, 210, 389,
    550, 919, 135, 780, 773, 635, 389, 707, 100, 626, 958, 165, 504, 920, 176, 193, 713, 857, 265,
    203, 50, 668, 108, 645, 990, 626, 197, 510, 357, 358, 850, 858, 364, 936, 638]

/-- The bytes of a block with bits turned, behind those so far: `ahead` is how far the next one to
be turned is away, counted from one, and `next` tells the distance behind it. -/
def turnFrom (bytes : ByteArray) : Nat → Nat → Nat → ByteArray → ByteArray
  | 0, _, _, out => out
  | n + 1, ahead, next, out =>
    let byte := byteAt bytes out.size
    let out := out.push (UInt8.ofNat (if ahead == 1 then byte ^^^ 1 else byte))
    if ahead == 0 then
      turnFrom bytes n (turnedDistances.getD next 0 - 1) ((next + 1) % turnedDistances.size) out
    else turnFrom bytes n (ahead - 1) next out

/-- The bytes of a randomised block as they were. -/
def turn (bytes : ByteArray) : ByteArray :=
  turnFrom bytes bytes.size (turnedDistances.getD 0 0 - 1) 1 .empty

/-- A byte added so many times. -/
def copyOf (x : UInt8) : Nat → ByteArray → ByteArray
  | 0, out => out
  | n + 1, out => copyOf x n (out.push x)

/-- The bytes with their runs in full, behind those so far: after four equal bytes stands how many
more of them follow. `run` is how many equal ones there are so far of `last`. The answer also says
whether no such number is missing at the end. -/
def withRuns (last : UInt8) : Nat → List UInt8 → ByteArray → ByteArray × Bool
  | run, [], out => (out, run != 4)
  | run, x :: xs, out =>
    if run == 4 then withRuns last 0 xs (copyOf last x.toNat out)
    else withRuns x (if run != 0 && x == last then run + 1 else 1) xs (out.push x)

/-- The bytes of a block, and whether its last run is complete. -/
def Block.bytes (block : Block) : ByteArray × Bool :=
  let bytes := unsort block.column block.origin
  withRuns 0 0 (if block.isRandomised then turn bytes else bytes).toList .empty

/-! ## Checksums -/

/-- The polynomial of the checksum without its highest term. -/
def polynomial : UInt32 := 0x04C11DB7

/-- The remainder after one more bit of zero. -/
def shiftRemainder (r : UInt32) : UInt32 :=
  if r &&& 0x80000000 == 0x80000000 then (r <<< 1) ^^^ polynomial else r <<< 1

/-- The remainder after one more byte. -/
def addByte (r : UInt32) (x : UInt8) : UInt32 :=
  Nat.repeat shiftRemainder 8 (r ^^^ (x.toUInt32 <<< 24))

/-- The checksum of the bytes of a block. -/
def checksum (bytes : ByteArray) : UInt32 :=
  bytes.foldl addByte 0xFFFFFFFF ^^^ 0xFFFFFFFF

/-- The checksum of several blocks with one more. -/
def addBlock (all block : UInt32) : UInt32 :=
  ((all <<< 1) ||| (all >>> 31)) ^^^ block

/-! ## All blocks -/

/-- The sizes to which the memory for what comes out of one call grows. -/
def memorySizes : List Nat :=
  let sizes := [32, 64, 256, 1024, 4096, 8192, 16384, 16384, 32768, 32768, 32768, 32768, 65536,
    65536, 131072, 131072, 262144].map (1024 * ·)
  (List.range sizes.length).map fun n => (sizes.take (n + 1)).foldl (· + ·) 0

/-- How much of a block there is room for in memory that is ready, behind `n` bytes of other blocks;
`none` where there is no bound. -/
def readyRoom (n : Nat) : Option Nat :=
  (memorySizes.find? (max n 1 ≤ ·)).map (· - n)

/-- The bytes of a block added to those so far, with the checksum of all blocks, or what the data
come to where it is the last block. Of a block with no byte behind it only so much is added as there
is room for, and a fault of it shows when all of it is added; `given` bytes have come out of earlier
calls. -/
def addBytes (block : Block) (isLast : Bool) (given : Nat) (all : UInt32) (out : ByteArray) :
    Except Decoded (UInt32 × ByteArray) :=
  let (bytes, isComplete) := block.bytes
  let room := if isLast then readyRoom (out.size - given) else none
  let fits := room.all fun room => if isComplete then bytes.size ≤ room else bytes.size < room
  if !fits then .error (.cut (out ++ stretch bytes 0 (room.getD 0)))
  else if !isComplete || (checksum bytes).toNat != block.checksum then
    .error (.corrupt .blockSorted out)
  else .ok (addBlock all (checksum bytes), out ++ bytes)

/-- What comes next in the data. -/
inductive Part
  | block (value : Block)
  /-- The end of the data, with the checksum of all blocks. -/
  | ended (checksum : Nat)

/-- The next part of the data. -/
def part (b : ByteArray) (level : Nat) : Reader Part := do
  let first ← bits b 8
  if first == endMark.headD 0 then
    expect b endMark.tail
    return .ended (← bits b 32)
  else
    check (first == blockMark.headD 0)
    expect b blockMark.tail
    return .block (← block b level)

/-- The bytes that blocks stand for from a position on, behind those so far. -/
def blocksFrom (b : ByteArray) (given level : Nat) : Nat → Nat → UInt32 → ByteArray → Decoded
  | 0, _, _, out => .cut out
  | fuel + 1, i, all, out =>
    match part b level i with
    | .error halt => halt.decoded out
    | .ok (.ended checksum, _) =>
      if all.toNat == checksum then .ended out else .corrupt .blockSorted out
    | .ok (.block block, i) =>
      match addBytes block (decide (b.size ≤ (i + 7) / 8)) given all out with
      | .error decoded => decoded
      | .ok (all, out) => blocksFrom b given level fuel i all out

/-- The level that the head of the data names. -/
def level (b : ByteArray) : Reader Nat := do
  expect b [0x42, 0x5A, 0x68]
  let digit ← bits b 8
  check (0x31 ≤ digit && digit ≤ 0x39)
  return digit - 0x30

end BlockSorted

/-- The bytes that block-sorted data stand for, of which `given` have come out before. -/
def mergeBlocks (b : ByteArray) (given : Nat) : Decoded :=
  match BlockSorted.level b 0 with
  | .error halt => halt.decoded .empty
  | .ok (level, i) => BlockSorted.blocksFrom b given level (b.size + 1) i 0 .empty

end StructureGrader.Archive
