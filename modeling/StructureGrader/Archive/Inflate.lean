import StructureGrader.Archive.PrefixCode

/-!
# Deflated data

Data are compressed in blocks: bytes as they are, or symbols of two prefix codes, for bytes and
lengths and for distances, each code either fixed or sent along with the block. `inflate` undoes
this, up to as many bytes as are asked for. It reads bits by their positions, the lowest one of each
byte first. The first byte for which there is no room is found out only when its symbol has been read.
-/

namespace StructureGrader.Archive

/-- A rule of deflated data is broken. -/
def broken (rule : CompressionFault) : Halt :=
  .corrupt (.deflated rule)

/-- The number that so many bits write from a position on, the lowest one first. -/
def bitsAt (b : ByteArray) (i : Nat) : Nat → Except Halt Nat
  | 0 => .ok 0
  | width + 1 =>
    match bitAt? b i with
    | none => .error .cut
    | some bit => (bitsAt b (i + 1) width).map fun rest => bit + 2 * rest

/-! ## Copies -/

/-- The shortest copy of each length symbol, and how many bits are added to it. -/
def copyLengths : Array (Nat × Nat) :=
  #[(3, 0), (4, 0), (5, 0), (6, 0), (7, 0), (8, 0), (9, 0), (10, 0), (11, 1), (13, 1), (15, 1),
    (17, 1), (19, 2), (23, 2), (27, 2), (31, 2), (35, 3), (43, 3), (51, 3), (59, 3), (67, 4),
    (83, 4), (99, 4), (115, 4), (131, 5), (163, 5), (195, 5), (227, 5), (258, 0)]

/-- The least distance of each distance symbol, and how many bits are added to it. -/
def copyDistances : Array (Nat × Nat) :=
  #[(1, 0), (2, 0), (3, 0), (4, 0), (5, 1), (7, 1), (9, 2), (13, 2), (17, 3), (25, 3), (33, 4),
    (49, 4), (65, 5), (97, 5), (129, 6), (193, 6), (257, 7), (385, 7), (513, 8), (769, 8),
    (1025, 9), (1537, 9), (2049, 10), (3073, 10), (4097, 11), (6145, 11), (8193, 12),
    (12289, 12), (16385, 13), (24577, 13)]

/-- A number of a table with bits added, and the position behind them. -/
def extended (table : Array (Nat × Nat)) (symbol : Option Nat) (fault : CompressionFault)
    (b : ByteArray) (i : Nat) : Except Halt (Nat × Nat) :=
  match symbol.bind fun s => table[s]? with
  | none => .error (broken fault)
  | some (base, width) => (bitsAt b i width).map fun more => (base + more, i + width)

/-- The length and the distance of a copy whose length symbol has been read, and the position
behind them. -/
def copyAt (distances : PrefixCode) (b : ByteArray) (symbol i : Nat) :
    Except Halt (Nat × Nat × Nat) := do
  let (length, i) ← extended copyLengths (some (symbol - 257)) .literalCode b i
  let (distance, i) ← distances.symbolAt (bitAt? b) i
  let (distance, i) ← extended copyDistances distance .distanceCode b i
  .ok (length, distance, i)

/-- The bytes with so many of them copied to the end, each from the same distance. -/
def copyBack (out : ByteArray) (distance : Nat) : Nat → ByteArray
  | 0 => out
  | n + 1 => copyBack (out.push (UInt8.ofNat (byteAt out (out.size - distance)))) distance n

/-! ## Blocks -/

/-- What a block comes to. -/
inductive Block
  /-- The block is over at a position. -/
  | done (i : Nat) (out : ByteArray)
  | halted (halt : Halt) (out : ByteArray)

/-- How many of `n` more bytes there is room for. -/
def roomFor (limit : Option Nat) (out : ByteArray) (n : Nat) : Nat :=
  match limit with
  | none => n
  | some limit => min n (limit - out.size)

/-- The bytes that symbols stand for, up to the end of their block. -/
def symbolsFrom (literals distances : PrefixCode) (b : ByteArray) (limit : Option Nat) :
    Nat → Nat → ByteArray → Block
  | 0, _, out => .halted .cut out
  | fuel + 1, i, out =>
    match literals.symbolAt (bitAt? b) i with
    | .error halt => .halted halt out
    | .ok (none, _) => .halted (broken .literalCode) out
    | .ok (some symbol, i) =>
      if symbol < 256 then
        if roomFor limit out 1 == 0 then .halted (.full i) out
        else symbolsFrom literals distances b limit fuel i (out.push (UInt8.ofNat symbol))
      else if symbol == 256 then .done i out
      else
        match copyAt distances b symbol i with
        | .error halt => .halted halt out
        | .ok (length, distance, i) =>
          let room := roomFor limit out length
          if room == 0 then .halted (.full i) out
          else if out.size < distance then .halted (broken .distanceTooFar) out
          else
            let out := copyBack out distance room
            if room < length then .halted (.full i) out
            else symbolsFrom literals distances b limit fuel i out

/-- A block of bytes as they are, from the next whole byte on. -/
def storedBlock (b : ByteArray) (limit : Option Nat) (i : Nat) (out : ByteArray) : Block :=
  let start := (i + 7) / 8
  let length := numberAt b start 2
  let room := roomFor limit out length
  let data := stretch b (start + 4) room
  if b.size < start + 4 then .halted .cut out
  else if length + numberAt b (start + 2) 2 != 0xFFFF then .halted (broken .storedLengths) out
  else if data.size < room then .halted .cut (out ++ data)
  else if room < length then .halted (.full (8 * (start + 4 + room))) (out ++ data)
  else .done (8 * (start + 4 + length)) (out ++ data)

/-- The greatest length of a word of a code. -/
def longestWord : Nat := 15

/-- A code by the lengths of its words. -/
def codeOf (lengths : List Nat) : PrefixCode :=
  (PrefixCode.ofLengths longestWord lengths).trimmed

/-- The fixed code for bytes and lengths. -/
def fixedLiterals : PrefixCode :=
  codeOf (List.replicate 144 8 ++ List.replicate 112 9 ++ List.replicate 24 7 ++
    List.replicate 8 8)

/-- The fixed code for distances. -/
def fixedDistances : PrefixCode :=
  codeOf (List.replicate 32 5)

/-- The order in which the lengths of the code for lengths are sent. -/
def lengthOrder : List Nat :=
  [16, 17, 18, 0, 8, 7, 9, 6, 10, 5, 11, 4, 12, 3, 13, 2, 14, 1, 15]

/-- The lengths of the code for lengths, three bits each, in the order in which they are sent. -/
def sentLengths (b : ByteArray) (i : Nat) : Nat → Except Halt (List Nat)
  | 0 => .ok []
  | n + 1 => do
    let l ← bitsAt b i 3
    let rest ← sentLengths b (i + 3) n
    .ok (l :: rest)

/-- Code lengths up to a total number, from their own code: lengths as they are, or repeats of the
last one or of zero. `done` holds those so far, in reverse order. -/
def lengthsFrom (code : PrefixCode) (b : ByteArray) (total : Nat) :
    Nat → Nat → List Nat → Except Halt (List Nat × Nat)
  | 0, _, _ => .error .cut
  | fuel + 1, i, done =>
    if total ≤ done.length then .ok (done.reverse, i)
    else do
      let (symbol, i) ← code.symbolAt (bitAt? b) i
      let symbol := symbol.getD 0
      if symbol < 16 then lengthsFrom code b total fuel i (symbol :: done)
      else
        let (least, width) :=
          if symbol == 16 then (3, 2) else if symbol == 17 then (3, 3) else (11, 7)
        let more ← bitsAt b i width
        let count := least + more
        let repeated := if symbol == 16 then done.head? else some 0
        match repeated with
        | none => .error (broken .lengthRepeat)
        | some l =>
          if total < done.length + count then .error (broken .lengthRepeat)
          else lengthsFrom code b total fuel (i + width) (List.replicate count l ++ done)

/-- The two codes that are sent along with a block, and the position behind them. -/
def sentCodes (b : ByteArray) (i : Nat) : Except Halt (PrefixCode × PrefixCode × Nat) := do
  let header ← bitsAt b i 14
  let literalCount := header % 32 + 257
  let distanceCount := header / 32 % 32 + 1
  let lengthCount := header / 1024 + 4
  if 286 < literalCount || 30 < distanceCount then .error (broken .tooManyCodes)
  else
    let sent ← sentLengths b (i + 14) lengthCount
    let code := codeOf ((List.range 19).map fun s =>
      (sent.zip lengthOrder).foldl (fun l x => if x.2 == s then x.1 else l) 0)
    if !code.symbols.isEmpty && !code.isComplete then .error (broken .codeLengths)
    else
      let total := literalCount + distanceCount
      let (lengths, i) ← lengthsFrom code b total (total + 1) (i + 14 + 3 * lengthCount) []
      let literals := codeOf (lengths.take literalCount)
      let distances := codeOf (lengths.drop literalCount)
      if lengths.getD 256 0 == 0 then .error (broken .missingEnd)
      else if !literals.isUsable then .error (broken .literalLengths)
      else if !distances.isUsable then .error (broken .distanceLengths)
      else .ok (literals, distances, i)

/-- A block of the kind that its header gives. -/
def blockAt (b : ByteArray) (limit : Option Nat) (kind i : Nat) (out : ByteArray) : Block :=
  let steps := 8 * b.size + 1
  match kind with
  | 0 => storedBlock b limit i out
  | 1 => symbolsFrom fixedLiterals fixedDistances b limit steps i out
  | 2 =>
    match sentCodes b i with
    | .error halt => .halted halt out
    | .ok (literals, distances, i) => symbolsFrom literals distances b limit steps i out
  | _ => .halted (broken .blockType) out

/-- The bytes that blocks stand for, up to the last block. -/
def blocksFrom (b : ByteArray) (limit : Option Nat) : Nat → Nat → ByteArray → Decoded
  | 0, _, out => .cut out
  | fuel + 1, i, out =>
    match bitsAt b i 3 with
    | .error halt => halt.decoded out
    | .ok header =>
      match blockAt b limit (header / 2) (i + 3) out with
      | .halted halt out => halt.decoded out
      | .done i out => if header % 2 == 1 then .ended out else blocksFrom b limit fuel i out

/-- The bytes that deflated data stand for, up to a limit if there is one. -/
def inflate (b : ByteArray) (limit : Option Nat) : Decoded :=
  blocksFrom b limit (8 * b.size + 1) 0 ByteArray.empty

end StructureGrader.Archive
