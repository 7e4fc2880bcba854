import StructureGrader.Archive.BlockSorted
import StructureGrader.Archive.Checksum
import StructureGrader.Archive.Directory
import StructureGrader.Archive.Inflate
import StructureGrader.Archive.RangeCoded

/-!
# Reading one member of an archive

A member is opened by its header, which has to agree with the directory (`openedAt`), and then read:
the data are as they are or compressed in one of three ways, and the checksum is that of as many
bytes as the directory promises (`memberBytes`).

The data are taken from the archive in stretches (`Progress.next`), and reading stops when what is
promised has come out of them, when the data are over, or when all of them are taken. So a fault behind
that point stays unnoticed.
-/

namespace StructureGrader.Archive

/-! ## Descriptions -/

/-- The letter for the kind of a file, by the highest bits of its mode. -/
def fileKindLetter (mode : Nat) : Char :=
  match mode / 4096 with
  | 1 => 'p'
  | 2 => 'c'
  | 4 => 'd'
  | 6 => 'b'
  | 8 => '-'
  | 10 => 'l'
  | 12 => 's'
  | _ => '?'

/-- The letters for three permissions and a fourth that shows in the place of the last. -/
def permissionLetters (bits : Nat) (special : Bool) (small capital : Char) : List Char :=
  [if bits.testBit 2 then 'r' else '-', if bits.testBit 1 then 'w' else '-',
    match bits.testBit 0, special with
    | true, true => small
    | false, true => capital
    | true, false => 'x'
    | false, false => '-']

/-- The mode of a file in letters. -/
def modeLetters (mode : Nat) : String :=
  String.ofList (fileKindLetter mode :: (permissionLetters (mode / 64) (mode.testBit 11) 's' 'S' ++
    permissionLetters (mode / 8) (mode.testBit 10) 's' 'S' ++
    permissionLetters mode (mode.testBit 9) 't' 'T'))

/-- The name of a compression method. -/
def methodName (method : Nat) : String :=
  let names := [(1, "shrink"), (2, "reduce"), (3, "reduce"), (4, "reduce"), (5, "reduce"),
    (6, "implode"), (7, "tokenize"), (8, "deflate"), (9, "deflate64"), (10, "implode"),
    (12, "bzip2"), (14, "lzma"), (18, "terse"), (19, "lz77"), (97, "wavpack"), (98, "ppmd")]
  ((names.find? fun n => n.1 == method).map Prod.snd).getD (toString method)

namespace Member

/-- The description of a member in messages. -/
def description (m : Member) : String :=
  let mode := m.attributes / 65536
  let low := m.attributes % 65536
  let digits := (Nat.toDigits 16 low)
  let part (shown : Bool) (s : String) : String := if shown then s else ""
  "<ZipInfo filename=" ++ Text.quoted m.name ++
    part (m.method != 0) (" compress_type=" ++ methodName m.method) ++
    part (mode != 0) (" filemode=" ++ Text.quoted (modeLetters mode)) ++
    part (low != 0) (" external_attr=0x" ++ String.ofList digits) ++
    part (!m.isFolder || m.size != 0) (" file_size=" ++ toString m.size) ++
    part ((!m.isFolder || m.compressedSize != 0) && (m.method != 0 || m.size != m.compressedSize))
      (" compress_size=" ++ toString m.compressedSize) ++ ">"

end Member

/-! ## Opening -/

/-- A failure that is no fault of the structure. -/
def failed {α : Type} (fault : ArchiveFault) : Except UnpackError α :=
  .error (.failed fault)

/-- The length of the part of a header that all of them have. -/
def headerSize : Nat := 30

/-- The first four bytes of a header, as a number. -/
def headerMark : Nat := 0x04034B50

/-- The position behind so many bytes, or the end of the archive. -/
def advance (b : ByteArray) (i n : Nat) : Nat :=
  min b.size (i + n)

/-- The number from which on no position can be written as the machine writes them. -/
def offsetBound : Int := 0x8000000000000000

/-- The methods by which data can be compressed: not at all, deflated, block-sorted and range coded.
-/
def knownMethods : List Nat := [0, 8, 12, 14]

/-- Where the data of a member start, when its header at a position agrees with the directory and it
can be read. -/
def openedAt (b : ByteArray) (m : Member) (i : Nat) : Except UnpackError Nat :=
  if b.size < i + headerSize then malformed .headerCut
  else if numberAt b i 4 != headerMark then malformed .headerMark
  else
    let nameSize := numberAt b (i + 26) 2
    let nameBytes := stretch b (i + headerSize) nameSize
    let start := advance b (advance b (i + headerSize) nameSize) (numberAt b (i + 28) 2)
    if m.flags.testBit 5 then failed (.unsupported .patchedData)
    else if m.flags.testBit 6 then failed (.unsupported .strongEncryption)
    else do
      let name ← nameOf (numberAt b (i + 6) 2) nameBytes
      if name != m.writtenName then malformed (.names m.writtenName nameBytes.toList)
      else if m.limit < Int.ofNat (start + m.compressedSize) then
        malformed (.overlap m.writtenName)
      else if m.flags.testBit 0 then failed (.encrypted m.description)
      else if !knownMethods.contains m.method then failed (.unsupported .method)
      else .ok start

/-- Where the data of a member start; no position behind `seekLimit` can be gone to. -/
def dataStart (seekLimit : Nat) (b : ByteArray) (m : Member) : Except UnpackError Nat :=
  if m.offset < -offsetBound || offsetBound ≤ m.offset then failed .offsetTooLarge
  else if m.offset < 0 || Int.ofNat seekLimit < m.offset then failed .outOfReach
  else openedAt b m m.offset.toNat

/-! ## Reading -/

/-- The first bytes, at most so many. -/
def firstBytes (b : ByteArray) (n : Nat) : ByteArray :=
  stretch b 0 n

/-- How many bytes are written at a time. -/
def pieceSize : Nat := 65536

/-- The least number of bytes that are taken at a time, as long as there are that many. -/
def leastTaken : Nat := 4096

/-- How far the reading of a member has come. -/
structure Progress where
  /-- How many bytes of its data have been taken. -/
  taken : Nat := 0
  /-- How many of these are still to be used. -/
  unused : Nat := 0
  /-- What has come out of them. -/
  out : ByteArray := .empty
  isOver : Bool := false

/-- How many bytes of the data are taken when more are asked for; `none` where more are promised and
none are there. -/
def Progress.takenAfter? (p : Progress) (m : Member) (data : ByteArray) (n : Nat) : Option Nat :=
  let more := min (min (max n leastTaken) (m.compressedSize - p.taken)) (data.size - p.taken)
  if m.compressedSize ≤ p.taken then some p.taken
  else if more == 0 then none
  else some (p.taken + more)

/-- What the data taken so far stand for, but for deflated ones; `given` bytes have come out before.
-/
def decoded (method : Nat) (data : ByteArray) (given : Nat) : Decoded :=
  match method with
  | 12 => mergeBlocks data given
  | 14 => decodeRanges data
  | _ => .cut data

/-- The progress after as much is taken as `n` bytes need that are to come out next. -/
def Progress.advance (p : Progress) (m : Member) (data : ByteArray) (n : Nat) :
    Except ArchiveFault Progress :=
  match p.takenAfter? m data n with
  | none => .error .dataCut
  | some taken =>
    match decoded m.method (firstBytes data taken) p.out.size with
    | .corrupt fault _ => .error (.corruptData fault)
    | .ended out => .ok { taken, out, isOver := true }
    | .cut out | .full out _ => .ok { taken, out, isOver := m.compressedSize ≤ taken }

/-- The progress of deflated data after `n` bytes or a few more have come out of them. No more are
taken as long as enough of them are unused. When all are used, what is held back comes out as well,
whatever else is wrong with it. -/
def Progress.advanceDeflated (p : Progress) (m : Member) (data : ByteArray) (n : Nat) :
    Except ArchiveFault Progress :=
  match if p.unused < n then p.takenAfter? m data (n - p.unused) else some p.taken with
  | none => .error .dataCut
  | some taken =>
    let bytes := firstBytes data taken
    let isAll : Bool := m.compressedSize ≤ taken
    match inflate bytes (some (p.out.size + max n leastTaken)) with
    | .corrupt fault _ => .error (.corruptData fault)
    | .ended out => .ok { taken, out, isOver := true }
    | .cut out => .ok { taken, out, isOver := isAll }
    | .full out used =>
      if isAll && used == taken then .ok { taken, out := (inflate bytes none).bytes, isOver := true }
      else .ok { taken, unused := taken - used, out }

/-- The progress after the next stretch of the data; enough is asked for to complete a piece. -/
def Progress.next (p : Progress) (m : Member) (data : ByteArray) : Except ArchiveFault Progress :=
  let n := pieceSize - p.out.size % pieceSize
  let p := if m.method == 8 then p.advanceDeflated m data n else p.advance m data n
  p.map fun p => { p with isOver := p.isOver || decide (m.size ≤ p.out.size) }

/-- The progress when reading stops, and what is wrong if that is why; `n` bounds the stretches. -/
def Progress.last (m : Member) (data : ByteArray) : Nat → Progress → Progress × Option ArchiveFault
  | 0, p => (p, none)
  | n + 1, p =>
    if p.isOver then (p, none)
    else
      match p.next m data with
      | .error fault => (p, some fault)
      | .ok p => last m data n p

/-- The bytes of a member whose data start at a position, and what is wrong with them if anything
is. Where reading is broken off there are only the pieces that are complete. -/
def memberBytes (b : ByteArray) (m : Member) (start : Nat) : ByteArray × Except UnpackError Unit :=
  let data := stretch b start m.compressedSize
  match Progress.last m data (data.size + m.size + 2) {} with
  | (p, some fault) => (firstBytes p.out (p.out.size / pieceSize * pieceSize), failed fault)
  | (p, none) =>
    let bytes := firstBytes p.out m.size
    (bytes, if (checksum bytes).toNat == m.checksum then .ok () else malformed (.checksum m.name))

end StructureGrader.Archive
