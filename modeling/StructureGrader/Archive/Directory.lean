import StructureGrader.Archive.Bytes
import StructureGrader.Archive.Fault
import StructureGrader.Text.CodePage437

/-!
# The directory of an archive

An archive ends in a record that says where its directory is. Bytes in front of the archive are
allowed for: the directory is taken to stand right before the end record, and the places that it
gives are moved by the difference. Bytes behind the end record are passed over by looking for it
from the end.

Numbers have a short form of two or four bytes. Where one is too large for that, its short form holds
the largest number there is, and its long form of eight bytes stands elsewhere: in a record of its own
before the end record (`EndRecord.inLongForm`), or in an extra field of the directory entry
(`Extent.inLongForm`).
-/

namespace StructureGrader.Archive

/-! ## The end record -/

/-- The length of the end record. -/
def endRecordSize : Nat := 22

/-- The first four bytes of the end record, as a number. -/
def endRecordMark : Nat := 0x06054B50

/-- The end record: where it is, and what it says about the directory. -/
structure EndRecord where
  location : Nat
  directorySize : Nat
  directoryOffset : Nat
  /-- How many bytes stand between the directory and the end record. -/
  gap : Nat := 0
deriving Repr

/-- The end record at a position. -/
def EndRecord.readAt (b : ByteArray) (i : Nat) : EndRecord :=
  { location := i, directorySize := numberAt b (i + 12) 4, directoryOffset := numberAt b (i + 16) 4 }

/-- The last position of the mark among the first `n` of those from `start` on. -/
def lastMark? (b : ByteArray) (start : Nat) : Nat → Option Nat
  | 0 => none
  | n + 1 =>
    if numberAt b (start + n) 4 == endRecordMark then some (start + n) else lastMark? b start n

/-- Where the end record of an archive is: at the very end, or behind the last mark that the longest
comment leaves room for. -/
def EndRecord.place? (b : ByteArray) : Option Nat :=
  let last := b.size - endRecordSize
  if b.size < endRecordSize then none
  else if numberAt b last 4 == endRecordMark && numberAt b (b.size - 2) 2 == 0 then some last
  else
    let start := b.size - (endRecordSize + 0x10000)
    (lastMark? b start (b.size - start - 3)).filter fun i => i + endRecordSize ≤ b.size

/-- The length of the record in front of the end record that says there is one in the long form. -/
def locatorSize : Nat := 20

/-- The first four bytes of that record, as a number. -/
def locatorMark : Nat := 0x07064B50

/-- The length of the end record in the long form. -/
def longRecordSize : Nat := 56

/-- The first four bytes of the end record in the long form, as a number. -/
def longRecordMark : Nat := 0x06064B50

/-- The end record with its numbers in the long form, if they stand before it. -/
def EndRecord.inLongForm (b : ByteArray) (r : EndRecord) : Except Malformed EndRecord :=
  let locator := r.location - locatorSize
  let long := locator - longRecordSize
  if r.location < locatorSize || numberAt b locator 4 != locatorMark then .ok r
  else if numberAt b (locator + 4) 4 != 0 || 1 < numberAt b (locator + 16) 4 then
    .error .severalParts
  else if locator < longRecordSize then .error .noEndRecord
  else if numberAt b long 4 != longRecordMark then .ok r
  else
    .ok { r with
      directorySize := numberAt b (long + 40) 8
      directoryOffset := numberAt b (long + 48) 8
      gap := longRecordSize + locatorSize }

/-- The end record of an archive. -/
def EndRecord.find (b : ByteArray) : Except Malformed EndRecord :=
  match EndRecord.place? b with
  | none => .error .noEndRecord
  | some i => (EndRecord.readAt b i).inLongForm b

/-! ## Members -/

/-- What the directory says about a member. -/
structure Member where
  /-- The name as it is written, which may go on behind a null character. -/
  writtenName : String
  flags : Nat
  method : Nat
  checksum : Nat
  compressedSize : Nat
  size : Nat
  /-- Where the header of the member is. -/
  offset : Int
  attributes : Nat
  /-- Where the data of the member end at the latest. -/
  limit : Int
deriving Repr

namespace Member

/-- The name of a member, up to the first null character. -/
def name (m : Member) : String :=
  String.ofList (m.writtenName.toList.takeWhile (· != Char.ofNat 0))

/-- Whether a member is a folder. -/
def isFolder (m : Member) : Bool :=
  m.name.toList.getLast? == some '/'

end Member

/-- The name that bytes write, in UTF-8 or in the old code page. -/
def nameOf (flags : Nat) (bytes : ByteArray) : Except UnpackError String :=
  if flags.testBit 11 then
    match Text.ofUtf8 bytes with
    | .ok s => .ok s
    | .error fault => .error (.failed (.nameNotText fault))
  else .ok (Text.ofCodePage437 bytes.toList)

/-- The numbers of a directory entry that have a long form. -/
structure Extent where
  size : Nat
  compressedSize : Nat
  offset : Nat

/-- The short form of a number that stands in the long form. -/
def longMark : Nat := 0xFFFFFFFF

/-- The long form of a number at the front of some bytes, if it is needed, and the bytes behind it.
-/
def longNumber (field : LongField) (isNeeded : Bool) (short : Nat) (bytes : ByteArray) :
    Except Malformed (Nat × ByteArray) :=
  if !isNeeded then .ok (short, bytes)
  else if bytes.size < 8 then .error (.longField field)
  else .ok (numberAt bytes 0 8, stretch bytes 8 bytes.size)

/-- The numbers of a directory entry, in the long form where they are said to be, in their order. -/
def Extent.inLongForm (x : Extent) (bytes : ByteArray) : Except Malformed Extent := do
  let isLong := x.size == longMark || x.size == 0xFFFFFFFFFFFFFFFF
  let (size, bytes) ← longNumber .size isLong x.size bytes
  let (compressedSize, bytes) ←
    longNumber .compressedSize (x.compressedSize == longMark) x.compressedSize bytes
  let (offset, _) ← longNumber .offset (x.offset == longMark) x.offset bytes
  return { size, compressedSize, offset }

/-- The tag of the extra field with numbers in the long form. -/
def longTag : Nat := 1

/-- The numbers of a directory entry with its extra fields from a position on; `n` bounds how many
there are. -/
def Extent.withExtra (extra : ByteArray) : Nat → Nat → Extent → Except Malformed Extent
  | 0, _, x => .ok x
  | n + 1, i, x =>
    let tag := numberAt extra i 2
    let size := numberAt extra (i + 2) 2
    if extra.size < i + 4 then .ok x
    else if extra.size < i + 4 + size then .error (.extraField tag size)
    else if tag == longTag then do
      let x ← x.inLongForm (stretch extra (i + 4) size)
      x.withExtra extra n (i + 4 + size)
    else x.withExtra extra n (i + 4 + size)

/-- The length of the part of a directory entry that all of them have. -/
def directoryEntrySize : Nat := 46

/-- The first four bytes of a directory entry, as a number. -/
def directoryEntryMark : Nat := 0x02014B50

/-- The highest version of the format that is read, in tenths. -/
def highestVersion : Nat := 63

/-- A structure that breaks a rule. -/
def malformed {α : Type} (rule : Malformed) : Except UnpackError α :=
  .error (.refused (.malformed rule))

/-- The directory entry at a position, and the position behind it; `moved` is added to the places
that the directory gives. -/
def memberAt (directory : ByteArray) (moved : Int) (i : Nat) : Except UnpackError (Member × Nat) :=
  let field (offset width : Nat) : Nat := numberAt directory (i + offset) width
  if directory.size < i + directoryEntrySize then malformed .directoryCut
  else if field 0 4 != directoryEntryMark then malformed .directoryMark
  else do
    let nameSize := field 28 2
    let extraSize := field 30 2
    let behindName := i + directoryEntrySize + nameSize
    let name ← nameOf (field 8 2) (stretch directory (i + directoryEntrySize) nameSize)
    if highestVersion < field 6 1 then .error (.failed (.unsupported (.version (field 6 1))))
    else
      let extent : Extent := ⟨field 24 4, field 20 4, field 42 4⟩
      match extent.withExtra (stretch directory behindName extraSize) extraSize 0 with
      | .error rule => malformed rule
      | .ok extent =>
        .ok ({ writtenName := name
               flags := field 8 2
               method := field 10 2
               checksum := field 16 4
               compressedSize := extent.compressedSize
               size := extent.size
               offset := Int.ofNat extent.offset + moved
               attributes := field 38 4
               limit := 0 }, behindName + extraSize + field 32 2)

/-- The members from a position on; `n` bounds how many there are. -/
def membersFrom (directory : ByteArray) (moved : Int) : Nat → Nat → Except UnpackError (List Member)
  | 0, _ => .ok []
  | n + 1, i =>
    if directory.size ≤ i then .ok []
    else do
      let (member, i) ← memberAt directory moved i
      let rest ← membersFrom directory moved n i
      .ok (member :: rest)

/-- Members in falling order of their places, each with the place of the one before as its limit,
and with the place of the directory as the limit of the first. -/
def limited (directory : Int) : List (Nat × Member) → List (Nat × Member)
  | [] => []
  | (k, m) :: rest => (k, { m with limit := directory }) :: limited m.offset rest

/-- The members of a list, each with the place at which the next one starts as its limit. -/
def withLimits (directory : Int) (members : List Member) : List Member :=
  let falling := (members.zipIdx.map fun (m, k) => (k, m)).mergeSort
    fun a b => decide (b.2.offset ≤ a.2.offset)
  ((limited directory falling).mergeSort fun a b => decide (a.1 ≤ b.1)).map Prod.snd

/-- The members of an archive in the order of its directory. -/
def membersOf (b : ByteArray) : Except UnpackError (List Member) :=
  match EndRecord.find b with
  | .error rule => malformed rule
  | .ok r =>
    if r.location < r.directorySize + r.gap then malformed .directoryOffset
    else do
      let start := r.location - r.directorySize - r.gap
      let moved := Int.ofNat start - Int.ofNat r.directoryOffset
      let members ← membersFrom (stretch b start r.directorySize) moved r.directorySize 0
      .ok (withLimits start members)

end StructureGrader.Archive
