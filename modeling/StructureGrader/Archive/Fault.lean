import StructureGrader.Archive.Decoded
import StructureGrader.Files.Entry
import StructureGrader.Text.Encoding

/-!
# What can be wrong with an archive

An archive can be refused, for a reason that is told to whoever sent it (`ArchiveError`), or it can
fail to unpack in a way that nobody foresaw (`ArchiveFault`).
-/

namespace StructureGrader

open Archive (DataFault)

/-- A number that has a short and a long form in a directory. -/
inductive LongField
  | size
  | compressedSize
  | offset
deriving DecidableEq, Repr

/-- The name of a number in messages. -/
def LongField.text : LongField → String
  | .size => "File size"
  | .compressedSize => "Compress size"
  | .offset => "Header offset"

/-- A rule that the structure of an archive breaks. -/
inductive Malformed
  | noEndRecord
  /-- The archive is one of several parts. -/
  | severalParts
  | directoryOffset
  | directoryCut
  | directoryMark
  | extraField (tag size : Nat)
  /-- The long form of a number is missing. -/
  | longField (field : LongField)
  | headerCut
  | headerMark
  | names (inDirectory : String) (inHeader : List UInt8)
  | overlap (name : String)
  | checksum (name : String)
deriving DecidableEq, Repr

/-- The wording of a broken rule. -/
def Malformed.text : Malformed → String
  | .noEndRecord => "File is not a zip file"
  | .severalParts => "zipfiles that span multiple disks are not supported"
  | .directoryOffset => "Bad offset for central directory"
  | .directoryCut => "Truncated central directory"
  | .directoryMark => "Bad magic number for central directory"
  | .extraField tag size =>
    "Corrupt extra field " ++ String.ofList (Text.hexDigits 4 tag) ++
      " (size=" ++ toString size ++ ")"
  | .longField field => "Corrupt zip64 extra field. " ++ field.text ++ " not found."
  | .headerCut => "Truncated file header"
  | .headerMark => "Bad magic number for file header"
  | .names inDirectory inHeader =>
    "File name in directory " ++ Text.quoted inDirectory ++ " and header " ++
      Text.quotedBytes inHeader ++ " differ."
  | .overlap name => "Overlapped entries: " ++ Text.quoted name ++ " (possible zip bomb)"
  | .checksum name => "Bad CRC-32 for file " ++ Text.quoted name

/-- Why an upload is refused. -/
inductive ArchiveError
  | notFound (path : String)
  | emptyFile
  | tooLarge (limit : Int)
  | notArchive
  | otherKind (fileName : String)
  | escapes (member : String)
  | malformed (rule : Malformed)
deriving DecidableEq, Repr

/-- The wording of a refusal. -/
def ArchiveError.message : ArchiveError → String
  | .notFound path => "ZIP file not found: " ++ path
  | .emptyFile => "File is empty"
  | .tooLarge limit =>
    "File size exceeds maximum allowed size: " ++ toString limit ++ " bytes"
  | .notArchive => "Only ZIP files are allowed"
  | .otherKind fileName =>
    "Only .zip or .java files are accepted, got " ++ Text.quoted fileName
  | .escapes member => "Archive entry escapes extraction directory: " ++ member
  | .malformed rule => "Failed to extract ZIP file: " ++ rule.text

/-- What an archive asks for that is not supported. -/
inductive Unsupported
  | version (tenths : Nat)
  | patchedData
  | strongEncryption
  | method
deriving DecidableEq, Repr

/-- The wording of a request that is not supported. -/
def Unsupported.text : Unsupported → String
  | .version tenths =>
    "zip file version " ++ toString (tenths / 10) ++ "." ++ toString (tenths % 10)
  | .patchedData => "compressed patched data (flag bit 5)"
  | .strongEncryption => "strong encryption (flag bit 6)"
  | .method => "That compression method is not supported"

/-- Why unpacking fails in a way that is no fault of the structure. -/
inductive ArchiveFault
  /-- A rule is broken before the archive is to be unpacked. -/
  | malformed (rule : Malformed)
  /-- A member, as described, is encrypted. -/
  | encrypted (member : String)
  | unsupported (request : Unsupported)
  | corruptData (fault : DataFault)
  /-- The data of a member end before it does. -/
  | dataCut
  | nameNotText (fault : Text.Utf8Fault)
  /-- A member is said to start where the machine cannot go to in a file. -/
  | outOfReach
  /-- The number for the place where a member is said to start is too large for the machine. -/
  | offsetTooLarge
  | file (error : FileError) (path : String)
deriving DecidableEq, Repr

/-- The wording of a failure. -/
def ArchiveFault.message : ArchiveFault → String
  | .malformed rule => rule.text
  | .encrypted member => "File " ++ member ++ " is encrypted, password required for extraction"
  | .unsupported request => request.text
  | .corruptData fault => fault.text
  | .dataCut => ""
  | .nameNotText fault => fault.message
  | .outOfReach => "[Errno 22] Invalid argument"
  | .offsetTooLarge => "cannot fit 'int' into an offset-sized integer"
  | .file error path => error.message path

/-- Why an archive is not unpacked. -/
inductive UnpackError
  | refused (error : ArchiveError)
  | failed (fault : ArchiveFault)
deriving DecidableEq, Repr

/-- The wording of why an archive is not unpacked. -/
def UnpackError.message : UnpackError → String
  | .refused e => e.message
  | .failed f => f.message

end StructureGrader
