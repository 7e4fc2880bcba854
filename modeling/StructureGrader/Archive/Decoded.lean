/-!
# Decoding what is there

Compressed data are read from a file in stretches, so a decoder is given the bytes that have been read
so far. What it makes of them (`Decoded`) depends on nothing else: the data may be over, stop before
their end, or break a rule.
-/

namespace StructureGrader.Archive

/-- A rule that deflated data break. -/
inductive CompressionFault
  | blockType
  | storedLengths
  | tooManyCodes
  | codeLengths
  | lengthRepeat
  | missingEnd
  | literalLengths
  | distanceLengths
  | literalCode
  | distanceCode
  | distanceTooFar
deriving DecidableEq, Repr

/-- The wording of a broken rule. -/
def CompressionFault.text : CompressionFault → String
  | .blockType => "invalid block type"
  | .storedLengths => "invalid stored block lengths"
  | .tooManyCodes => "too many length or distance symbols"
  | .codeLengths => "invalid code lengths set"
  | .lengthRepeat => "invalid bit length repeat"
  | .missingEnd => "invalid code -- missing end-of-block"
  | .literalLengths => "invalid literal/lengths set"
  | .distanceLengths => "invalid distances set"
  | .literalCode => "invalid literal/length code"
  | .distanceCode => "invalid distance code"
  | .distanceTooFar => "invalid distance too far back"

/-- What is wrong with compressed data. -/
inductive DataFault
  | deflated (rule : CompressionFault)
  | blockSorted
  | rangeCoded
  /-- The settings in front of range coded data are not supported. -/
  | settings
deriving DecidableEq, Repr

/-- The wording of what is wrong. -/
def DataFault.text : DataFault → String
  | .deflated rule => "Error -3 while decompressing data: " ++ rule.text
  | .blockSorted => "Invalid data stream"
  | .rangeCoded => "Corrupt input data"
  | .settings => "Invalid or unsupported options"

/-- Why decoding stops before the end of the data. -/
inductive Halt
  /-- The bytes do not go on. -/
  | cut
  /-- As much as was asked for is decoded; the bits before a position are used for it. -/
  | full (position : Nat)
  | corrupt (fault : DataFault)
deriving Repr

/-- What a decoder makes of the bytes that it has been given. -/
inductive Decoded
  | ended (out : ByteArray)
  /-- The bytes stop before the end of the data. -/
  | cut (out : ByteArray)
  /-- As much as was asked for is decoded, and so many bytes are used for it. -/
  | full (out : ByteArray) (used : Nat)
  | corrupt (fault : DataFault) (out : ByteArray)

/-- The bytes that are decoded. -/
def Decoded.bytes : Decoded → ByteArray
  | .ended out | .cut out | .full out _ | .corrupt _ out => out

/-- What becomes of the bytes decoded so far when decoding stops. -/
def Halt.decoded (out : ByteArray) : Halt → Decoded
  | .cut => .cut out
  | .full position => .full out ((position + 7) / 8)
  | .corrupt fault => .corrupt fault out

end StructureGrader.Archive
