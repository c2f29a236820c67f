import HttpRelay.Relay.ChunkSize
import HttpRelay.Fault

/-!
# Relay errors

Why a message could not be passed on to its end, although its header was accepted.
-/

namespace HttpRelay

/-- Why a relay ended early. -/
inductive BodyError where
  /-- The stream ended inside a body, or a chunk, of known length. -/
  | short (got : Nat) (wanted : Nat)
  | lineTooLong
  /-- The stream ended inside a line of a chunked body. -/
  | unfinishedLine
  | chunkSize (error : ChunkSize.Error)
  /-- Something other than the end of a line came after the data of a chunk. -/
  | unterminatedChunk
  | fault (cause : Fault)
  deriving DecidableEq, Repr

/-- The form in which a relay error is reported. -/
def BodyError.toFault : BodyError → Fault
  | short got wanted => ⟨.unexpectedEnd, s!"body ended after {got} of {wanted} bytes"⟩
  | lineTooLong => ⟨.invalidData, "line exceeds limit"⟩
  | unfinishedLine => ⟨.unexpectedEnd, "stream ended inside a line"⟩
  | chunkSize .notText => ⟨.invalidData, "chunk size is not valid text"⟩
  | chunkSize .invalid => ⟨.invalidData, "invalid chunk size"⟩
  | chunkSize .outOfRange => ⟨.invalidData, "chunk size out of range"⟩
  | unterminatedChunk => ⟨.invalidData, "chunk data not followed by line terminator"⟩
  | fault cause => cause

end HttpRelay
