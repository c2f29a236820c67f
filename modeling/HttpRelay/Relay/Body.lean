import HttpRelay.Message.Framing
import HttpRelay.Message.Line
import HttpRelay.Relay.BodyError
import HttpRelay.Relay.Sink

/-!
# Relaying a body

The scanner that passes a body on to a sink while it reads it, and stops at the first byte
after it. Bodies go on verbatim, chunk sizes, extensions, and trailers included.

Two rules say how reading and writing are interleaved. The bytes of a body of known length,
and of the data of a chunk, are taken only when the sink has taken them. The lines of a
chunked body are taken whole before they are written, and a line that is not acceptable is
not written at all.
-/

namespace HttpRelay

/-- Something on its way into a sink. -/
structure Flow (Progress : Type) where
  progress : Progress
  sink : Sink
  deriving DecidableEq, Repr

/-- A copy of bytes whose number is known beforehand. -/
structure Copy where
  wanted : Nat
  /-- How many are still to come. -/
  remaining : Nat
  deriving DecidableEq, Repr

namespace Copy

def start (wanted : Nat) : Copy :=
  ⟨wanted, wanted⟩

def got (copy : Copy) : Nat :=
  copy.wanted - copy.remaining

def next (copy : Copy) : Copy :=
  { copy with remaining := copy.remaining - 1 }

end Copy

/-- Where in a body a relay is. -/
inductive Body.Stage where
  | fixed (copy : Copy)
  /-- In the line in front of a chunk. -/
  | sizeLine (line : Array UInt8)
  | chunk (copy : Copy)
  /-- In the line after the data of a chunk, which has to be empty. -/
  | chunkEnd (line : Array UInt8)
  /-- In a line after the last chunk. An empty one ends the body. -/
  | trailer (line : Array UInt8)
  deriving DecidableEq, Repr

/-- How much of a body was relayed. -/
structure Body where
  stage : Body.Stage
  /-- How many bytes of the body came before the present line or copy. -/
  relayed : Nat
  deriving DecidableEq, Repr

/-- A body that was passed on whole, and its length. -/
structure Body.Relayed where
  count : Nat
  sink : Sink
  deriving DecidableEq, Repr

/-- A body that was not passed on whole. -/
structure Body.Broken where
  error : BodyError
  sink : Sink
  deriving DecidableEq, Repr

namespace Body

/-- The greatest length of a line in a chunked body. -/
def lineLimit : Nat := 8192

abbrev Step := Verdict (Flow Body) Relayed Broken

/-- The end of a message: everything written is flushed. -/
def finish (count : Nat) (sink : Sink) : Step :=
  match sink.flush with
  | some fault => .failed ⟨.fault fault, sink⟩
  | none => .done ⟨count, sink⟩

/-- The end of a copy: everything written is flushed before the relay goes on. -/
def endCopy (sink : Sink) (goOn : Sink → Step) : Step :=
  match sink.flush with
  | some fault => .failed ⟨.fault fault, sink⟩
  | none => goOn sink

/-- Goes on inside a body. -/
def goOn (stage : Stage) (relayed : Nat) (sink : Sink) : Step :=
  .more ⟨⟨stage, relayed⟩, sink⟩

/-- Begins with a body of the given framing. -/
def start (framing : Framing) (sink : Sink) : Step :=
  match framing with
  | .empty => finish 0 sink
  | .length 0 => endCopy sink (finish 0)
  | .length (count + 1) => goOn (.fixed (.start (count + 1))) 0 sink
  | .chunked => goOn (.sizeLine #[]) 0 sink

def copyByte (copy : Copy) (sink : Sink) (byte : UInt8) (inside : Copy → Sink → Step)
    (after : Sink → Step) : Step :=
  match sink.write [byte] with
  | (sink, some fault) => .refused ⟨.fault fault, sink⟩
  | (sink, none) => if copy.remaining ≤ 1 then endCopy sink after else inside copy.next sink

/-- One more byte of a line. What comes after the line is told its content and the whole of
it. -/
def lineByte (line : Array UInt8) (sink : Sink) (byte : UInt8)
    (inside : Array UInt8 → Sink → Step) (after : Bytes → Bytes → Sink → Step) : Step :=
  match Line.accept lineLimit line byte with
  | .more longer => inside longer sink
  | .tooLong => .failed ⟨.lineTooLong, sink⟩
  | .complete content => after content (line.toList ++ [byte]) sink

/-- Writes a line that was taken, and goes on behind it. -/
def writeLine (line : Bytes) (sink : Sink) (goOn : Sink → Step) : Step :=
  match sink.write line with
  | (sink, some fault) => .failed ⟨.fault fault, sink⟩
  | (sink, none) => goOn sink

/-- The stage behind a chunk-size line: an empty chunk is the last one. -/
def stageOfSize (size : Nat) : Stage :=
  if size = 0 then .trailer #[] else .chunk (.start size)

/-- Behind a chunk-size line. -/
def afterSizeLine (relayed : Nat) (content line : Bytes) (sink : Sink) : Step :=
  match ChunkSize.ofLine content with
  | .error error => .failed ⟨.chunkSize error, sink⟩
  | .ok size => writeLine line sink (goOn (stageOfSize size) (relayed + line.length))

def afterChunkEnd (relayed : Nat) (content line : Bytes) (sink : Sink) : Step :=
  if content.isEmpty then writeLine line sink (goOn (.sizeLine #[]) (relayed + line.length))
  else .failed ⟨.unterminatedChunk, sink⟩

def afterTrailer (relayed : Nat) (content line : Bytes) (sink : Sink) : Step :=
  writeLine line sink
    (if content.isEmpty then finish (relayed + line.length)
      else goOn (.trailer #[]) (relayed + line.length))

def accept (flow : Flow Body) (byte : UInt8) : Step :=
  match flow with
  | ⟨⟨.fixed copy, relayed⟩, sink⟩ =>
      copyByte copy sink byte (fun copy => goOn (.fixed copy) relayed)
        (finish (relayed + copy.wanted))
  | ⟨⟨.sizeLine line, relayed⟩, sink⟩ =>
      lineByte line sink byte (fun line => goOn (.sizeLine line) relayed) (afterSizeLine relayed)
  | ⟨⟨.chunk copy, relayed⟩, sink⟩ =>
      copyByte copy sink byte (fun copy => goOn (.chunk copy) relayed)
        (goOn (.chunkEnd #[]) (relayed + copy.wanted))
  | ⟨⟨.chunkEnd line, relayed⟩, sink⟩ =>
      lineByte line sink byte (fun line => goOn (.chunkEnd line) relayed) (afterChunkEnd relayed)
  | ⟨⟨.trailer line, relayed⟩, sink⟩ =>
      lineByte line sink byte (fun line => goOn (.trailer line) relayed) (afterTrailer relayed)

/-- The line that is being read, in a stage that reads one. -/
def line? (body : Body) : Option (Array UInt8) :=
  match body.stage with
  | .fixed _ | .chunk _ => none
  | .sizeLine line | .chunkEnd line | .trailer line => some line

/-- The copy that is being made, in a stage that makes one. -/
def copy? (body : Body) : Option Copy :=
  match body.stage with
  | .fixed copy | .chunk copy => some copy
  | .sizeLine _ | .chunkEnd _ | .trailer _ => none

/-- A line that can no longer end within the limit is given up at the end of a segment. -/
def segmentEndError (flow : Flow Body) : Option Broken :=
  if flow.progress.line?.any (Line.isTooLong lineLimit) then some ⟨.lineTooLong, flow.sink⟩
  else none

/-- A copy that has written something is flushed before a wait. -/
def waitError (flow : Flow Body) : Option Broken :=
  match flow.progress.copy?, flow.sink.flush with
  | some copy, some fault => if copy.got = 0 then none else some ⟨.fault fault, flow.sink⟩
  | _, _ => none

/-- The error with which a copy ends at the end of the stream. -/
def shortError (copy : Copy) (sink : Sink) : BodyError :=
  match sink.flush with
  | some fault => .fault fault
  | none => .short copy.got copy.wanted

/-- Why a body is not whole when the stream ends here. In a copy, an interrupted read is
tried again, and finds the end of the stream. -/
def cutError (flow : Flow Body) (cut : Cut) : Broken :=
  let error : BodyError :=
    match flow.progress.copy?, cut with
    | none, .finished => .unfinishedLine
    | none, .broken kind => .fault (.ofKind kind)
    | some copy, .finished => shortError copy flow.sink
    | some copy, .broken kind =>
        if kind = .interrupted then shortError copy flow.sink else .fault (.ofKind kind)
  ⟨error, flow.sink⟩

def scanner : Scanner (Flow Body) Relayed Broken where
  accept := accept
  atSegmentEnd := segmentEndError
  atWait := waitError
  atCut := cutError

end Body

end HttpRelay
