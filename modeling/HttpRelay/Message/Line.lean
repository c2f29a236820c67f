import HttpRelay.Stream.Scanner

/-!
# Lines

A line ends at a line feed, and a carriage return right before the line feed belongs to the
terminator. A limit bounds the content, without the terminator. While no line feed has come,
one byte more than the limit is tolerated, because the last byte may be the carriage return
of the terminator.
-/

namespace HttpRelay

namespace Line

/-- The content of a line from which the line feed was removed. -/
def content (line : Bytes) : Bytes :=
  if line.getLast? == some Bytes.carriageReturn then line.dropLast else line

/-- What becomes of the bytes of a line so far. -/
inductive Step where
  | more (line : Array UInt8)
  | complete (content : Bytes)
  | tooLong

def accept (limit : Nat) (line : Array UInt8) (byte : UInt8) : Step :=
  if byte == Bytes.lineFeed then
    if (content line.toList).length ≤ limit then .complete (content line.toList) else .tooLong
  else .more (line.push byte)

/-- Whether an unfinished line can no longer end within the limit. -/
def isTooLong (limit : Nat) (line : Array UInt8) : Bool :=
  limit + 1 < line.size

/-- Why no line was read. -/
inductive Error where
  | tooLong
  | cut (cut : Cut)
  deriving DecidableEq, Repr

/-- A buffer to the end of which a line is read. -/
structure Buffer where
  bytes : Array UInt8
  /-- Where the line begins. Everything before was in the buffer already. -/
  start : Nat
  isWithin : start ≤ bytes.size
  deriving DecidableEq, Repr

namespace Buffer

def behind (held : Array UInt8) : Buffer :=
  ⟨held, held.size, Nat.le_refl _⟩

def line (buffer : Buffer) : Array UInt8 :=
  buffer.bytes.extract buffer.start buffer.bytes.size

def push (buffer : Buffer) (byte : UInt8) : Buffer where
  bytes := buffer.bytes.push byte
  start := buffer.start
  isWithin := by
    rw [Array.size_push]
    exact Nat.le_succ_of_le buffer.isWithin

end Buffer

/-- A line that was read, terminator included, and how many bytes it has. -/
structure Appended where
  buffer : Buffer
  count : Nat
  deriving DecidableEq, Repr

/-- A line that was not read. -/
structure Abandoned where
  buffer : Buffer
  error : Error
  deriving DecidableEq, Repr

/-- Reads one line to the end of a buffer. -/
def scanner (limit : Nat) : Scanner Buffer Appended Abandoned where
  accept buffer byte :=
    match accept limit buffer.line byte with
    | .more _ => .more (buffer.push byte)
    | .complete _ => .done ⟨buffer.push byte, (buffer.push byte).line.size⟩
    | .tooLong => .failed ⟨buffer.push byte, .tooLong⟩
  atSegmentEnd buffer :=
    if isTooLong limit buffer.line then some ⟨buffer, .tooLong⟩ else none
  atWait _ := none
  atCut buffer cut := ⟨buffer, .cut cut⟩

end Line

end HttpRelay
