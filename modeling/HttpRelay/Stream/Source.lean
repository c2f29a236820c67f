import HttpRelay.Bytes
import HttpRelay.Fault

/-!
# Sources

The reading side of a connection, as everything that it will ever give: segments of bytes,
the delays between them, and the way in which it ends. A segment is what one read shows, so
a byte string can reach its reader in many divisions.
-/

namespace HttpRelay

inductive Source.Item where
  | segment (bytes : Bytes)
  | delay (milliseconds : Nat)
  deriving DecidableEq, Repr

inductive Source.Ending where
  | finished
  /-- Nothing comes any more, and the reader waits for ever. -/
  | stalled
  | broken (kind : FaultKind)
  deriving DecidableEq, Repr

/-- The items that a source has not given yet, and its ending. -/
structure Source where
  items : List Source.Item
  ending : Source.Ending
  deriving DecidableEq, Repr

namespace Source

/-- The bytes of the segments, in order. -/
def bytesOf (items : List Item) : Bytes :=
  items.flatMap fun
    | .segment bytes => bytes
    | .delay _ => []

/-- Everything that was not read. -/
def unread (source : Source) : Bytes :=
  bytesOf source.items

/-- A source without delays. -/
def ofSegments (segments : List Bytes) (ending : Ending) : Source :=
  ⟨segments.map .segment, ending⟩

theorem unread_ofSegments (segments : List Bytes) (ending : Ending) :
    (ofSegments segments ending).unread = segments.flatten := by
  simp only [unread, bytesOf, ofSegments]
  induction segments with
  | nil => rfl
  | cons segment others ih => simp [ih]

end Source

/-- Why no further byte can come, as a reader sees it. -/
inductive Cut where
  | finished
  | broken (kind : FaultKind)
  deriving DecidableEq, Repr

end HttpRelay
