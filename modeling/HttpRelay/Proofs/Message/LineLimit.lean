import HttpRelay.Message.Receiver
import HttpRelay.Proofs.Stream.Steadiness

/-!
# Line limits

A line is judged exactly when its line feed comes, and loosely before that: one byte more
than the limit is tolerated, since it may be a carriage return that belongs to the
terminator. The two judgements agree. An unfinished line that is too long stays so with
every further byte, and its line feed finds it too long as well; this makes the scanner of a
header steady.
-/

namespace HttpRelay

namespace Line

theorem length_le_length_content_add_one (line : Bytes) :
    line.length ≤ (content line).length + 1 := by
  simp only [content]
  split
  · simp only [List.length_dropLast]
    omega
  · omega

/-- A line that is too long is found so by its line feed, and stays so without it. -/
theorem accept_of_isTooLong {limit : Nat} {line : Array UInt8} (tooLong : isTooLong limit line)
    (byte : UInt8) :
    accept limit line byte = .tooLong ∨
      (accept limit line byte = .more (line.push byte) ∧ isTooLong limit (line.push byte)) := by
  have longer := length_le_length_content_add_one line.toList
  simp only [isTooLong, decide_eq_true_eq, Array.length_toList, Array.size_push] at *
  simp only [accept]
  split
  · left
    rw [if_neg (by omega)]
  · exact Or.inr ⟨rfl, by omega⟩

end Line

namespace Receiver

/-- What an unfinished line has so far was taken. -/
def LineWithinTaken (receiver : Receiver) : Prop :=
  receiver.line.size ≤ receiver.taken

theorem hasStarted_of_isTooLong {receiver : Receiver} {limit : Nat}
    (within : receiver.LineWithinTaken) (tooLong : Line.isTooLong limit receiver.line) :
    receiver.hasStarted = true := by
  simp only [Line.isTooLong, decide_eq_true_eq] at tooLong
  simp only [LineWithinTaken] at within
  simp only [hasStarted, bne_iff_ne]
  omega

theorem atSegmentEnd_eq_some_iff {receiver : Receiver} {error : HeaderError} :
    scanner.atSegmentEnd receiver = some error ↔
      Line.isTooLong receiver.lineLimit receiver.line = true ∧ receiver.lineTooLong = error := by
  simp [scanner]

theorem lineWithinTaken_of_endLine {receiver next : Receiver} {content : Bytes}
    (ended : receiver.endLine content = .more next) : next.LineWithinTaken := by
  simp only [endLine] at ended
  split at ended
  · split at ended
    · cases ended
    · cases ended
      exact Nat.zero_le _
  · split at ended
    · split at ended <;> cases ended
    · split at ended
      · cases ended
      · cases ended
        exact Nat.zero_le _

theorem steady_scanner : scanner.Steady LineWithinTaken where
  valid_accept := by
    intro receiver next byte within accepted
    simp only [scanner, accept] at accepted
    split at accepted
    · rename_i line lineAccepted
      simp only [Line.accept] at lineAccepted
      split at lineAccepted
      · split at lineAccepted <;> cases lineAccepted
      · cases lineAccepted
        cases accepted
        simp only [LineWithinTaken, Array.size_push] at within ⊢
        omega
    · exact lineWithinTaken_of_endLine accepted
    · cases accepted
  accept_of_due := by
    intro receiver error byte within due
    rcases atSegmentEnd_eq_some_iff.mp due with ⟨tooLong, rfl⟩
    simp only [scanner, accept]
    rcases Line.accept_of_isTooLong tooLong byte with refused | ⟨accepted, stillTooLong⟩
    · left
      simp only [refused]
    · right
      simp only [accepted]
      refine ⟨_, rfl, ?_⟩
      exact atSegmentEnd_eq_some_iff.mpr ⟨stillTooLong, rfl⟩

theorem taken_accept {receiver next : Receiver} {byte : UInt8}
    (accepted : scanner.accept receiver byte = .more next) :
    next.taken = receiver.taken + 1 := by
  simp only [scanner, accept] at accepted
  split at accepted
  · cases accepted
    rfl
  · simp only [endLine] at accepted
    split at accepted
    · split at accepted
      · cases accepted
      · cases accepted
        rfl
    · split at accepted
      · split at accepted <;> cases accepted
      · split at accepted
        · cases accepted
        · cases accepted
          rfl
  · cases accepted

theorem accept_ne_refused {receiver : Receiver} {byte : UInt8} {error : HeaderError} :
    scanner.accept receiver byte ≠ .refused error := by
  simp only [scanner, accept, endLine]
  split
  · simp
  · split
    · split <;> simp
    · split
      · split <;> simp
      · split <;> simp
  · simp

theorem taken_scan {receiver next : Receiver} {bytes : Bytes}
    (scanned : scanner.scan receiver bytes = .more next) :
    next.taken = receiver.taken + bytes.length := by
  induction bytes generalizing receiver with
  | nil =>
      cases scanned
      rfl
  | cons byte bytes ih =>
      simp only [Scanner.scan] at scanned
      cases accepted : scanner.accept receiver byte with
      | more middle =>
          simp only [accepted] at scanned
          rw [ih scanned, taken_accept accepted, List.length_cons]
          omega
      | done header => simp [accepted] at scanned
      | failed error => simp [accepted] at scanned
      | refused error => simp [accepted] at scanned

end Receiver

end HttpRelay
