import HttpRelay.Proofs.Message.Reencoding
import HttpRelay.Proofs.Relay.Delivery

/-!
# Relaying twice

What a relay forwards is a message again, and a relay of it forwards the same bytes. Since the
header that goes out is not the one that came in, the second relay needs limits that leave room
for it (`Limits.Admits`). The two headers differ in nothing but the number of bytes that they
took (`Header.encoded`).
-/

namespace HttpRelay

variable {kind : Kind} {limits admitting : Limits}

/-- The forwarded form of a whole message is a whole message, with the same header. -/
theorem Message.IsFirst.encoded {message : Message} {stream rest : Bytes}
    (isFirst : Message.IsFirst kind limits message stream rest)
    (admits : admitting.Admits message.header) (suffix : Bytes) :
    Message.IsFirst kind admitting ⟨message.header.encoded, message.body⟩
      (message.forwarded ++ suffix) suffix := by
  rcases isFirst.block with ⟨block, fields, _, accepts⟩
  refine ⟨⟨⟨message.header.encode, message.header.fields, ?_, accepts.encode admits⟩,
    isFirst.isWithin⟩, isFirst.isWhole⟩
  rw [Message.forwarded, List.append_assoc]

/-- A header that was received is received again from its encoded form, and a message that went
through goes through again from its forwarded form, with the same result. No name or value in
the encoded form begins or ends a line. -/
theorem relay_idempotent (kind : Kind) (limits admitting : Limits) :
    (∀ (source : Source) (time : Nat) (header : Header) (items : List Source.Item),
      Receiver.scanner.read (.start kind limits) source = ⟨time, .done header, items⟩ →
        header.encode.count Bytes.lineFeed = header.fields.length + 2 ∧
          Bytes.lineFeed ∉ header.startLine ∧
          (∀ field ∈ header.fields,
            Bytes.lineFeed ∉ field.name ∧ Bytes.lineFeed ∉ field.value) ∧
          (admitting.Admits header → ∀ (again : Source) (suffix : Bytes),
            again.unread = header.encode ++ suffix →
              ∃ later left,
                Receiver.scanner.read (.start kind admitting) again =
                    ⟨later, .done header.encoded, left⟩ ∧
                  Source.bytesOf left = suffix)) ∧
      ∀ (sink : Sink) (source : Source) (delivered : Pass.Delivered) (rest forwarded : Bytes),
        Pass.GoesThrough kind limits sink source delivered rest →
        delivered.sink.output = sink.output ++ forwarded →
        admitting.Admits delivered.header →
          ∀ (other : Sink) (again : Source) (suffix : Bytes),
            other.Takes forwarded → again.unread = forwarded ++ suffix →
              ∃ second, Pass.GoesThrough kind admitting other again second suffix ∧
                second.header = delivered.header.encoded ∧
                second.count = delivered.count ∧
                second.sink.output = other.output ++ forwarded := by
  constructor
  · intro source time header items ran
    rcases Receiver.read_start_eq_done_iff.mp ⟨time, items, ran, rfl⟩ with
      ⟨block, fields, _, accepts⟩
    refine ⟨accepts.count_lineFeed, accepts.lineFeed_notMem_startLine, ?_, ?_⟩
    · intro field isIn
      have writable := accepts.isWritable field isIn
      exact ⟨writable.lineFeed_notMem_name, writable.noLineFeed⟩
    · intro admits again suffix unread
      exact Receiver.read_start_eq_done_iff.mpr ⟨_, _, unread, accepts.encode admits⟩
  · intro sink source delivered rest forwarded goesThrough output admits other again suffix takes
      unread
    rcases Pass.goesThrough_iff.mp goesThrough with ⟨body, isFirst, carries⟩
    rw [carries.output, List.append_cancel_left_eq] at output
    subst output
    have carriesAgain := @Pass.carries_of_takes other delivered.header.encoded body takes
    refine ⟨_, Pass.goesThrough_iff.mpr ⟨body, ?_, carriesAgain⟩, rfl, carries.count.symm,
      carriesAgain.output⟩
    rw [unread]
    exact isFirst.encoded admits suffix

/-- The header of a request with a field that was replaced by a longer one. -/
def closingHeader : Header :=
  ⟨Bytes.ofChars ['G', 'E', 'T', ' ', '/', ' ', 'H', 'T', 'T', 'P', '/', '1'],
    [⟨Field.connection, Field.close⟩, ⟨[0x61], []⟩], 39, .empty⟩

/-- The request with that header, and a field that is dropped. -/
def closingRequest : Bytes :=
  closingHeader.startLine ++ [0x0A] ++ Field.connection ++ [0x3A, 0x0A] ++ Field.upgrade ++
    [0x3A, 0x41, 0x0A] ++ [0x41, 0x3A, 0x0A] ++ [0x0A]

/-- What the request is forwarded as, and the beginning of another. -/
def closingForwarded : Source :=
  ⟨[.segment closingHeader.encode, .delay 9, .segment [0x47]], .stalled⟩

theorem relay_idempotent_closingRequest :
    Receiver.scanner.read (.start .request ⟨12, 3, 11, 1000⟩)
          (.ofSegments [closingRequest] .stalled) =
        ⟨0, .done closingHeader, [.segment []]⟩ ∧
      Limits.Admits ⟨12, 2, 17, 1000⟩ closingHeader ∧
      (∃ later left,
        Receiver.scanner.read (.start .request ⟨12, 2, 17, 1000⟩) closingForwarded =
            ⟨later, .done closingHeader.encoded, left⟩ ∧
          Source.bytesOf left = [0x47]) ∧
      ∃ second,
        Pass.GoesThrough .request ⟨12, 2, 17, 1000⟩ .unbounded closingForwarded second [0x47] ∧
          second.sink.output = Sink.unbounded.output ++ closingHeader.encode := by
  have ran : Receiver.scanner.read (.start .request ⟨12, 3, 11, 1000⟩)
      (.ofSegments [closingRequest] .stalled) = ⟨0, .done closingHeader, [.segment []]⟩ := rfl
  have goesThrough : Pass.GoesThrough .request ⟨12, 3, 11, 1000⟩ .unbounded
      (.ofSegments [closingRequest] .stalled)
      ⟨closingHeader, 0, (Sink.unbounded.write closingHeader.encode).1⟩ [] :=
    ⟨0, [.segment []], rfl, rfl⟩
  have admits : Limits.Admits ⟨12, 2, 17, 1000⟩ closingHeader := by
    constructor <;> decide +kernel
  have takes : Sink.unbounded.Takes closingHeader.encode := Sink.takes_of_unbounded rfl rfl _
  have unread : closingForwarded.unread = closingHeader.encode ++ [0x47] := rfl
  rcases relay_idempotent .request ⟨12, 3, 11, 1000⟩ ⟨12, 2, 17, 1000⟩ with ⟨receives, relays⟩
  refine ⟨ran, admits, (receives _ _ _ _ ran).2.2.2 admits _ _ unread, ?_⟩
  rcases relays .unbounded _ _ [] closingHeader.encode goesThrough rfl admits .unbounded _ _ takes
    unread with ⟨second, goesThroughAgain, _, _, output⟩
  exact ⟨second, goesThroughAgain, output⟩

end HttpRelay
