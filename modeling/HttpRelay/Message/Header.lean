import HttpRelay.Message.Field
import HttpRelay.Message.Framing

/-!
# Headers

A message header as it is forwarded, and the changes that make it so: an `upgrade` field
is dropped, the first `connection` field says `close`, and further ones are dropped. All
other fields keep their order and their values.
-/

namespace HttpRelay

/-- A received header, as it is forwarded. -/
structure Header where
  startLine : Bytes
  /-- The fields in the order in which they are forwarded. -/
  fields : List Field
  /-- How many bytes the header took on the wire, blank line included. -/
  receivedLength : Nat
  framing : Framing
  deriving DecidableEq, Repr

namespace Header

/-- The values of all fields with the given lower-case name, in order. -/
def values (header : Header) (name : Bytes) : List Bytes :=
  (header.fields.filter (·.name == name)).map (·.value)

/-- The declared length of the body. -/
def contentLength (header : Header) : Option Nat :=
  match header.framing with
  | .length count => some count
  | .empty | .chunked => none

/-- The length of the whole message, unless it is open or does not fit into 64 bits. -/
def totalLength (header : Header) : Option Nat :=
  match header.framing with
  | .empty => some header.receivedLength
  | .length count =>
      if header.receivedLength + count < Text.wordBound then
        some (header.receivedLength + count)
      else none
  | .chunked => none

def encode (header : Header) : Bytes :=
  header.startLine ++ Bytes.lineEnd ++ header.fields.flatMap Field.line ++ Bytes.lineEnd

end Header

/-- The fields of a header that is still being received. -/
structure FieldsSoFar where
  forwarded : Array Field
  connectionSeen : Bool
  claims : BodyClaims
  deriving DecidableEq, Repr

namespace FieldsSoFar

def none : FieldsSoFar :=
  ⟨#[], false, .none⟩

def add (fields : FieldsSoFar) (field : Field) : Except Malformed FieldsSoFar :=
  if field.name = Field.upgrade then .ok fields
  else if field.name = Field.connection then
    if fields.connectionSeen then .ok fields
    else
      .ok { fields with
        forwarded := fields.forwarded.push ⟨Field.connection, Field.close⟩
        connectionSeen := true }
  else if field.name = Field.transferEncoding then
    match field.text? with
    | .none => .error .transferEncodingNotText
    | .some value =>
        .ok { fields with
          forwarded := fields.forwarded.push field
          claims := fields.claims.addEncoding value }
  else if field.name = Field.contentLength then
    match field.text? with
    | .none => .error .contentLengthNotText
    | .some value =>
        match fields.claims.addLength value with
        | .error defect => .error defect
        | .ok claims =>
            .ok { fields with
              forwarded := fields.forwarded.push field
              claims := claims }
  else .ok { fields with forwarded := fields.forwarded.push field }

end FieldsSoFar

end HttpRelay
