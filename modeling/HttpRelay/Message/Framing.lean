import HttpRelay.Message.HeaderError
import HttpRelay.Text.Blank
import HttpRelay.Text.Numeral
import HttpRelay.Text.Parts

/-!
# Framing

How the end of a message body is found. The `transfer-encoding` and `content-length` fields
of a header decide it, before any byte of the body is read. Their values are lists with
commas between the elements; the blanks around an element are all characters of the
White_Space property.

The fields are taken up one at a time, so that the first defect is the one reported.
-/

namespace HttpRelay

/-- How the end of a body is found. -/
inductive Framing where
  | empty
  | length (count : Nat)
  /-- The body is a sequence of chunks, of which the last is empty. -/
  | chunked
  deriving DecidableEq, Repr

/-- A transfer coding, as far as it matters for framing. -/
inductive Coding where
  | identity
  | chunked
  | unknown
  deriving DecidableEq, Repr

namespace Coding

/-- The coding of a given name, with ASCII letters in any case. -/
def ofName (name : List Char) : Coding :=
  let lower := name.map Char.toLower
  if lower = ['i', 'd', 'e', 'n', 't', 'i', 't', 'y'] then identity
  else if lower = ['c', 'h', 'u', 'n', 'k', 'e', 'd'] then chunked
  else unknown

end Coding

/-- The elements of a list with commas, without the blanks around them. -/
def listElements (value : List Char) : List (List Char) :=
  (Text.split (· == ',') value).map (Text.trim Text.isBlank)

/-- The codings that a `transfer-encoding` value names. Empty elements name none, but a
value of nothing but blanks names a coding that is not known. -/
def codingsOf (value : List Char) : List Coding :=
  (if value.all Text.isBlank then [.unknown] else []) ++
    ((listElements value).filter (!·.isEmpty)).map Coding.ofName

/-- What the fields so far say about the body. -/
structure BodyClaims where
  /-- The codings named so far. -/
  codings : List Coding
  /-- The `transfer-encoding` values so far. -/
  encodings : List (List Char)
  /-- The length on which all `content-length` elements so far agree. -/
  length : Option Nat
  deriving DecidableEq, Repr

namespace BodyClaims

def none : BodyClaims :=
  ⟨[], [], .none⟩

def addEncoding (claims : BodyClaims) (value : List Char) : BodyClaims :=
  { claims with
    codings := claims.codings ++ codingsOf value
    encodings := claims.encodings ++ [value] }

/-- Takes up one element of the given `content-length` value. -/
def addLengthElement (value : List Char) (claims : BodyClaims) (element : List Char) :
    Except Malformed BodyClaims :=
  if element.isEmpty || !element.all Char.isDigit then .error (.invalidContentLength value)
  else
    let count := Text.ofDigits 10 (element.map fun char => char.toNat - '0'.toNat)
    if Text.wordBound ≤ count then .error (.contentLengthOutOfRange value)
    else
      match claims.length with
      | .some known =>
          if known = count then .ok claims else .error .conflictingContentLength
      | .none => .ok { claims with length := some count }

def addLength (claims : BodyClaims) (value : List Char) : Except Malformed BodyClaims :=
  (listElements value).foldlM (addLengthElement value) claims

/-- The framing that follows from all fields. A coding of `identity` changes nothing, and
`chunked` overrides any length. -/
def framing (claims : BodyClaims) : Except HeaderError Framing :=
  match claims.codings.filter (· != .identity) with
  | [] =>
      match claims.length with
      | .some count => .ok (.length count)
      | .none => .ok .empty
  | [.chunked] => .ok .chunked
  | _ => .error (.unsupportedTransferEncoding (Text.join [',', ' '] claims.encodings))

end BodyClaims

end HttpRelay
