import HttpRelay.Fault
import HttpRelay.Message.Kind
import HttpRelay.Text.Quoted

/-!
# Header errors

Why no header could be received. Each constructor is one cause; the words in which a cause
is reported are in the `message` functions alone.
-/

namespace HttpRelay

/-- What a limit bounds. -/
inductive Limited where
  | startLine (kind : Kind)
  | field
  | fieldCount
  deriving DecidableEq, Repr

def Limited.text : Limited → String
  | startLine kind => kind.startLineName
  | field => "header field"
  | fieldCount => "number of header fields"

/-- The ways in which a header breaks the header syntax. -/
inductive Malformed where
  | startLineNotText (kind : Kind)
  | invalidStartLine (kind : Kind) (line : List Char)
  | foldedLine
  | fieldWithoutColon
  | invalidFieldName (name : List Char)
  | transferEncodingNotText
  | contentLengthNotText
  | invalidContentLength (value : List Char)
  | contentLengthOutOfRange (value : List Char)
  | conflictingContentLength
  /-- A defect that is known by its description only. -/
  | described (detail : String)
  deriving DecidableEq, Repr

def Malformed.detail : Malformed → String
  | startLineNotText kind => kind.startLineName ++ " is not valid text"
  | invalidStartLine kind line => "invalid " ++ kind.startLineName ++ ": " ++ Text.quote line
  | foldedLine => "obsolete line folding is not supported"
  | fieldWithoutColon => "header field without colon"
  | invalidFieldName name => "invalid header field name: " ++ Text.quote name
  | transferEncodingNotText => "transfer-encoding is not valid text"
  | contentLengthNotText => "content-length is not valid text"
  | invalidContentLength value => "invalid content-length: " ++ Text.quote value
  | contentLengthOutOfRange value => "content-length out of range: " ++ Text.quote value
  | conflictingContentLength => "conflicting content-length values"
  | described detail => detail

/-- Why no header was received. -/
inductive HeaderError where
  /-- The start line, a field, or the number of fields is over its limit. -/
  | limitExceeded (what : Limited) (limit : Nat)
  /-- The fields name a transfer coding other than the two that are known. -/
  | unsupportedTransferEncoding (values : List Char)
  | malformed (defect : Malformed)
  /-- The stream ended inside the header. -/
  | incomplete
  /-- The stream ended before the first byte of a header. -/
  | connectionClosed
  | fault (cause : Fault)
  deriving DecidableEq, Repr

def HeaderError.message : HeaderError → String
  | limitExceeded what limit => s!"{what.text} exceeds the limit of {limit}"
  | unsupportedTransferEncoding values =>
      "unsupported transfer encoding: " ++ String.ofList values
  | malformed defect => "malformed header: " ++ defect.detail
  | incomplete => "stream ended before the header was complete"
  | connectionClosed => "connection closed before a header was received"
  | fault cause => "IO error: " ++ cause.text

end HttpRelay
