/-!
# Bytes

Octets as they travel on a connection. A byte string is a list, so that a message, its
parts, and what follows it are related by `++`. The named bytes are those to which the
message format gives a meaning, and the classes below are its character classes.
-/

namespace HttpRelay

/-- A string of octets. -/
abbrev Bytes := List UInt8

namespace Bytes

/-- The octets of characters from the first 256 code points, one octet each. -/
def ofChars (chars : List Char) : Bytes :=
  chars.map Char.toUInt8

/-- The UTF-8 form of a text. -/
def ofText (text : String) : Bytes :=
  text.toUTF8.data.toList

def lineFeed : UInt8 := 0x0A

def carriageReturn : UInt8 := 0x0D

def tabulator : UInt8 := 0x09

def space : UInt8 := 0x20

def colon : UInt8 := 0x3A

def semicolon : UInt8 := 0x3B

/-- The line terminator that is written. Both it and a lone line feed are read. -/
def lineEnd : Bytes :=
  [carriageReturn, lineFeed]

/-- Space and tabulator: the only blanks of the header syntax itself. -/
def isBlank (byte : UInt8) : Bool :=
  byte == space || byte == tabulator

def isDigit (byte : UInt8) : Bool :=
  0x30 ≤ byte && byte ≤ 0x39

def isUpper (byte : UInt8) : Bool :=
  0x41 ≤ byte && byte ≤ 0x5A

def isLower (byte : UInt8) : Bool :=
  0x61 ≤ byte && byte ≤ 0x7A

/-- The marks that a token may hold beside letters and digits. -/
def tokenMarks : Bytes :=
  ofChars ['!', '#', '$', '%', '&', '\'', '*', '+', '-', '.', '^', '_', '\x60', '|', '~']

/-- The bytes of a token: a method or a field name. -/
def isToken (byte : UInt8) : Bool :=
  isDigit byte || isUpper byte || isLower byte || tokenMarks.contains byte

/-- The lower-case form of an ASCII letter; every other byte stands for itself. -/
def lower (byte : UInt8) : UInt8 :=
  if isUpper byte then byte + 0x20 else byte

end Bytes

end HttpRelay
