/-!
# White space

The characters with the White_Space property, which are the blanks around the elements of
the lists that decide how a message body ends, and the characters no host name may hold.
-/

namespace HttpRelay.Text

/-- The White_Space property. -/
def isBlank (char : Char) : Bool :=
  ('\x09' ≤ char && char ≤ '\x0D') || char == ' ' || char == '\u0085' || char == '\u00A0' ||
    char == '\u1680' || ('\u2000' ≤ char && char ≤ '\u200A') || char == '\u2028' ||
    char == '\u2029' || char == '\u202F' || char == '\u205F' || char == '\u3000'

end HttpRelay.Text
