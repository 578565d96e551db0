/-!
# What breaks the grammar of a JSON text

A text is read from the front, and what breaks its grammar is reported where it is met. A reader
that only passes over a value is more lenient than one that wants it: it takes strings that stand
for no text and numbers beyond all doubles. So a break has a fault for each of the two, and the
lenient one may have none.
-/
namespace PeerFirewall

/-- What breaks the grammar of a JSON text, or what makes a value unreadable. -/
inductive Malformed where
  | endInList
  | endInObject
  | endInString
  | endInValue
  | expectedColon
  | expectedCommaInList
  | expectedCommaInObject
  | expectedWord
  | expectedValue
  | badEscape
  | badNumber
  | numberTooLarge
  | controlInString
  | nameNotString
  /-- The second half of a surrogate pair is missing. -/
  | halfPair
  /-- A surrogate stands where it makes no pair. -/
  | loneSurrogate
  | commaAtEnd
  | trailing
  | tooDeep
deriving DecidableEq, Repr

/-- The text of a fault. -/
def Malformed.message : Malformed → String
  | endInList => "EOF while parsing a list"
  | endInObject => "EOF while parsing an object"
  | endInString => "EOF while parsing a string"
  | endInValue => "EOF while parsing a value"
  | expectedColon => "expected `:`"
  | expectedCommaInList => "expected `,` or `]`"
  | expectedCommaInObject => "expected `,` or `\x7d`"
  | expectedWord => "expected ident"
  | expectedValue => "expected value"
  | badEscape => "invalid escape"
  | badNumber => "invalid number"
  | numberTooLarge => "number out of range"
  | controlInString => "control character (\\u0000-\\u001F) found while parsing a string"
  | nameNotString => "key must be a string"
  | halfPair => "unexpected end of hex escape"
  | loneSurrogate => "lone leading surrogate in hex escape"
  | commaAtEnd => "trailing comma"
  | trailing => "trailing characters"
  | tooDeep => "recursion limit exceeded"

/-- Where in a text a break is. -/
inductive Place where
  /-- Inside a word, a number or a string, or where a value should begin, with the character that
  stands there, if the text goes on. -/
  | value (first : Option Char)
  /-- Between the name of a member and its value. -/
  | colon
  /-- Where the next element, the name of the next member or the end of an array or object should
  be. -/
  | next
deriving DecidableEq, Repr

/-- A break of the grammar of a text. -/
structure Break where
  place : Place
  /-- What is wrong for a reader that wants what stands there. -/
  reading : Malformed
  /-- What is wrong for a reader that passes over it; the text goes on if nothing is. -/
  skipping : Option Malformed
deriving DecidableEq, Repr

end PeerFirewall
