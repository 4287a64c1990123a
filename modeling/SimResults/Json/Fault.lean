/-! Why a JSON text does not give the value that was asked for. -/

namespace SimResults.Json

inductive Fault
  /-- No JSON text starts like this. -/
  | malformed
  /-- The text is sound so far, but holds a value of another shape. -/
  | mismatched
  /-- The text ends too early. -/
  | truncated
deriving DecidableEq, Repr

def Fault.message : Fault → String
  | .malformed => "malformed text"
  | .mismatched => "unexpected value"
  | .truncated => "unexpected end of text"

/-- White space between tokens: space, tab, line feed and carriage return. -/
def skipBlank (chars : List Char) : List Char :=
  chars.dropWhile fun char => char == ' ' || char == '\n' || char == '\t' || char == '\r'

/-- The rest of a word whose first letter was seen. -/
def readWord : List Char → List Char → Except Fault (List Char)
  | [], chars => .ok chars
  | _ :: _, [] => .error .truncated
  | expected :: word, char :: rest => if char == expected then readWord word rest else .error .malformed

end SimResults.Json
