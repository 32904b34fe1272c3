/-!
What can be wrong with JSON text, and where. A text that stops inside a value has ended too early;
a value of another shape than the wanted one is bad data; all else is bad syntax.
-/
namespace Phrasebook.Json

inductive Category where
  | ended
  | data
  | malformed
  deriving DecidableEq, Repr

def Category.name : Category → String
  | .ended => "eof"
  | .data => "data"
  | .malformed => "syntax"

inductive Cause where
  | endedInList
  | endedInObject
  | endedInString
  | endedInValue
  | noColon
  | noListCommaOrEnd
  | noObjectCommaOrEnd
  | badWord
  | noValue
  | badEscape
  | badNumber
  | numberOutOfRange
  | controlInString
  | nameNotString
  | loneSurrogate
  | unpairedSurrogate
  | trailingComma
  | trailingCharacters
  | tooDeep
  | wrongShape (found wanted : String)
  | missingField (name : String)
  | duplicateField (name : String)
  | tooFewItems (found : Nat) (wanted : String)
  deriving DecidableEq, Repr

namespace Cause

def category : Cause → Category
  | .endedInList | .endedInObject | .endedInString | .endedInValue => .ended
  | .wrongShape .. | .missingField _ | .duplicateField _ | .tooFewItems .. => .data
  | _ => .malformed

def message : Cause → String
  | .endedInList => "EOF while parsing a list"
  | .endedInObject => "EOF while parsing an object"
  | .endedInString => "EOF while parsing a string"
  | .endedInValue => "EOF while parsing a value"
  | .noColon => "expected `:`"
  | .noListCommaOrEnd => "expected `,` or `]`"
  | .noObjectCommaOrEnd => "expected `,` or `\x7d`"
  | .badWord => "expected ident"
  | .noValue => "expected value"
  | .badEscape => "invalid escape"
  | .badNumber => "invalid number"
  | .numberOutOfRange => "number out of range"
  | .controlInString =>
    "control character (\\u0000-\\u001F) found while parsing a string"
  | .nameNotString => "key must be a string"
  | .loneSurrogate => "lone leading surrogate in hex escape"
  | .unpairedSurrogate => "unexpected end of hex escape"
  | .trailingComma => "trailing comma"
  | .trailingCharacters => "trailing characters"
  | .tooDeep => "recursion limit exceeded"
  | .wrongShape found wanted => "invalid type: " ++ found ++ ", expected " ++ wanted
  | .missingField name => "missing field `" ++ name ++ "`"
  | .duplicateField name => "duplicate field `" ++ name ++ "`"
  | .tooFewItems found wanted =>
    "invalid length " ++ toString found ++ ", expected " ++ wanted

end Cause

/-- A cause and the part of the text from which on nothing was read. A fault found by looking at
the next character without taking it points at that character. -/
structure Fault where
  cause : Cause
  rest : List Char
  ahead : Bool
  deriving DecidableEq, Repr

namespace Fault

def category (f : Fault) : Category := f.cause.category

def position (seen : List Char) : Nat × Nat :=
  (seen.count '\n' + 1, (String.ofList (seen.reverse.takeWhile (· != '\n'))).utf8ByteSize)

def place (f : Fault) (text : String) : Nat × Nat :=
  let all := text.toList
  let (line, column) := position (all.take (all.length - f.rest.length))
  match f.ahead, f.rest with
  | true, '\n' :: _ => (line + 1, 0)
  | true, _ :: _ => (line, column + 1)
  | _, _ => (line, column)

def describe (f : Fault) (text : String) : String :=
  let (line, column) := f.place text
  f.cause.message ++ " at line " ++ toString line ++ " column " ++ toString column

end Fault
end Phrasebook.Json
