import Parley.Text.Quote
import Parley.Json.Printer

/-!
# What can be wrong with JSON text

A fault is a cause; together with the place where it was noticed it makes a `ReadError`.
Faults of the text itself and faults of what the text was meant to describe are told
apart by their constructors alone. All wording is in `Fault.message` and
`ReadError.message`.

A place is a line and a column. Lines count from one; the column is the number of bytes
of the line that have been passed, so it is zero at the start of a line.
-/

namespace Parley.Json

/-- A place in a text. -/
structure Place where
  line : Nat
  column : Nat
  deriving DecidableEq, Repr, Inhabited

namespace Place

/-- The place at the start of a text. -/
def start : Place := ⟨1, 0⟩

/-- The place after one more character. -/
def past (p : Place) (c : Char) : Place :=
  if c = '\n' then ⟨p.line + 1, 0⟩ else ⟨p.line, p.column + c.utf8Size⟩

/-- The place after a run of characters. -/
def pastAll (p : Place) (cs : List Char) : Place := cs.foldl past p

/-- The place after the first byte of what follows, if anything does. -/
def pastByte (p : Place) : List Char → Place
  | [] => p
  | c :: _ => if c = '\n' then ⟨p.line + 1, 0⟩ else ⟨p.line, p.column + 1⟩

/-- The place after `n` bytes of what follows. -/
def pastBytes (p : Place) : Nat → List Char → Place
  | 0, _ => p
  | _, [] => p
  | n, c :: cs =>
    if c = '\n' then pastBytes ⟨p.line + 1, 0⟩ (n - 1) cs
    else if c.utf8Size ≤ n then pastBytes ⟨p.line, p.column + c.utf8Size⟩ (n - c.utf8Size) cs
    else ⟨p.line, p.column + n⟩

end Place

/-- What was found where something else was expected. -/
inductive Found
  | null
  | bool (b : Bool)
  | number (n : Number)
  | string (s : String)
  | sequence
  | map
  deriving Repr, BEq

/-- The wording of what was found. -/
def Found.describe : Found → String
  | .null => "null"
  | .bool b => "boolean `" ++ toString b ++ "`"
  | .number (.integer i) => "integer `" ++ String.ofList (Text.decimalInt i) ++ "`"
  | .number (.real x) => "floating point `" ++ String.ofList (writeReal x) ++ "`"
  | .string s => "string " ++ Text.quote s
  | .sequence => "sequence"
  | .map => "map"

/-- Why a text cannot be read. -/
inductive Fault
  | endInList
  | endInObject
  | endInString
  | endInValue
  | expectedColon
  | expectedCommaOrBracket
  | expectedCommaOrBrace
  | expectedIdentifier
  | expectedValue
  | invalidEscape
  | invalidNumber
  | numberOutOfRange
  | loneSurrogate
  | unfinishedSurrogate
  | keyNotString
  | controlCharacter
  | trailingComma
  | trailingCharacters
  | tooDeep
  | invalidType (found : Found) (expected : String)
  | invalidValue (found : Found) (expected : String)
  | invalidLength (length : Nat) (expected : String)
  | missingField (name : String)
  | duplicateField (name : String)
  | unknownVariant (name : String) (known : List String)
  /-- A text that is not in the form of the thing it should denote. -/
  | refused (reason : String)
  deriving Repr, BEq

/-- Names in backquotes, the last joined to the others as a list of alternatives is. -/
def alternatives (names : List String) : String :=
  ", ".intercalate (names.map fun n => "`" ++ n ++ "`")

/-- The wording of a fault. -/
def Fault.message : Fault → String
  | .endInList => "EOF while parsing a list"
  | .endInObject => "EOF while parsing an object"
  | .endInString => "EOF while parsing a string"
  | .endInValue => "EOF while parsing a value"
  | .expectedColon => "expected `:`"
  | .expectedCommaOrBracket => "expected `,` or `]`"
  | .expectedCommaOrBrace => "expected `,` or `\x7d`"
  | .expectedIdentifier => "expected ident"
  | .expectedValue => "expected value"
  | .invalidEscape => "invalid escape"
  | .invalidNumber => "invalid number"
  | .numberOutOfRange => "number out of range"
  | .loneSurrogate => "lone leading surrogate in hex escape"
  | .unfinishedSurrogate => "unexpected end of hex escape"
  | .keyNotString => "key must be a string"
  | .controlCharacter => "control character (\\u0000-\\u001F) found while parsing a string"
  | .trailingComma => "trailing comma"
  | .trailingCharacters => "trailing characters"
  | .tooDeep => "recursion limit exceeded"
  | .invalidType found expected => "invalid type: " ++ found.describe ++ ", expected " ++ expected
  | .invalidValue found expected => "invalid value: " ++ found.describe ++ ", expected " ++ expected
  | .invalidLength n expected =>
    "invalid length " ++ String.ofList (Text.decimal n) ++ ", expected " ++ expected
  | .missingField name => "missing field `" ++ name ++ "`"
  | .duplicateField name => "duplicate field `" ++ name ++ "`"
  | .unknownVariant name known =>
    "unknown variant `" ++ name ++ "`, expected one of " ++ alternatives known
  | .refused reason => reason

/-- A fault and the place where it was noticed. -/
structure ReadError where
  fault : Fault
  place : Place
  deriving Repr, BEq

/-- The wording of a reading error. -/
def ReadError.message (e : ReadError) : String :=
  e.fault.message ++ " at line " ++ String.ofList (Text.decimal e.place.line) ++ " column " ++
    String.ofList (Text.decimal e.place.column)

end Parley.Json
