/-!
What can be wrong with a JSON document, where, and how it is said. A position counts lines from
one and columns in bytes.
-/
namespace HealthReport

/-- Why a text is not a JSON document. -/
inductive Cause where
  | endInValue
  | endInList
  | endInObject
  | endInString
  | expectedValue
  | expectedWord
  | expectedColon
  | expectedListEnd
  | expectedObjectEnd
  | keyNotString
  | trailingComma
  | trailingCharacters
  | tooDeep
  | invalidNumber
  | outOfRange
  | controlCharacter
  | invalidEscape
  | loneSurrogate
  | unfinishedPair
deriving DecidableEq

def Cause.message : Cause → String
  | .endInValue => "EOF while parsing a value"
  | .endInList => "EOF while parsing a list"
  | .endInObject => "EOF while parsing an object"
  | .endInString => "EOF while parsing a string"
  | .expectedValue => "expected value"
  | .expectedWord => "expected ident"
  | .expectedColon => "expected `:`"
  | .expectedListEnd => "expected `,` or `]`"
  | .expectedObjectEnd => "expected `,` or `\x7d`"
  | .keyNotString => "key must be a string"
  | .trailingComma => "trailing comma"
  | .trailingCharacters => "trailing characters"
  | .tooDeep => "recursion limit exceeded"
  | .invalidNumber => "invalid number"
  | .outOfRange => "number out of range"
  | .controlCharacter => "control character (\\u0000-\\u001F) found while parsing a string"
  | .invalidEscape => "invalid escape"
  | .loneSurrogate => "lone leading surrogate in hex escape"
  | .unfinishedPair => "unexpected end of hex escape"

/-- A fault while reading: the cause, the characters not read before it, and how many bytes of those
belong to the fault. -/
structure Fault where
  cause : Cause
  rest : List Char
  ahead : Nat
deriving DecidableEq

/-- The number of bytes that characters take. -/
def byteSize (chars : List Char) : Nat :=
  (chars.map Char.utf8Size).foldr (· + ·) 0

structure Position where
  line : Nat
  column : Nat
deriving DecidableEq

/-- Moves from `here` over the first bytes of `chars`, of which `bytes` are left to pass. -/
def Position.advance (here : Position) (bytes : Nat) : List Char → Position
  | [] => here
  | c :: rest =>
    if bytes < c.utf8Size then ⟨here.line, here.column + bytes⟩
    else
      let next : Position :=
        if c = '\n' then ⟨here.line + 1, 0⟩ else ⟨here.line, here.column + c.utf8Size⟩
      next.advance (bytes - c.utf8Size) rest

/-- The position of a fault in the text it was found in; it is never past the end. -/
def Fault.position (fault : Fault) (text : List Char) : Position :=
  let size := byteSize text
  let bytes := min size (size - byteSize fault.rest + fault.ahead)
  Position.advance ⟨1, 0⟩ bytes text

/-- A fault with its place in the document. -/
structure ReadError where
  cause : Cause
  position : Position
deriving DecidableEq

def ReadError.message (error : ReadError) : String :=
  error.cause.message ++ " at line " ++ toString error.position.line ++
    " column " ++ toString error.position.column

end HealthReport
