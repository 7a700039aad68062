/-! What can be wrong with a TOML text. -/

namespace StoryAtlas.Toml

/-- Why a text is no TOML document. -/
inductive Fault
  | unexpectedCharacter
  | unexpectedEnd
  | controlCharacter
  | unclosedString
  | invalidEscape
  | invalidKey
  | invalidScalar
  | duplicateKey
  | notATable
deriving DecidableEq

def Fault.message : Fault → String
  | unexpectedCharacter => "unexpected character"
  | unexpectedEnd => "unexpected end of input"
  | controlCharacter => "control characters must be escaped"
  | unclosedString => "unclosed string"
  | invalidEscape => "invalid escape sequence"
  | invalidKey => "invalid key"
  | invalidScalar => "invalid value"
  | duplicateKey => "duplicate key"
  | notATable => "a key leads through a value that is no table"

end StoryAtlas.Toml
