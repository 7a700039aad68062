/-! What can be wrong with a written pattern. -/

namespace StoryAtlas.Pattern

/-- Why a text is no pattern. -/
inductive Fault
  | unclosedGroup
  | unopenedGroup
  | invalidGroupName
  | duplicateGroupName
  | lookAround
  | backReference
  | invalidFlag
  | missingOperand
  | invalidCount
  | invalidEscape
  | invalidNumber
  | unclosedClass
  | invalidClass
  | invalidRange
  | unknownProperty
  | notUnicode
  | tooDeep
  | tooLarge
deriving DecidableEq

def Fault.message : Fault → String
  | unclosedGroup => "unclosed group"
  | unopenedGroup => "unopened group"
  | invalidGroupName => "invalid group name"
  | duplicateGroupName => "duplicate group name"
  | lookAround => "look-around is not supported"
  | backReference => "backreferences are not supported"
  | invalidFlag => "invalid flags"
  | missingOperand => "repetition operator missing expression"
  | invalidCount => "invalid repetition count"
  | invalidEscape => "unrecognized escape sequence"
  | invalidNumber => "invalid character number"
  | unclosedClass => "unclosed character class"
  | invalidClass => "invalid member of a character class"
  | invalidRange => "invalid character class range"
  | unknownProperty => "unknown Unicode property"
  | notUnicode => "pattern can match text that is not Unicode"
  | tooDeep => "pattern is nested too deeply"
  | tooLarge => "compiled pattern is too large"

end StoryAtlas.Pattern
