/-!
# Why a text is no pattern

The errors of reading a pattern, each with its wording.  They are told apart as finely as a person
who wrote the pattern would want to know what is wrong with it: a group that is not closed, a
repetition of nothing, a range whose ends are the wrong way round, an escape that stands for
nothing, a count that cannot be met, a look around, a pattern that is too large.

A pattern comes from the configuration, and its error becomes the reason of a fault there
(`MetricsAgent.Config.Error`).
-/

set_option autoImplicit false

namespace MetricsAgent

/-- Why a text is no pattern. -/
inductive PatternError where
  | unclosedGroup
  | unopenedGroup
  | unclosedClass
  | nothingToRepeat
  | unclosedCount
  | badCount
  | badEscape
  | badRange
  | badGroupName
  | badFlags
  | lookAround
  | backReference
  | unknownProperty
  /-- Without Unicode, the pattern would match parts of characters. -/
  | partOfCharacter
  | tooDeep
  | tooLarge
  deriving DecidableEq, Repr

namespace PatternError

/-- The wording of an error. -/
def message : PatternError → String
  | unclosedGroup => "unclosed group"
  | unopenedGroup => "unopened group"
  | unclosedClass => "unclosed character class"
  | nothingToRepeat => "repetition operator missing expression"
  | unclosedCount => "unclosed counted repetition"
  | badCount => "invalid repetition count range"
  | badEscape => "unrecognized escape sequence"
  | badRange => "invalid character class range"
  | badGroupName => "invalid capture group name"
  | badFlags => "unrecognized flags"
  | lookAround => "look-around is not supported"
  | backReference => "backreferences are not supported"
  | unknownProperty => "Unicode property not found"
  | partOfCharacter => "pattern can match invalid UTF-8"
  | tooDeep => "exceeds the nesting limit"
  | tooLarge => "exceeds the size limit"

end PatternError

end MetricsAgent
