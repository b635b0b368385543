/-! Faults of pattern texts. -/

namespace Casebook.Pattern

/-- Why a text is not a pattern. -/
inductive Fault where
  | unclosedGroup
  | unopenedGroup
  | groupName
  | repeatedGroupName
  | flags
  | unsupported
  | nothingToRepeat
  | count
  | unfinishedEscape
  | unknownEscape
  | hexEscape
  | unknownProperty
  | unclosedClass
  | classRange
  | classItem
  | notText
  | tooDeep
  | tooLarge
deriving Repr, DecidableEq

/-- The message for a fault. -/
def Fault.message : Fault → String
  | unclosedGroup => "a group is not closed"
  | unopenedGroup => "a group is closed that was not opened"
  | groupName => "a group has no proper name"
  | repeatedGroupName => "two groups have the same name"
  | flags => "the flags of a group are not proper flags"
  | unsupported => "look-around and backreferences are not supported"
  | nothingToRepeat => "there is nothing to repeat"
  | count => "a repetition has no proper count"
  | unfinishedEscape => "the pattern ends inside an escape"
  | unknownEscape => "an escape is not known"
  | hexEscape => "an escape does not name a character"
  | unknownProperty => "a character property is not known"
  | unclosedClass => "a character class is not closed"
  | classRange => "a character range ends before it begins"
  | classItem => "a character class holds something that is no character"
  | notText => "the pattern can match a part of a character"
  | tooDeep => "the pattern is nested too deeply"
  | tooLarge => "the pattern is too large"

end Casebook.Pattern
