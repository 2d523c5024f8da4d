/-!
Why a text is not a regular expression.
-/

namespace Harvest.Regex

inductive Fault
  | groupUnclosed
  | groupUnopened
  | groupName
  | groupNameTwice (name : String)
  | lookAround
  | flags
  | repetitionMissing
  | repetitionCount
  | escape
  | backreference
  | classUnclosed
  | classRange
  | classEscape
  | property (name : String)
  | notText
  | tooDeep
  | tooLarge
  deriving DecidableEq, Repr

def Fault.message : Fault → String
  | .groupUnclosed => "unclosed group"
  | .groupUnopened => "unopened group"
  | .groupName => "invalid capture group name"
  | .groupNameTwice name => "duplicate capture group name " ++ name
  | .lookAround => "look-around is not supported"
  | .flags => "invalid flags"
  | .repetitionMissing => "repetition operator missing expression"
  | .repetitionCount => "invalid repetition count"
  | .escape => "invalid escape sequence"
  | .backreference => "backreferences are not supported"
  | .classUnclosed => "unclosed character class"
  | .classRange => "invalid character class range"
  | .classEscape => "invalid escape sequence in character class"
  | .property name => "unknown property " ++ name
  | .notText => "pattern can match bytes that are not text"
  | .tooDeep => "pattern nests too deeply"
  | .tooLarge => "compiled pattern exceeds the size limit"

end Harvest.Regex
