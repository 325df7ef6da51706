import RunnerAtlas.Decimal.Reading

/-!
# What is wrong with a pattern

A pattern that cannot be read has a fault at a position of its text. A few texts are refused for
another reason, because a number in them is too large or their flags exclude each other.

## Main definitions

* `RunnerAtlas.Pattern.Fault` — the faults, with `Fault.text`.
* `RunnerAtlas.Pattern.PatternError` — why a text is no pattern, with `PatternError.message`.
-/

set_option autoImplicit false

namespace RunnerAtlas.Pattern

open RunnerAtlas.Text

/-- The faults of patterns. -/
inductive Fault where
  /-- The text ends in a backslash that escapes nothing. -/
  | danglingBackslash
  /-- An escape by number has too few digits. -/
  | incompleteEscape (escape : String)
  /-- There is no such escape. -/
  | badEscape (escape : String)
  /-- An escape by name lacks its brace. -/
  | missingBrace
  /-- A name is empty. -/
  | missingName (what : String)
  /-- A name has no end. -/
  | unterminatedName (terminator : Char)
  /-- No character has the name. -/
  | undefinedCharacter (name : String)
  /-- An octal escape is too large. -/
  | octalTooLarge (escape : String)
  /-- A group is referred to before its end. -/
  | openGroup
  /-- A group is referred to inside the look-behind that holds it. -/
  | sameLookbehind
  /-- There is no group of that number. -/
  | invalidReference (number : Int)
  /-- A set has no end. -/
  | unterminatedSet
  /-- The ends of a range in a set are in the wrong order or no characters. -/
  | badRange (low high : String)
  /-- A repetition has bounds in the wrong order. -/
  | boundsReversed
  /-- A repetition has nothing before it. -/
  | nothingToRepeat
  /-- A repetition is repeated. -/
  | multipleRepeat
  /-- Two groups have one name. -/
  | redefinition (name : String) (group earlier : Nat)
  /-- A group's name is no identifier. -/
  | badGroupName (name : String)
  /-- No group has the name. -/
  | unknownGroupName (name : String)
  /-- A group is numbered zero. -/
  | badGroupNumber
  /-- The text ends inside the head of a group. -/
  | unexpectedEnd
  /-- The head of a group is of no known kind. -/
  | unknownExtension (head : String)
  /-- A comment has no end. -/
  | unterminatedComment
  /-- A group has no end. -/
  | unterminatedGroup
  /-- A conditional group has more than two branches. -/
  | tooManyBranches
  /-- Flags for the whole pattern stand inside it. -/
  | flagsNotAtStart
  /-- The flag of locales is for octets only. -/
  | localeFlag
  /-- Two flags that choose a character set are combined. -/
  | clashingFlags
  /-- There is no such flag. -/
  | unknownFlag
  /-- Flags are not followed by a mark. -/
  | missingMark
  /-- A flag to be switched off is missing. -/
  | missingFlag
  /-- Flags that are switched off are not followed by a colon. -/
  | missingColon
  /-- A flag for the whole pattern is switched on for a part. -/
  | globalFlagOn
  /-- A flag for the whole pattern is switched off for a part. -/
  | globalFlagOff
  /-- A flag that chooses a character set is switched off. -/
  | typeFlagOff
  /-- A flag is switched on and off. -/
  | flagOnAndOff
  /-- A group ends that never began. -/
  | unbalanced
  /-- A look-behind has no fixed width. -/
  | variableLookbehind
  /-- A look-behind is too wide. -/
  | wideLookbehind
  /-- A repetition in a pattern that is read as a template. -/
  | templateRepeat (operator : String)
  deriving DecidableEq

/-- The text of a fault. -/
def Fault.text : Fault → String
  | danglingBackslash => "bad escape (end of pattern)"
  | incompleteEscape escape => s!"incomplete escape {escape}"
  | badEscape escape => s!"bad escape {escape}"
  | missingBrace => "missing \x7b"
  | missingName what => s!"missing {what}"
  | unterminatedName terminator => s!"missing {terminator}, unterminated name"
  | undefinedCharacter name => s!"undefined character name {Quoted.ofText name}"
  | octalTooLarge escape => s!"octal escape value {escape} outside of range 0-0o377"
  | openGroup => "cannot refer to an open group"
  | sameLookbehind => "cannot refer to group defined in the same lookbehind subpattern"
  | invalidReference number => s!"invalid group reference {number}"
  | unterminatedSet => "unterminated character set"
  | badRange low high => s!"bad character range {low}-{high}"
  | boundsReversed => "min repeat greater than max repeat"
  | nothingToRepeat => "nothing to repeat"
  | multipleRepeat => "multiple repeat"
  | redefinition name group earlier =>
    s!"redefinition of group name {Quoted.ofText name} as group {group}; was group {earlier}"
  | badGroupName name => s!"bad character in group name {Quoted.ofText name}"
  | unknownGroupName name => s!"unknown group name {Quoted.ofText name}"
  | badGroupNumber => "bad group number"
  | unexpectedEnd => "unexpected end of pattern"
  | unknownExtension head => s!"unknown extension {head}"
  | unterminatedComment => "missing ), unterminated comment"
  | unterminatedGroup => "missing ), unterminated subpattern"
  | tooManyBranches => "conditional backref with more than two branches"
  | flagsNotAtStart => "global flags not at the start of the expression"
  | localeFlag => "bad inline flags: cannot use 'L' flag with a str pattern"
  | clashingFlags => "bad inline flags: flags 'a', 'u' and 'L' are incompatible"
  | unknownFlag => "unknown flag"
  | missingMark => "missing -, : or )"
  | missingFlag => "missing flag"
  | missingColon => "missing :"
  | globalFlagOn => "bad inline flags: cannot turn on global flag"
  | globalFlagOff => "bad inline flags: cannot turn off global flag"
  | typeFlagOff => "bad inline flags: cannot turn off flags 'a', 'u' and 'L'"
  | flagOnAndOff => "bad inline flags: flag turned on and off"
  | unbalanced => "unbalanced parenthesis"
  | variableLookbehind => "look-behind requires fixed-width pattern"
  | wideLookbehind => "looks too much behind"
  | templateRepeat operator => s!"internal: unsupported template operator {operator}"

/-- Why a text is no pattern. -/
inductive PatternError where
  /-- The text has a fault, which most faults place at a position of it. -/
  | malformed (fault : Fault) (position : Option Nat)
  /-- A repetition has a bound beyond the largest one. -/
  | repetitionTooLarge
  /-- An escape names a code point beyond the range of machine integers. -/
  | codePointTooLarge
  /-- The pattern as a whole is to be read in two character sets. -/
  | incompatibleFlags
  /-- A number cannot be read. -/
  | number (cause : Decimal.NumberError)
  deriving DecidableEq

/-- The line and column, both from one, of a position in a text. -/
def lineAndColumn (text : List Char) (position : Nat) : Nat × Nat :=
  let before := text.take position
  (before.count '\n' + 1, (before.reverse.takeWhile (· != '\n')).length + 1)

/-- The message of an error of a text. The position is counted in characters from zero; if the
text has several lines, its line and column follow. -/
def PatternError.message (text : String) : PatternError → String
  | malformed fault none => fault.text
  | malformed fault (some position) =>
    let message := s!"{fault.text} at position {position}"
    if text.toList.contains '\n' then
      let place := lineAndColumn text.toList position
      s!"{message} (line {place.1}, column {place.2})"
    else message
  | repetitionTooLarge => "the repetition number is too large"
  | codePointTooLarge => "Python int too large to convert to C int"
  | incompatibleFlags => "ASCII and UNICODE flags are incompatible"
  | number cause => cause.message

end RunnerAtlas.Pattern
