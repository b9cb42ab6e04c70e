import PropertyDocs.Text.Numeral
import PropertyDocs.Text.Quoted

/-!
# Faults of pattern texts

Why a text is no pattern, and the wording of each cause. The place is counted in characters from
the start of the text; in a text of several lines it is given by line and column as well.
-/
namespace PropertyDocs

inductive PatternFault where
  | trailingBackslash
  | badEscape (escape : String)
  | incompleteEscape (escape : String)
  | octalTooLarge (escape : String)
  | missingBrace
  | undefinedCharacter (name : String)
  | missingName (what : String)
  | unterminatedName (terminator : Char)
  | badNameCharacter (name : String)
  | unknownGroupName (name : String)
  | redefinedGroup (name : String) (group earlier : Nat)
  | badGroupNumber
  | invalidReference (group : Nat)
  | openGroupReference
  | sameLookbehindReference
  | unterminatedSet
  | badRange (first last : String)
  | reversedCounts
  | nothingToRepeat
  | multipleRepeat
  | unexpectedEnd
  | unknownExtension (text : String)
  | unterminatedComment
  | unterminatedGroup
  | tooManyBranches
  | unbalancedParenthesis
  | lateGlobalFlags
  | localeFlag
  | incompatibleFlags
  | unknownFlag
  | missingFlag
  | missingFlagsEnd
  | missingColon
  | globalFlagOn
  | globalFlagOff
  | typeFlagOff
  | contradictoryFlags
  | variableLookbehind
  | lookbehindTooFar
  | templateOperator (operator : String)
deriving DecidableEq, Repr

namespace PatternFault

def message : PatternFault → String
  | trailingBackslash => "bad escape (end of pattern)"
  | badEscape escape => "bad escape " ++ escape
  | incompleteEscape escape => "incomplete escape " ++ escape
  | octalTooLarge escape => "octal escape value " ++ escape ++ " outside of range 0-0o377"
  | missingBrace => "missing \x7b"
  | undefinedCharacter name => "undefined character name " ++ Text.quoted name
  | missingName what => "missing " ++ what
  | unterminatedName terminator =>
    "missing " ++ terminator.toString ++ ", unterminated name"
  | badNameCharacter name => "bad character in group name " ++ Text.quoted name
  | unknownGroupName name => "unknown group name " ++ Text.quoted name
  | redefinedGroup name group earlier =>
    "redefinition of group name " ++ Text.quoted name ++ " as group " ++ toString group
      ++ "; was group " ++ toString earlier
  | badGroupNumber => "bad group number"
  | invalidReference group => "invalid group reference " ++ toString group
  | openGroupReference => "cannot refer to an open group"
  | sameLookbehindReference =>
    "cannot refer to group defined in the same lookbehind subpattern"
  | unterminatedSet => "unterminated character set"
  | badRange first last => "bad character range " ++ first ++ "-" ++ last
  | reversedCounts => "min repeat greater than max repeat"
  | nothingToRepeat => "nothing to repeat"
  | multipleRepeat => "multiple repeat"
  | unexpectedEnd => "unexpected end of pattern"
  | unknownExtension text => "unknown extension ?" ++ text
  | unterminatedComment => "missing ), unterminated comment"
  | unterminatedGroup => "missing ), unterminated subpattern"
  | tooManyBranches => "conditional backref with more than two branches"
  | unbalancedParenthesis => "unbalanced parenthesis"
  | lateGlobalFlags => "global flags not at the start of the expression"
  | localeFlag => "bad inline flags: cannot use 'L' flag with a str pattern"
  | incompatibleFlags => "bad inline flags: flags 'a', 'u' and 'L' are incompatible"
  | unknownFlag => "unknown flag"
  | missingFlag => "missing flag"
  | missingFlagsEnd => "missing -, : or )"
  | missingColon => "missing :"
  | globalFlagOn => "bad inline flags: cannot turn on global flag"
  | globalFlagOff => "bad inline flags: cannot turn off global flag"
  | typeFlagOff => "bad inline flags: cannot turn off flags 'a', 'u' and 'L'"
  | contradictoryFlags => "bad inline flags: flag turned on and off"
  | variableLookbehind => "look-behind requires fixed-width pattern"
  | lookbehindTooFar => "looks too much behind"
  | templateOperator operator => "internal: unsupported template operator " ++ operator

end PatternFault

/-- Why a pattern is refused: for a fault of its text, or else in a way that is no fault. -/
inductive PatternError where
  /-- A fault of the text, with its place unless the fault lies in no one place. -/
  | fault (cause : PatternFault) (place : Option Nat)
  | repetitionTooLarge
  /-- A count that is written with so many digits. -/
  | countTooLong (digits : Nat)
  /-- The number of a character that does not fit into 31 bits. -/
  | codeTooLarge
  | conflictingTypes
deriving DecidableEq, Repr

namespace PatternError

/-- The line and the column of the place `n`, both counted from one. -/
def lineColumn (text : List Char) (n : Nat) : Nat × Nat :=
  let passed := text.take n
  (passed.count '\n' + 1, (passed.reverse.takeWhile (· != '\n')).length + 1)

def placeText (text : List Char) (n : Nat) : String :=
  " at position " ++ toString n ++
    if text.contains '\n' then
      let (line, column) := lineColumn text n
      " (line " ++ toString line ++ ", column " ++ toString column ++ ")"
    else ""

/-- The message about the pattern `text`. That of a code too large is given without its first word,
which is no part of the reason. -/
def message (text : String) : PatternError → String
  | fault cause none => cause.message
  | fault cause (some n) => cause.message ++ placeText text.toList n
  | repetitionTooLarge => "the repetition number is too large"
  | countTooLong digits =>
    "Exceeds the limit (" ++ toString Text.numeralLimit
      ++ " digits) for integer string conversion: value has " ++ toString digits
      ++ " digits; use sys.set_int_max_str_digits() to increase the limit"
  | codeTooLarge => "int too large to convert to C int"
  | conflictingTypes => "ASCII and UNICODE flags are incompatible"

end PatternError

end PropertyDocs
