/-
# Faults of a YAML text

A text may be unreadable, or it may be readable and write down a value that does
not exist: a number without digits, a day that no month has, a key that cannot be
one. The two are told apart, since an unreadable text is a mistake of the text,
while a value that does not exist stops whoever reads it.
-/

import Stencil.Document

namespace Stencil.Yaml

/-- Why something that is written stands for no value. -/
inductive ValueFault
  /-- A whole number without digits. -/
  | noDigits (base : Nat)
  /-- A fractional number without digits. -/
  | noDecimal (text : String)
  | tooManyDigits (count : Nat)
  | time (fault : TimeFault)
  /-- A code point beyond the last one. -/
  | codePoint (value : Nat)
  /-- A key that holds a value of this kind. -/
  | unusableInKey (kind : String)
  /-- A report would have to show a number with too many digits. -/
  | unshowable
  deriving DecidableEq

/-- What makes a text unreadable. -/
inductive Fault
  /-- The text has a character that no YAML text may have. -/
  | forbiddenCharacter (c : Char)
  /-- Nothing starts with this character here. -/
  | unexpectedCharacter (c : Char)
  | unsupportedFeature (c : Char)
  | missingColon
  | misplacedEntry
  | misplacedKey
  | misplacedValue
  | unclosedQuote
  | badEscape
  | badBlockHeader
  /-- A block text starts with a blank line that is indented less than its text. -/
  | badBlockIndent
  /-- A value has to follow. -/
  | missingContent
  /-- A list or mapping does not end where it has to. -/
  | missingEnd
  | severalDocuments
  | duplicateKey
  | unusableKey
  | unusableValue
  /-- Only mappings can be merged into a mapping. -/
  | unmergeable
  | tooDeep
  /-- Anything else, in words of its own. -/
  | other (report : String)
  /-- The text is readable, but writes down a value that does not exist. -/
  | value (fault : ValueFault)
  deriving DecidableEq

/-- The largest code point that a machine word of 32 bits with a sign holds. -/
def largestWord : Nat := Nat.pow 2 31 - 1

/-- The report of a value that does not exist. -/
def ValueFault.message : ValueFault → String
  | .noDigits base => s!"invalid literal for int() with base {base}: " ++ Text.quoted ""
  | .noDecimal text => s!"could not convert string to float: {Text.quoted text}"
  | .tooManyDigits count =>
    s!"{Document.digitLimitText}: value has {count} digits; {Document.digitLimitAdvice}"
  | .time fault => fault.message
  | .codePoint value =>
    if value ≤ largestWord then "chr() arg not in range(0x110000)"
    else "Python int too large to convert to C int"
  | .unusableInKey kind => s!"unhashable type: {Text.quoted kind}"
  | .unshowable => Document.unshowableReport

/-- The report of a fault. -/
def Fault.message : Fault → String
  | .forbiddenCharacter c => s!"character {c.toNat} is not allowed"
  | .unexpectedCharacter c => s!"character {c.toNat} cannot start a value here"
  | .unsupportedFeature c => s!"values that start with character {c.toNat} are not supported"
  | .missingColon => "a colon is missing after a key"
  | .misplacedEntry => "a list entry is not allowed here"
  | .misplacedKey => "a key is not allowed here"
  | .misplacedValue => "a mapping value is not allowed here"
  | .unclosedQuote => "a quoted text is not closed"
  | .badEscape => "unknown escape in a quoted text"
  | .badBlockHeader => "a block text has a bad header"
  | .badBlockIndent => "a block text is indented further than a blank line before it"
  | .missingContent => "a value is missing"
  | .missingEnd => "a list or mapping is not closed"
  | .severalDocuments => "there is more than one document"
  | .duplicateKey => "a key occurs twice"
  | .unusableKey => "a mapping cannot be a key"
  | .unusableValue => "a reserved word stands for a value"
  | .unmergeable => "only mappings can be merged"
  | .tooDeep => "the text is nested too deeply"
  | .other report => report
  | .value fault => fault.message

end Stencil.Yaml
