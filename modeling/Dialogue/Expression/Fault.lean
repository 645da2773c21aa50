import Dialogue.Text.Numeral
import Dialogue.Text.Quoted

/-!
# Faults of expressions

What can be wrong with an expression: with its characters and brackets, with the order of its
tokens, with its quoted texts, and with the fields of a quoted text, which are expressions again.

* `EscapeFault`, `Fault`: the causes;
* `Fault.message`: the wording.
-/

namespace Dialogue.Expression

open Text

/-- What is wrong with an escape in a quoted text. -/
inductive EscapeFault where
  /-- The escape after the letter has fewer than so many hexadecimal digits. -/
  | truncated (letter : Char) (digits : Nat)
  | notUnicode
  | malformedName
  | unknownName
  deriving DecidableEq, Repr

/-- The wording. -/
def EscapeFault.message : EscapeFault → Text
  | truncated letter digits =>
    ofString "truncated \\" ++ letter :: List.replicate digits 'X' ++ ofString " escape"
  | notUnicode => ofString "illegal Unicode character"
  | malformedName => ofString "malformed \\N character escape"
  | unknownName => ofString "unknown Unicode character name"

/-- What is wrong with an expression. -/
inductive Fault where
  /-- The rules are nested too deep; there are no words for it. -/
  | tooDeep
  /-- The fault of a field stands further to the left, in a later line, than the field begins, so
  that its line cannot be cut there. -/
  | misplaced
  | zeroCharacter
  | neverClosed (bracket : Char)
  | unmatched (bracket : Char)
  /-- `line` is the line of the opening bracket, if that is another one. -/
  | mismatched (bracket opened : Char) (line : Option Nat)
  | tooNested
  | unterminated (tripled : Bool) (line : Nat)
  /-- A number of the kind has no digits where it needs some, or goes on in letters. -/
  | badNumber (kind : String)
  | badDigit (digit : Char) (kind : String)
  | leadingZeros
  | afterBackslash
  | endOfSource
  | hidden (c : Char)
  | foreign (c : Char)
  | looseIndentation
  | mixedIndentation
  | deepIndentation
  | indented
  | invalid
  | commaMissing
  | elseMissing
  | callMissing (word : Text)
  | commandsAssigned (kind : String)
  | nameAssigned
  /-- An expression of the kind is assigned to; `inside` tells whether between brackets. -/
  | assigned (kind : String) (inside : Bool)
  | argumentAssigned
  | generatorBare
  | afterNamed
  | afterUnpacked
  | itemsAfterUnpacked
  | starAlone
  | starredHere (stars : Nat)
  | starredValue
  | spreadInComprehension (stars : Nat)
  | targetBare
  | valueMissing
  | colonMissing
  | bareStar
  | defaultFirst
  | bracketedParameters
  | slashFirst
  | slashTwice
  | slashAfterStar
  | slashBeforeStar
  | starDefault (stars : Nat)
  | defaultMissing
  | starTwice
  | parameterAfterStars
  | mixedTexts
  | foreignBytes
  /-- An escape in a text, with the first and the last position that it takes up. -/
  | textEscape (first last : Nat) (fault : EscapeFault)
  | byteEscape (position : Nat)
  | noExpression
  | noExpressionBefore (c : Char)
  | fieldBackslash
  | fieldComment
  | fieldTextOpen
  | fieldTooNested
  | fieldTooDeep
  | conversion
  | braceMissing
  | braceAlone
  /-- The fault is one of a field. -/
  | inField (fault : Fault)
  deriving DecidableEq, Repr

namespace Fault

/-- The advice for an assignment between brackets. -/
def advice (inside : Bool) : Text :=
  if inside then ofString " here. Maybe you meant '==' instead of '='?" else []

/-- The wording. -/
def message : Fault → Text
  | tooDeep => []
  | misplaced => ofString "Negative size passed to PyUnicode_New"
  | zeroCharacter => ofString "source code string cannot contain null bytes"
  | neverClosed b => '\'' :: b :: ofString "' was never closed"
  | unmatched b => ofString "unmatched '" ++ [b, '\'']
  | mismatched b opened line =>
    ofString "closing parenthesis '" ++ b :: ofString "' does not match opening parenthesis '" ++
      opened :: '\'' :: (match line with
        | some n => ofString " on line " ++ decimal n
        | none => [])
  | tooNested => ofString "too many nested parentheses"
  | unterminated tripled line =>
    ofString (if tripled then "unterminated triple-quoted" else "unterminated") ++
      ofString " string literal (detected at line " ++ decimal line ++ [')']
  | badNumber kind => ofString "invalid " ++ ofString kind ++ ofString " literal"
  | badDigit d kind =>
    ofString "invalid digit '" ++ d :: ofString "' in " ++ ofString kind ++ ofString " literal"
  | leadingZeros =>
    ofString "leading zeros in decimal integer literals are not permitted; " ++
      ofString "use an 0o prefix for octal integers"
  | afterBackslash => ofString "unexpected character after line continuation character"
  | endOfSource => ofString "unexpected EOF while parsing"
  | hidden c => ofString "invalid non-printable character U+" ++ codePoint c
  | foreign c => ofString "invalid character '" ++ c :: ofString "' (U+" ++ codePoint c ++ [')']
  | looseIndentation => ofString "unindent does not match any outer indentation level"
  | mixedIndentation => ofString "inconsistent use of tabs and spaces in indentation"
  | deepIndentation => ofString "too many levels of indentation"
  | indented => ofString "unexpected indent"
  | invalid => ofString "invalid syntax"
  | commaMissing => ofString "invalid syntax. Perhaps you forgot a comma?"
  | elseMissing => ofString "expected 'else' after 'if' expression"
  | callMissing word =>
    ofString "Missing parentheses in call to '" ++ word ++ ofString "'. Did you mean " ++ word ++
      ofString "(...)?"
  | commandsAssigned kind => ofString "cannot use assignment expressions with " ++ ofString kind
  | nameAssigned => ofString "invalid syntax. Maybe you meant '==' or ':=' instead of '='?"
  | assigned kind inside => ofString "cannot assign to " ++ ofString kind ++ advice inside
  | argumentAssigned => ofString "expression cannot contain assignment, perhaps you meant \"==\"?"
  | generatorBare => ofString "Generator expression must be parenthesized"
  | afterNamed => ofString "positional argument follows keyword argument"
  | afterUnpacked => ofString "positional argument follows keyword argument unpacking"
  | itemsAfterUnpacked =>
    ofString "iterable argument unpacking follows keyword argument unpacking"
  | starAlone => ofString "Invalid star expression"
  | starredHere stars =>
    ofString "cannot use " ++ (if stars = 2 then ofString "double " else []) ++
      ofString "starred expression here"
  | starredValue => ofString "cannot use a starred expression in a dictionary value"
  | spreadInComprehension 2 => ofString "dict unpacking cannot be used in dict comprehension"
  | spreadInComprehension _ => ofString "iterable unpacking cannot be used in comprehension"
  | targetBare => ofString "did you forget parentheses around the comprehension target?"
  | valueMissing => ofString "expression expected after dictionary key and ':'"
  | colonMissing => ofString "':' expected after dictionary key"
  | bareStar => ofString "named arguments must follow bare *"
  | defaultFirst => ofString "non-default argument follows default argument"
  | bracketedParameters => ofString "Lambda expression parameters cannot be parenthesized"
  | slashFirst => ofString "at least one argument must precede /"
  | slashTwice => ofString "/ may appear only once"
  | slashAfterStar => ofString "/ must be ahead of *"
  | slashBeforeStar => ofString "expected comma between / and *"
  | starDefault stars =>
    ofString (if stars = 2 then "var-keyword" else "var-positional") ++
      ofString " argument cannot have default value"
  | defaultMissing => ofString "expected default value expression"
  | starTwice => ofString "* argument may appear only once"
  | parameterAfterStars => ofString "arguments cannot follow var-keyword argument"
  | mixedTexts => ofString "cannot mix bytes and nonbytes literals"
  | foreignBytes => ofString "bytes can only contain ASCII literal characters"
  | textEscape first last fault =>
    ofString "(unicode error) 'unicodeescape' codec can't decode bytes in position " ++
      decimal first ++ '-' :: decimal last ++ ofString ": " ++ fault.message
  | byteEscape position =>
    ofString "(value error) invalid \\x escape at position " ++ decimal position
  | noExpression => ofString "empty expression not allowed"
  | noExpressionBefore c => ofString "expression required before '" ++ [c, '\'']
  | fieldBackslash => ofString "f-string expression part cannot include a backslash"
  | fieldComment => ofString "f-string expression part cannot include '#'"
  | fieldTextOpen => ofString "unterminated string"
  | fieldTooNested => ofString "too many nested parenthesis"
  | fieldTooDeep => ofString "expressions nested too deeply"
  | conversion => ofString "invalid conversion character: expected 's', 'r', or 'a'"
  | braceMissing => ofString "expecting '\x7d'"
  | braceAlone => ofString "single '\x7d' is not allowed"
  | inField fault => ofString "f-string: " ++ fault.message
where
  /-- A code point in hexadecimal digits. -/
  codePoint (c : Char) : Text := (hex 4 c.toNat).map Char.toUpper

/-- Whether nothing that is found later on takes the place of the fault. -/
def isFinal (f : Fault) : Bool := f = tooDeep || f = misplaced

end Fault

end Dialogue.Expression
