import Dialogue.Text.Printable

/-!
# Texts shown as quoted literals

Defaults, error texts and summaries show a text between quotes. Single quotes are used unless the
text holds one and no double quote. Inside, the backslash and the quote in use are escaped, line
feed, carriage return and tab are written `\n`, `\r` and `\t`, and any other character that is not
printable by its code point in two, four or eight hexadecimal digits.

* `hex`: a number in hexadecimal digits;
* `quoted`: the literal.
-/

namespace Dialogue.Text

/-- A number in lower-case hexadecimal digits, at least `width` of them. -/
def hex (width n : Nat) : Text :=
  let digits := Nat.toDigits 16 n
  List.replicate (width - digits.length) '0' ++ digits

/-- The quotes a text is shown between. -/
def quoteFor (t : Text) : Char :=
  if t.contains '\'' && !t.contains '"' then '"' else '\''

/-- How one character stands between quotes. -/
def quotedChar (quote c : Char) : Text :=
  if c = quote ∨ c = '\\' then ['\\', c]
  else if c = '\n' then ['\\', 'n']
  else if c = '\r' then ['\\', 'r']
  else if c = '\t' then ['\\', 't']
  else if isPrintable c then [c]
  else if c.toNat < 0x100 then '\\' :: 'x' :: hex 2 c.toNat
  else if c.toNat < 0x10000 then '\\' :: 'u' :: hex 4 c.toNat
  else '\\' :: 'U' :: hex 8 c.toNat

/-- The text as a quoted literal. -/
def quoted (t : Text) : Text :=
  let quote := quoteFor t
  quote :: t.flatMap (quotedChar quote) ++ [quote]

end Dialogue.Text
