import Dialogue.Text.Basic

/-!
# Blank characters and trimming

A character is blank when it is white space in the sense of the Unicode character database, or one
of the four information separators U+001C to U+001F. Zero-width spaces and the byte-order mark are
not blank.

* `isBlank`: the class;
* `trimLeft`, `trimRight`, `trim`: the text without its outer blanks;
* `words`: what stands between blanks.
-/

namespace Dialogue.Text

/-- The blank characters above U+007F. -/
def wideBlanks : List Char :=
  ['\u0085', '\u00a0', '\u1680', '\u2000', '\u2001', '\u2002', '\u2003', '\u2004', '\u2005',
    '\u2006', '\u2007', '\u2008', '\u2009', '\u200a', '\u2028', '\u2029', '\u202f', '\u205f',
    '\u3000']

/-- Whether a character is white space. -/
def isBlank (c : Char) : Bool :=
  c = ' ' || (9 ≤ c.toNat && c.toNat ≤ 13) || (0x1c ≤ c.toNat && c.toNat ≤ 0x1f) ||
    wideBlanks.contains c

/-- The text without its leading blanks. -/
def trimLeft (t : Text) : Text := t.dropWhile isBlank

/-- The text without its trailing blanks. -/
def trimRight (t : Text) : Text := (t.reverse.dropWhile isBlank).reverse

/-- The text without blanks at either end. -/
def trim (t : Text) : Text := trimRight (trimLeft t)

/-- The pieces of a text between its blanks. -/
def words (t : Text) : List Text := (t.splitOnP isBlank).filter fun w => !w.isEmpty

end Dialogue.Text
