import Dialogue.Text.Digit
import Dialogue.Text.Letter.Table

/-!
# Words in any script

A word of any script is an identifier by the properties `XID_Start` and `XID_Continue` of its
characters. Some characters are only other shapes of small letters, such as the letters of the
mathematical alphabets, and words are compared by the letters that they are shapes of.

* `opensWord`, `extendsWord`: the characters of identifiers;
* `isAlphanumeric`: letters, digits and numerals;
* `plain`: a word with the small letters themselves in the place of their other shapes.
-/

namespace Dialogue.Text

/-- Whether the character may open an identifier. -/
def opensWord (c : Char) : Bool :=
  if c.toNat < 0x80 then c.isAlpha || c = '_' else inRuns openingRuns c

/-- Whether the character may follow the first one of an identifier. -/
def extendsWord (c : Char) : Bool :=
  opensWord c || isAsciiDigit c || inRuns extendingRuns c

/-- The characters that may open an identifier and are neither letters nor numerals. -/
def openingMarks : List Char := ['ᢅ', 'ᢆ', '℘', '℮']

/-- Whether the character is a letter, a digit or a numeral. -/
def isAlphanumeric (c : Char) : Bool :=
  if c.toNat < 0x80 then c.isAlphanum
  else (opensWord c && !openingMarks.contains c) || inRuns numeralRuns c

/-- The first character of every alphabet of which each letter is a shape of a small one. -/
def smallAlphabets : List Nat :=
  [0x1d41a, 0x1d44e, 0x1d482, 0x1d4b6, 0x1d4ea, 0x1d51e, 0x1d552, 0x1d586, 0x1d5ba, 0x1d5ee,
    0x1d622, 0x1d656, 0x1d68a, 0xff41]

/-- The other characters that are shapes of small letters, after the letters. -/
def smallShapes : List (String × String) :=
  [("a", "ªᵃₐ"), ("b", "ᵇ"), ("c", "ᶜⅽ"), ("d", "ᵈⅆⅾ"), ("e", "ᵉₑℯⅇ"), ("f", "ᶠ"), ("g", "ᵍℊ"),
    ("h", "ʰₕℎ"), ("i", "ᵢⁱℹⅈⅰ"), ("j", "ʲⅉⱼ"), ("k", "ᵏₖ"), ("l", "ˡₗℓⅼ"), ("m", "ᵐₘⅿ"),
    ("n", "ⁿₙ"), ("o", "ºᵒₒℴ"), ("p", "ᵖₚ"), ("q", "𐞥"), ("r", "ʳᵣ"), ("s", "ſˢₛ"), ("t", "ᵗₜ"),
    ("u", "ᵘᵤ"), ("v", "ᵛᵥⅴ"), ("w", "ʷ"), ("x", "ˣₓⅹ"), ("y", "ʸ"), ("z", "ᶻ"), ("ij", "ĳ"),
    ("lj", "ǉ"), ("nj", "ǌ"), ("dz", "ǳ"), ("ii", "ⅱ"), ("iii", "ⅲ"), ("iv", "ⅳ"), ("vi", "ⅵ"),
    ("vii", "ⅶ"), ("viii", "ⅷ"), ("ix", "ⅸ"), ("xi", "ⅺ"), ("xii", "ⅻ"), ("ff", "ﬀ"), ("fi", "ﬁ"),
    ("fl", "ﬂ"), ("ffi", "ﬃ"), ("ffl", "ﬄ"), ("st", "ﬅﬆ")]

/-- The small letters that the character is a shape of; any other character stands for itself. -/
def plainLetters (c : Char) : Text :=
  if c.toNat < 0x80 then [c]
  else match smallShapes.find? fun entry => (ofString entry.2).contains c with
    | some entry => ofString entry.1
    | none =>
      match smallAlphabets.find? fun first => first ≤ c.toNat && c.toNat < first + 26 with
      | some first => [Char.ofNat ('a'.toNat + (c.toNat - first))]
      | none => [c]

/-- The word with the small letters in the place of their other shapes. -/
def plain (word : Text) : Text := word.flatMap plainLetters

end Dialogue.Text
