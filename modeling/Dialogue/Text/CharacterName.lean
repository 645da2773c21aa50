import Dialogue.Text.Basic
import Dialogue.Text.CharacterName.Table

/-!
# The names of characters

A character may be called by its name or by a formal alias, in small letters as well as capitals.
Two kinds of names follow a rule and are written in capitals only: a syllable is called by its
leading consonant, its vowel and its trailing consonant, a unified ideograph by its code point.

* `isCharacterName`: whether some character has the name.
-/

namespace Dialogue.Text

/-! ## Names that follow a rule -/

/-- The names of the leading consonants; some syllables have none. -/
def leadingConsonants : List String :=
  ["G", "GG", "N", "D", "DD", "R", "M", "B", "BB", "S", "SS", "", "J", "JJ", "C", "K", "T", "P",
    "H"]

/-- The names of the vowels. -/
def vowels : List String :=
  ["A", "AE", "YA", "YAE", "EO", "E", "YEO", "YE", "O", "WA", "WAE", "OE", "YO", "U", "WEO", "WE",
    "WI", "YU", "EU", "YI", "I"]

/-- The names of the trailing consonants; some syllables have none. -/
def trailingConsonants : List String :=
  ["", "G", "GG", "GS", "N", "NJ", "NH", "D", "L", "LG", "LM", "LB", "LS", "LT", "LP", "LH", "M",
    "B", "BS", "S", "SS", "NG", "J", "C", "K", "T", "P", "H"]

/-- What follows the longest of the sounds that the text begins with. -/
def afterSound (sounds : List String) (t : Text) : Option Text :=
  let fitting := sounds.filter fun sound => (ofString sound).isPrefixOf t
  if fitting.isEmpty then none
  else some (t.drop (fitting.foldl (fun n sound => max n sound.length) 0))

/-- Whether the text is made of the sounds of a syllable. -/
def isSyllable (t : Text) : Bool :=
  (afterSound leadingConsonants t >>= afterSound vowels >>= afterSound trailingConsonants)
    == some []

/-- The value of a hexadecimal digit in capitals. -/
def capitalHexDigit? (c : Char) : Option Nat :=
  if c.isDigit then some (c.toNat - '0'.toNat)
  else if 'A' ≤ c && c ≤ 'F' then some (c.toNat - 'A'.toNat + 10)
  else none

/-- The unified ideographs. -/
def ideographRuns : List (Nat × Nat) :=
  [(0x3400, 0x4dbf), (0x4e00, 0x9fff), (0x20000, 0x2a6df), (0x2a700, 0x2b738), (0x2b740, 0x2b81d),
    (0x2b820, 0x2cea1), (0x2ceb0, 0x2ebe0), (0x30000, 0x3134a)]

/-- Whether the text is the code point of a unified ideograph in four or five digits. -/
def isIdeograph (t : Text) : Bool :=
  (t.length = 4 || t.length = 5) &&
    match t.mapM capitalHexDigit? with
    | none => false
    | some digits => inRuns ideographRuns (Char.ofNat (digits.foldl (16 * · + ·) 0))

/-! ## Listed names -/

/-- A listed name while it is read: its characters so far, the last one first, how many of them it
has in common with the name before it as long as these are counted, and whether an earlier name was
the one looked for. -/
structure Listed where
  letters : Text
  shared : Option Nat
  found : Bool

namespace Listed

/-- Goes on with a character of the list; `sought` is the name looked for, its last character
first. -/
def next (sought : Text) (s : Listed) (c : Char) : Listed :=
  if c.isLower then
    match s.shared with
    | none => ⟨s.letters, some (c.toNat - 'a'.toNat), s.found || s.letters == sought⟩
    | some n => ⟨s.letters, some (n + (c.toNat - 'a'.toNat)), s.found⟩
  else
    match s.shared with
    | none => ⟨c :: s.letters, none, s.found⟩
    | some n => ⟨c :: s.letters.drop (s.letters.length - n), none, s.found⟩

end Listed

/-- Whether the name, in capitals, is one of the listed ones. -/
def isListed (name : Text) : Bool :=
  let sought := name.reverse
  let last := characterNames.foldl
    (fun s line => (ofString line).foldl (Listed.next sought) s) ⟨[], some 0, false⟩
  last.found || last.letters == sought

/-- Whether a character has the name. -/
def isCharacterName (name : Text) : Bool :=
  let syllable := ofString "HANGUL SYLLABLE "
  let ideograph := ofString "CJK UNIFIED IDEOGRAPH-"
  if syllable.isPrefixOf name then isSyllable (name.drop syllable.length)
  else if ideograph.isPrefixOf name then isIdeograph (name.drop ideograph.length)
  else isListed (name.map Char.toUpper)

end Dialogue.Text
