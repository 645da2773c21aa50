import Dialogue.Expression.Fault
import Dialogue.Text.Letter

/-!
# Tokens of expressions

An expression consists of names, keywords, numbers, quoted texts, operators and brackets. A number
may not go on in letters, unless they are a word that stands between two values.

* `Quotation`, `Token`: the tokens;
* `Spot`: where something begins;
* `number`, `quotation`, `word`, `operator`: the token of a kind at the start of a text;
* `token`: the token that a text begins with, and what follows it.
-/

namespace Dialogue.Expression

open Text

/-- A quoted text: the letters before it, whether its quotes are written three times, and what
stands between them. -/
structure Quotation where
  letters : Text
  tripled : Bool
  body : Text
  deriving DecidableEq, Repr

/-- Where something begins: a line, and a column, which counts bytes. -/
structure Spot where
  line : Nat := 1
  column : Nat := 0
  deriving DecidableEq, Repr

/-- A token. -/
inductive Token where
  | name (word : Text)
  | number (imaginary : Bool)
  | quotation (q : Quotation)
  /-- A keyword, an operator or a bracket. -/
  | sign (s : String)
  | newline
  | indent
  | dedent
  /-- The end of the source. -/
  | finish
  deriving DecidableEq, Repr

/-! ## Numbers -/

/-- Whether a name may go on with the character, as far as can be told before it is complete. -/
def goesOn (c : Char) : Bool := c.isAlphanum || c = '_' || 0x80 ≤ c.toNat

/-- What follows digits between which single underscores may stand; what stands in the place of a
digit that is missing after an underscore, as an error. -/
def afterDigits (digit : Char → Bool) : Text → Except Text Text
  | [] => .ok []
  | ['_'] => .error []
  | '_' :: c :: r => if digit c then afterDigits digit r else .error (c :: r)
  | c :: r => if digit c then afterDigits digit r else .ok (c :: r)

/-- What follows at least one digit, which an underscore may stand before. -/
def afterSomeDigits (digit : Char → Bool) (t : Text) : Except Text Text :=
  match (match t with | '_' :: r => r | r => r) with
  | c :: r => if digit c then afterDigits digit r else .error (c :: r)
  | [] => .error []

/-- Whether a text begins with a word that may follow a number without a blank. -/
def beginsWithLink : Text → Bool
  | 'i' :: c :: _ => ['f', 'n', 's'].contains c
  | t => (["and", "else", "for", "or", "not"].map ofString).contains (t.takeWhile goesOn)

/-- The rest after a number, which may not begin as a name of ASCII characters goes on. -/
def numberEnd (kind : String) (rest : Text) : Except Fault Text :=
  if (rest.head?.any fun c => c.toNat < 0x80 && goesOn c) && !beginsWithLink rest then
    .error (.badNumber kind)
  else .ok rest

/-- What follows the digits of a number in another base. -/
def basedNumber (kind : String) (digit : Char → Bool) (t : Text) : Except Fault Text :=
  let wrongDigit (rest : Text) : Option Fault :=
    rest.head?.bind fun c => if isAsciiDigit c then some (.badDigit c kind) else none
  match afterSomeDigits digit t with
  | .error rest => .error ((wrongDigit rest).getD (.badNumber kind))
  | .ok rest =>
    match wrongDigit rest with
    | some f => .error f
    | none => numberEnd kind rest

/-- What follows digits of a decimal number. -/
def decimalDigits (t : Text) : Except Fault Text :=
  (afterDigits isAsciiDigit t).mapError fun _ => .badNumber "decimal"

/-- What follows the exponent of a number, if there is one. -/
def afterExponent (t : Text) : Except Fault Text :=
  match t with
  | [] => .ok []
  | e :: r =>
    if e = 'e' ∨ e = 'E' then
      let signed := r.head?.any fun c => c = '+' || c = '-'
      match (if signed then r.tail else r) with
      | d :: r' =>
        if isAsciiDigit d then decimalDigits r'
        else if signed then .error (.badNumber "decimal")
        else .ok t
      | [] => if signed then .error (.badNumber "decimal") else .ok t
    else .ok t

/-- Whether a number is imaginary of which the exponent and the mark of an imaginary one are left,
and what follows it. -/
def afterFraction (t : Text) : Except Fault (Bool × Text) := do
  let rest ← afterExponent t
  match rest with
  | j :: r =>
    if j = 'j' ∨ j = 'J' then return (true, ← numberEnd "imaginary" r)
    else return (false, ← numberEnd "decimal" rest)
  | [] => return (false, [])

/-- Whether a number that begins with a digit is imaginary, and what follows it. -/
def number (first : Char) (t : Text) : Except Fault (Bool × Text) :=
  match first, t with
  | '0', 'x' :: r | '0', 'X' :: r =>
    match afterSomeDigits (fun c => isAsciiDigit c || ('a' ≤ c.toLower && c.toLower ≤ 'f')) r with
    | .error _ => .error (.badNumber "hexadecimal")
    | .ok rest => (numberEnd "hexadecimal" rest).map fun rest => (false, rest)
  | '0', 'o' :: r | '0', 'O' :: r =>
    (basedNumber "octal" (fun c => '0' ≤ c && c ≤ '7') r).map fun rest => (false, rest)
  | '0', 'b' :: r | '0', 'B' :: r =>
    (basedNumber "binary" (fun c => c = '0' || c = '1') r).map fun rest => (false, rest)
  | _, _ => do
    let rest ← decimalDigits t
    match rest with
    | '.' :: r =>
      match r with
      | d :: r' => if isAsciiDigit d then afterFraction (← decimalDigits r') else afterFraction r
      | [] => return (false, [])
    | _ =>
      let digits := (t.take (t.length - rest.length)).filter isAsciiDigit
      let real := rest.head?.any fun c => ['e', 'E', 'j', 'J'].contains c
      if first = '0' && !real && digits.any (· ≠ '0') then throw .leadingZeros
      afterFraction rest

/-! ## Quoted texts -/

/-- A text up to the quote that ends it, and what follows that quote; a backslash takes the next
character with it. What has been read, as an error. -/
def body (quote : Char) (tripled : Bool) (read : Text) : Text → Except Text (Text × Text)
  | [] => .error read
  | '\\' :: [] => .error ('\\' :: read)
  | '\\' :: c :: r => body quote tripled (c :: '\\' :: read) r
  | c :: r =>
    if c = quote && (!tripled || r.take 2 = [quote, quote]) then
      .ok (read.reverse, if tripled then r.drop 2 else r)
    else if c = '\n' && !tripled then .error ('\n' :: read)
    else body quote tripled (c :: read) r

/-- The quoted text on a line after its first quote, and what follows it. -/
def quotation (line : Nat) (letters : Text) (quote : Char) (t : Text) :
    Except Fault (Quotation × Text) :=
  let tripled := t.take 2 = [quote, quote]
  match body quote tripled [] (if tripled then t.drop 2 else t) with
  | .ok (body, rest) => .ok ({ letters, tripled, body }, rest)
  | .error read => .error (.unterminated tripled (line + (read.drop 1).count '\n'))

/-- The number of letters that may stand before a quoted text at the start of a text. -/
def quotationLetters (t : Text) : Option Nat :=
  let marks := ["", "r", "b", "u", "f", "rb", "br", "rf", "fr"].map ofString
  let letters := (t.take 2).takeWhile fun c => c ≠ '\'' && c ≠ '"'
  if marks.contains (letters.map Char.toLower) && (t.drop letters.length).head?.any
    fun c => c = '\'' || c = '"'
  then some letters.length else none

/-! ## Words and operators -/

/-- The names that are not free. -/
def keywords : List String :=
  ["False", "None", "True", "and", "as", "assert", "async", "await", "break", "class", "continue",
    "def", "del", "elif", "else", "except", "finally", "for", "from", "global", "if", "import",
    "in", "is", "lambda", "nonlocal", "not", "or", "pass", "raise", "return", "try", "while",
    "with", "yield"]

/-- The token of a word, if all its characters may stand in a name. -/
def word (w : Text) : Except Fault Token :=
  let rest := if w.head?.any opensWord then w.tail.dropWhile extendsWord else w
  match rest with
  | c :: _ => .error (if isPrintable c then .foreign c else .hidden c)
  | [] =>
    match keywords.find? fun k => ofString k = w with
    | some k => .ok (.sign k)
    | none => .ok (.name w)

/-- The operators that need more than one character, the longer ones first. -/
def longOperators : List String :=
  ["...", "**=", "//=", ">>=", "<<=", "**", "//", "<<", ">>", "==", "!=", "<>", "<=", ">=", ":=",
    "->", "+=", "-=", "*=", "/=", "%=", "@=", "&=", "|=", "^="]

/-- The operator at the start of a text; a character that is none stands for itself. -/
def operator (c : Char) (r : Text) : Except Fault (Token × Text) :=
  match longOperators.find? fun s => (ofString s).isPrefixOf (c :: r) with
  | some s => .ok (.sign s, r.drop (s.length - 1))
  | none => if isPrintable c then .ok (.sign (String.singleton c), r) else .error (.hidden c)

/-- The token that a text on a line begins with, and what follows it. -/
def token (line : Nat) (c : Char) (r : Text) : Except Fault (Token × Text) :=
  match quotationLetters (c :: r) with
  | some n =>
    match (c :: r).drop n with
    | quote :: after =>
      (quotation line (((c :: r).take n).map Char.toLower) quote after).map fun (q, rest) =>
        (.quotation q, rest)
    | [] => .error .invalid
  | none =>
    if isAsciiDigit c then (number c r).map fun (imaginary, rest) => (.number imaginary, rest)
    else if c = '.' ∧ r.head?.any isAsciiDigit then
      (decimalDigits r >>= afterFraction).map fun (imaginary, rest) => (.number imaginary, rest)
    else if goesOn c then
      (word (c :: r.takeWhile goesOn)).map fun t => (t, r.dropWhile goesOn)
    else operator c r

end Dialogue.Expression
