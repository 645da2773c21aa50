import Dialogue.Expression.Tree
import Dialogue.Text.CharacterName

/-!
# Quoted texts and their fields

In a quoted text a backslash begins an escape, unless the text is raw. A text may have fields
between braces: an expression, then an optional mark that it is shown with its source, an optional
conversion and an optional format, which may have fields itself. A doubled brace is no field.

* `textFault?`, `bytesFault?`: the first faulty escape;
* `literalPart`, `fieldExpression`: a text up to a field, and the expression of a field;
* `afterFields`: what follows the fields that a text begins with;
* `Quotation.fieldSpot`: where the expression of a field begins;
* `join`: the tree of quoted texts that follow one another.
-/

namespace Dialogue.Expression

open Text

/-! ## Escapes -/

/-- Whether the character is a hexadecimal digit. -/
def isHexDigit (c : Char) : Bool := c.isDigit || ('a' ≤ c.toLower && c.toLower ≤ 'f')

/-- The text with every character beyond ASCII written by its code point. -/
def expand : Text → Text
  | '\\' :: c :: r =>
    if c.toNat < 0x80 then '\\' :: c :: expand r
    else ofString "\\u005c" ++ '\\' :: 'U' :: hex 8 c.toNat ++ expand r
  | ['\\'] => ofString "\\u005c"
  | c :: r =>
    if c.toNat < 0x80 then c :: expand r else '\\' :: 'U' :: hex 8 c.toNat ++ expand r
  | [] => []

/-- How many digits follow the letter of an escape by code point. -/
def escapeDigits : Char → Option Nat
  | 'x' => some 2
  | 'u' => some 4
  | 'U' => some 8
  | _ => none

/-- The fault of an escape at a position, of which the text after the backslash is given, or how
many characters belong to it. -/
def escape (start : Nat) : Text → Except Fault Nat
  | [] => .ok 0
  | 'N' :: '\x7b' :: r =>
    let name := r.takeWhile (· ≠ '\x7d')
    let last := start + 2 + name.length
    if name.isEmpty || name.length = r.length then .error (.textEscape start last .malformedName)
    else if isCharacterName name then .ok (name.length + 3)
    else .error (.textEscape start (last + 1) .unknownName)
  | 'N' :: _ => .error (.textEscape start (start + 1) .malformedName)
  | c :: r =>
    match escapeDigits c with
    | none => .ok 1
    | some count =>
      let digits := (r.take count).takeWhile isHexDigit
      let fault := Fault.textEscape start (start + digits.length + 1)
      if digits.length < count then .error (fault (.truncated c count))
      else if 0x10ffff < digits.foldl (fun n d => 16 * n + hexValue d) 0 then
        .error (fault .notUnicode)
      else .ok (count + 1)
where
  hexValue (d : Char) : Nat :=
    if d.isDigit then d.toNat - '0'.toNat else d.toLower.toNat - 'a'.toNat + 10

/-- The first faulty escape of an expanded text from a position on. -/
def escapeFault? (start : Nat) : Text → Option Fault
  | [] => none
  | '\\' :: r =>
    match escape start r with
    | .error f => some f
    | .ok n => escapeFault? (start + 1 + n) (r.drop n)
  | _ :: r => escapeFault? (start + 1) r
termination_by t => t.length
decreasing_by all_goals (simp only [List.length_cons, List.length_drop]; omega)

/-- The first faulty escape of a text. -/
def textFault? (t : Text) : Option Fault := escapeFault? 0 (expand t)

/-- The first faulty escape of bytes from a position on. -/
def bytesFault? (start : Nat) : Text → Option Fault
  | '\\' :: 'x' :: a :: b :: r =>
    if isHexDigit a && isHexDigit b then bytesFault? (start + 4) r else some (.byteEscape start)
  | '\\' :: 'x' :: _ => some (.byteEscape start)
  | '\\' :: _ :: r => bytesFault? (start + 2) r
  | _ :: r => bytesFault? (start + 1) r
  | [] => none

/-! ## Fields -/

/-- A text up to a brace that begins or ends a field, what follows, and whether the brace was a
doubled one, of which the first belongs to the text. -/
def literalPart (raw nested : Bool) (read : Text) : Text → Except Fault (Text × Text × Bool)
  | [] => .ok (read.reverse, [], false)
  | c :: r =>
    if c = '\\' ∧ !raw ∧ r.head? = some 'N' then
      match r with
      | _ :: '\x7b' :: r =>
        let name := r.takeWhile (· ≠ '\x7d')
        let taken := r.take (name.length + 1)
        literalPart raw nested (taken.reverse ++ '\x7b' :: 'N' :: '\\' :: read)
          (r.drop taken.length)
      | _ :: d :: r => literalPart raw nested (d :: 'N' :: '\\' :: read) r
      | _ => .ok ((r.reverse ++ '\\' :: read).reverse, [], false)
    else if c = '\\' ∧ !raw ∧ (r.head?.any fun d => d ≠ '\x7b' && d ≠ '\x7d') then
      match r with
      | d :: r => literalPart raw nested (d :: '\\' :: read) r
      | [] => .ok ((c :: read).reverse, [], false)
    else if c = '\x7b' ∨ c = '\x7d' then
      if !nested && r.head? = some c then .ok ((c :: read).reverse, r.drop 1, true)
      else if !nested && c = '\x7d' then .error (.inField .braceAlone)
      else .ok (read.reverse, c :: r, false)
    else literalPart raw nested (c :: read) r
termination_by t => t.length
decreasing_by all_goals (simp_all only [List.length_cons, List.length_drop]; omega)

/-- What a character of a field's expression stands in. -/
structure FieldState where
  /-- The quote of the text that it stands in, and whether that is written three times. -/
  quote : Option (Char × Bool) := none
  /-- The open brackets, the innermost first. -/
  opened : List Char := []

/-- The expression of a field up to the character that ends it, and what begins there. -/
def fieldExpression (s : FieldState) (read : Text) : Text → Except Fault (Text × Text)
  | [] =>
    .error (.inField <| match s.quote, s.opened with
      | some _, _ => .fieldTextOpen
      | none, b :: _ => .unmatched b
      | none, [] => .braceMissing)
  | c :: r =>
    if c = '\\' then .error .fieldBackslash
    else
      match s.quote with
      | some (quote, tripled) =>
        if c ≠ quote then fieldExpression s (c :: read) r
        else if !tripled then fieldExpression { s with quote := none } (c :: read) r
        else if r.take 2 = [c, c] then
          fieldExpression { s with quote := none } (c :: c :: c :: read) (r.drop 2)
        else fieldExpression s (c :: read) r
      | none =>
        if c = '\'' ∨ c = '"' then
          if r.take 2 = [c, c] then
            fieldExpression { s with quote := some (c, true) } (c :: c :: c :: read) (r.drop 2)
          else fieldExpression { s with quote := some (c, false) } (c :: read) r
        else if c = '(' ∨ c = '[' ∨ c = '\x7b' then
          if 200 ≤ s.opened.length then .error (.inField .fieldTooNested)
          else fieldExpression { s with opened := c :: s.opened } (c :: read) r
        else if c = '#' then .error .fieldComment
        else if s.opened.isEmpty && ['!', '=', '<', '>'].contains c && r.head? = some '=' then
          fieldExpression s ('=' :: c :: read) (r.drop 1)
        else if s.opened.isEmpty && ['!', ':', '\x7d', '='].contains c then
          .ok (read.reverse, c :: r)
        else if c = ')' ∨ c = ']' ∨ c = '\x7d' then
          match s.opened with
          | [] => .error (.inField (.unmatched c))
          | b :: outer =>
            if [('(', ')'), ('[', ']'), ('\x7b', '\x7d')].contains (b, c) then
              fieldExpression { s with opened := outer } (c :: read) r
            else .error (.inField (.mismatched c b none))
        else fieldExpression s (c :: read) r
termination_by t => t.length
decreasing_by all_goals (simp only [List.length_cons, List.length_drop]; omega)

/-- How an expression is read that stands in a field, when so many characters of the text are left
where it begins. -/
abbrev FieldReader := Nat → Text → Except Fault Tree

/-- Makes sure that the expression of a field can be read that a character ends. -/
def checkExpression (read : Text → Except Fault Tree) (raise : Fault → Fault) (expression : Text)
    (last : Char) : Except Fault Unit :=
  if expression.all [' ', '\t', '\n', '\x0c'].contains then
    .error (raise (.inField (if last = '\x7d' then .noExpression else .noExpressionBefore last)))
  else (read expression).map fun _ => ()

/-- What follows the mark of a field that is shown with its source, and the blanks after it. -/
def afterMark : Text → Text
  | '=' :: r => r.dropWhile [' ', '\t', '\n', '\x0b', '\x0c', '\r'].contains
  | t => t

/-- What follows the conversion of a field, if there is one. -/
def afterConversion : Text → Except Fault Text
  | ['!'] => .error (.inField .braceMissing)
  | '!' :: c :: r => if ['s', 'r', 'a'].contains c then .ok r else .error (.inField .conversion)
  | t => .ok t

/-- What follows the expression, the mark and the conversion of a field. -/
def afterHead (read : FieldReader) (raise : Fault → Fault) (level : Nat) (t : Text) :
    Except Fault Text := do
  if 2 ≤ level then throw (raise (.inField .fieldTooDeep))
  let (expression, rest) ← (fieldExpression {} [] t).mapError raise
  checkExpression (read t.length) raise expression (rest.headD '\x7d')
  (afterConversion (afterMark rest)).mapError raise

/-- What follows the literal parts and the fields that a text begins with when it is inside of so
many fields: nothing or, inside of one, its closing brace. -/
def afterFields (read : FieldReader) (raise : Fault → Fault) (raw : Bool) (level : Nat) :
    Text → Except Fault Text
  | [] => .ok []
  | c :: t => do
    let (literal, rest, doubled) ← (literalPart raw (0 < level) [] (c :: t)).mapError raise
    if let some f := if raw then none else textFault? literal then throw (raise f)
    let taken := t.length + 1 - rest.length
    if doubled then afterFields read raise raw level (t.drop (taken - 1))
    else
      match _h : (c :: t).drop taken with
      | '\x7b' :: r =>
        let after ← afterHead read raise level r
        match after with
        | ':' :: format =>
          let after ← afterFields read raise raw (level + 1) (r.drop (r.length - format.length))
          match after with
          | '\x7d' :: after =>
            afterFields read raise raw level (r.drop (r.length - after.length))
          | _ => throw (raise (.inField .braceMissing))
        | '\x7d' :: after =>
          afterFields read raise raw level (r.drop (r.length - after.length))
        | _ => throw (raise (.inField .braceMissing))
      | rest => return rest
termination_by t => t.length
decreasing_by
  all_goals
    simp only [List.length_cons, List.length_drop]
    first
    | omega
    | have := congrArg List.length _h
      simp only [List.length_cons, List.length_drop] at this
      omega

/-! ## Quoted texts that follow one another -/

namespace Quotation

/-- Whether the text is bytes. -/
def isBytes (q : Quotation) : Bool := q.letters.contains 'b'

/-- Whether a backslash stands for itself in the text. -/
def isRaw (q : Quotation) : Bool := q.letters.contains 'r'

/-- Whether the text may have fields. -/
def isTemplate (q : Quotation) : Bool := q.letters.contains 'f'

/-- The fault of a text without fields. -/
def fault? (q : Quotation) : Option Fault :=
  if q.isBytes then
    if q.body.any (0x80 ≤ ·.toNat) then some .foreignBytes
    else if q.isRaw then none else bytesFault? 0 q.body
  else if q.isTemplate || q.isRaw then none
  else textFault? q.body

end Quotation

/-- How faults are raised that are shown at a column. -/
abbrev Raising := Nat → Fault → Fault

/-- How an expression is read that begins at a spot. -/
abbrev SpotReader := Spot → Text → Except Fault Tree

/-- Where the expression of a field begins, from which on so many characters are left of a text at a
spot. The column counts from the text or, in a later line of it, from the start of that line; what
stands before a brace that ends its line does not count. -/
def Quotation.fieldSpot (q : Quotation) (spot : Spot) (left : Nat) (expression : Text) : Spot :=
  let before := q.letters ++ List.replicate (if q.tripled then 3 else 1) '"' ++
    q.body.take (q.body.length - left - 1)
  let onLine := before.reverse.takeWhile (· ≠ '\n')
  let broken := (expression.dropWhile [' ', '\t', '\x0c'].contains).head? = some '\n'
  let width := if broken then 0 else onLine.foldl (fun n c => n + c.utf8Size) 0
  { line := spot.line + before.count '\n'
    column := if before.contains '\n' then width else spot.column + width }

/-- The tree of quoted texts at spots that follow one another, the first of which is bytes or is
not. Faults are shown at the lexeme that is looked at last, a foreign character of bytes at them. -/
def joinAs (bytes : Bool) (read : SpotReader) (raise : Raising) (last : Nat) :
    List (Quotation × Spot) → Except Fault Tree
  | [] => .ok (if bytes then .bytes else .text)
  | (q, spot) :: qs => do
    if let some f := q.fault? then throw (raise (if f = .foreignBytes then spot.column else last) f)
    if q.isBytes ≠ bytes then throw (raise last .mixedTexts)
    if q.isTemplate then
      let readField (left : Nat) (expression : Text) : Except Fault Tree :=
        read (q.fieldSpot spot left expression) expression
      let _ ← afterFields readField (raise last) q.isRaw 0 q.body
    let joined ← joinAs bytes read raise last qs
    return if q.isTemplate then .template else joined

/-- The tree of quoted texts at spots that follow one another. -/
def join (read : SpotReader) (raise : Raising) (last : Nat) (qs : List (Quotation × Spot)) :
    Except Fault Tree :=
  joinAs (qs.head?.any fun q => q.1.isBytes) read raise last qs

end Dialogue.Expression
