import Dialogue.Expression.Token

/-!
# Lines, brackets and indentation

A source is read from its start to its first fault. Outside of brackets the end of a line is a
token, and so is every change of the indentation; a line that is empty or holds a comment only
counts for neither. A backslash at the end of a line joins it with the next one.

* `Lexeme`: a token with its place and the number of brackets that are open after it;
* `Ending`: how the reading of a source ends;
* `Source.ofText`: the lexemes of a text and its ending.
-/

namespace Dialogue.Expression

open Text

/-- A token where it stands. In the first line columns go on from the one at which the source
begins, but not for a token that reaches into the next line. -/
structure Lexeme where
  token : Token
  start : Spot
  /-- The column at which it ends. -/
  stop : Nat
  /-- How many brackets are open after it. -/
  depth : Nat
  /-- Whether it is seen that the source ends with it. -/
  last : Bool := false
  deriving DecidableEq, Repr

/-- An open bracket and its line. -/
structure Opened where
  bracket : Char
  line : Nat
  deriving DecidableEq, Repr

/-- How the reading of a source ends. -/
structure Ending where
  /-- What is wrong after the last lexeme; `none` at the end of the source. -/
  fault : Option Fault := none
  /-- Whether the fault comes before any other of the source. -/
  urgent : Bool := false
  /-- The brackets that are open there, the innermost first. -/
  opened : List Opened := []
  deriving DecidableEq, Repr

/-- A source as its lexemes. -/
structure Source where
  lexemes : Array Lexeme
  ending : Ending

/-- A place in a source: where the source begins, the line of the place and the column in it, the
open brackets, and the indentations that are in use, the innermost first. An indentation has two
widths, with wide tabs and with narrow ones. -/
structure Place where
  origin : Spot
  line : Nat := origin.line
  column : Nat := 0
  opened : List Opened := []
  indents : List (Nat × Nat) := []
  deriving DecidableEq, Repr

namespace Place

/-- The place after a text that is read. -/
def after (p : Place) (read : Text) : Place :=
  read.foldl (fun p c =>
    if c = '\n' then { p with line := p.line + 1, column := 0 }
    else { p with column := p.column + c.utf8Size }) p

/-- A token from here up to a place. -/
def lexeme (p stop : Place) (t : Token) : Lexeme :=
  let shift := if stop.line = p.origin.line then p.origin.column else 0
  { token := t, start := ⟨p.line, shift + p.column⟩, stop := shift + stop.column
    depth := stop.opened.length }

/-- The fault of a source that ends here. -/
def ending (p : Place) : Ending where
  fault := p.opened.head?.map fun o => .neverClosed o.bracket
  opened := p.opened

/-- A fault here that comes before any other. -/
def urgent (p : Place) (f : Fault) : Ending :=
  { fault := some f, urgent := true, opened := p.opened }

/-- A fault here that others may come before. -/
def plain (p : Place) (f : Fault) : Ending := { fault := some f, opened := p.opened }

/-- The fault of a source that ends after a backslash here. -/
def joined (p : Place) : Ending :=
  { p.ending with fault := some (p.ending.fault.getD .endOfSource) }

end Place

/-- How many brackets may be open at once. -/
def maxBrackets : Nat := 200

/-- How many indentations may be in use at once. -/
def maxIndents : Nat := 99

/-- The place after a bracket. -/
def Place.bracket (p : Place) (c : Char) : Except Fault Place :=
  if ['(', '[', '\x7b'].contains c then
    if maxBrackets ≤ p.opened.length then .error .tooNested
    else .ok { p with opened := ⟨c, p.line⟩ :: p.opened }
  else if [')', ']', '\x7d'].contains c then
    match p.opened with
    | [] => .error (.unmatched c)
    | o :: outer =>
      if [('(', ')'), ('[', ']'), ('\x7b', '\x7d')].contains (o.bracket, c) then
        .ok { p with opened := outer }
      else .error (.mismatched c o.bracket (if o.line = p.line then none else some o.line))
  else .ok p

/-- The blanks at the start of a line: the two widths of the indentation. -/
structure Margin where
  wide : Nat := 0
  narrow : Nat := 0
  /-- The width in the first line, if that is joined with the next one. -/
  joined : Nat := 0
  deriving DecidableEq, Repr

/-- The margin at the start of a text, and what follows it. -/
def Margin.read (p : Place) (m : Margin) : Text → Except Ending (Margin × Text)
  | ' ' :: r => read p { m with wide := m.wide + 1, narrow := m.narrow + 1 } r
  | '\t' :: r => read p { m with wide := (m.wide / 8 + 1) * 8, narrow := m.narrow + 1 } r
  | '\x0c' :: r => read p { m with wide := 0, narrow := 0 } r
  | ['\\', '\n'] => .error p.joined
  | '\\' :: '\n' :: r =>
    read p { m with joined := if m.joined = 0 then m.wide else m.joined } r
  | '\\' :: _ => .error (p.plain .afterBackslash)
  | r => .ok (m, r)

/-- The widths of the indentation that a margin gives. -/
def Margin.widths (m : Margin) : Nat × Nat :=
  if m.joined = 0 then (m.wide, m.narrow) else (m.joined, m.joined)

/-- The place after the indentation of a line, and the tokens of its change. -/
def Place.indent (p : Place) (widths : Nat × Nat) : Except Ending (Place × List Token) :=
  let inner := p.indents.headD (0, 0)
  if widths.1 = inner.1 then
    if widths.2 = inner.2 then .ok (p, []) else .error (p.plain .mixedIndentation)
  else if inner.1 < widths.1 then
    if maxIndents ≤ p.indents.length then .error (p.plain .deepIndentation)
    else if widths.2 ≤ inner.2 then .error (p.plain .mixedIndentation)
    else .ok ({ p with indents := widths :: p.indents }, [.indent])
  else
    let left := p.indents.dropWhile fun i => widths.1 < i.1
    let outer := left.headD (0, 0)
    if widths.1 ≠ outer.1 then .error (p.plain .looseIndentation)
    else if widths.2 ≠ outer.2 then .error (p.plain .mixedIndentation)
    else .ok ({ p with indents := left },
      List.replicate (p.indents.length - left.length) .dedent)

/-- The lexemes of a text from a place on, and the ending. `fresh` tells whether a line begins
there, `blank` whether the line counts for nothing. -/
def lexemesFrom (p : Place) (fresh blank : Bool) (t : Text) : List Lexeme × Ending :=
  if fresh then
    match Margin.read p {} t with
    | .error e => ([], e)
    | .ok (m, rest) =>
      let p := p.after (t.take (t.length - rest.length))
      let blank := rest.head? = some '#' || rest.head? = some '\n'
      match (if blank || !p.opened.isEmpty then .ok (p, []) else p.indent m.widths) with
      | .error e => ([], e)
      | .ok (p, changes) =>
        let (more, e) := lexemesFrom p false blank (t.drop (t.length - rest.length))
        (changes.map (p.lexeme p) ++ more, e)
  else match t with
    | [] => if p.opened.isEmpty then ([p.lexeme p .finish], p.ending) else ([], p.ending)
    | c :: r =>
      if c = ' ' ∨ c = '\t' ∨ c = '\x0c' then lexemesFrom (p.after [c]) false blank r
      else if c = '#' then
        let comment := r.takeWhile (· ≠ '\n')
        lexemesFrom (p.after (c :: comment)) false blank (r.drop comment.length)
      else if c = '\n' then
        let next := lexemesFrom (p.after [c]) true false r
        if blank || !p.opened.isEmpty then next else (p.lexeme p .newline :: next.1, next.2)
      else if c = '\\' then
        match r with
        | ['\n'] => ([], p.joined)
        | '\n' :: r => lexemesFrom (p.after [c, '\n']) false blank r
        | _ => ([], p.plain .afterBackslash)
      else
        match token p.line c r with
        | .error f => ([], p.urgent f)
        | .ok (t, rest) =>
          match p.bracket (match t with | .sign _ => c | _ => ' ') with
          | .error f => ([], p.urgent f)
          | .ok inner =>
            let stop := inner.after (c :: r.take (r.length - rest.length))
            let (more, e) := lexemesFrom stop false false (r.drop (r.length - rest.length))
            let last := match t with | .quotation _ => false | _ => rest.isEmpty
            ({ p.lexeme stop t with last } :: more, e)
termination_by (t.length, if fresh then 1 else 0)
decreasing_by
  all_goals simp_wf
  all_goals (try simp_all)
  all_goals omega

/-- The text with every end of a line written as a line feed. -/
def unifyLines : Text → Text
  | '\r' :: '\n' :: r => '\n' :: unifyLines r
  | '\r' :: r => '\n' :: unifyLines r
  | c :: r => c :: unifyLines r
  | [] => []

/-- The lexemes of a text that begins at a spot, and its ending. -/
def Source.ofText (origin : Spot) (t : Text) : Source :=
  let (read, ending) := lexemesFrom { origin } true false (unifyLines t)
  { lexemes := read.toArray, ending }

end Dialogue.Expression
