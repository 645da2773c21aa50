import Dialogue.Expression.Reading
import Dialogue.Expression.Template

/-!
# Literals

An expression is a literal if its value can be told without running anything: numbers, the sum of a
real and an imaginary one, texts, constants, tuples, sets and dictionaries of literals, and the
empty set. The members of a set and the keys of a dictionary may not be sets or dictionaries, nor
tuples that hold some.

* `read`: the tree of an expression;
* `Refusal`: why a text is no literal;
* `check`: makes sure that a text is a literal.
-/

namespace Dialogue.Expression

open Text

/-- The tree that a rule gives for a text that begins at a spot and in which texts with fields are
nested so deep at most. -/
def readWithin : Nat → Rule → (Fault → Fault) → Spot → Text → Except Fault Tree
  | 0, _, raise, _, _ => .error (raise .invalid)
  | depth + 1, start, raise, origin, t =>
    let readField (spot : Spot) (expression : Text) : Except Fault Tree :=
      readWithin depth .field .inField spot ('(' :: expression ++ [')', '\n'])
    if t.contains '\x00' then .error .zeroCharacter
    else
      let source := Source.ofText origin t
      Task.run { source, column := origin.column, raise, join := join readField } start

/-- The tree of an expression. -/
def read (t : Text) : Except Fault Tree := readWithin (t.length + 1) .whole id {} t

/-- Why a text is no literal. -/
inductive Refusal where
  | faulty (f : Fault)
  /-- The expression, or what stands in the place of one that is left out, is not literal. -/
  | notLiteral (leftOut : Bool)
  /-- A value of a type is where it cannot be. -/
  | unhashable (type : String)
  deriving DecidableEq, Repr

/-- What is wrong with a text that is no literal. -/
def Refusal.message : Refusal → Text
  | faulty f => f.message
  | notLiteral true => ofString "malformed node or string: None"
  | notLiteral false => ofString "malformed node or string on line 1"
  | unhashable type => ofString "unhashable type: '" ++ ofString type ++ ['\'']

/-- Whether the text is no expression at all. -/
def Refusal.isFault : Refusal → Bool
  | faulty f => !f.isFinal
  | _ => false

namespace Tree

/-- Whether the tree is a number, and an imaginary one. -/
def number? : Tree → Option Bool
  | placed _ _ t => number? t
  | number imaginary => some imaginary
  | _ => none

/-- Whether the tree is a number that may have a sign, and an imaginary one. -/
def signedNumber? : Tree → Option Bool
  | placed _ _ t => signedNumber? t
  | signed t => t.number?
  | t => t.number?

mutual

/-- Makes sure that an expression or a dictionary's entry is literal; the type of its value, if
that cannot be in a set. -/
def literal : Tree → Except Refusal (Option String)
  | placed _ _ t => literal t
  | text | bytes | constant _ | number _ => .ok none
  | tuple items => literals items
  | set items => do
    match ← members items with
    | some type => throw (.unhashable type)
    | none => return some "set"
  | dict entries => do
    let _ ← literals entries
    return some "dict"
  | pair key value => do
    let type ← literal key
    let _ ← literal value
    match type with
    | some type => throw (.unhashable type)
    | none => return none
  | call function [] [] =>
    match function.bare with
    | name w => if w = ofString "set" then .ok (some "set") else .error (.notLiteral false)
    | _ => .error (.notLiteral false)
  | sum left right =>
    match left.signedNumber?, right.number? with
    | some false, some true => .ok none
    | _, _ => .error (.notLiteral false)
  | signed t => if t.number?.isSome then .ok none else .error (.notLiteral false)
  | nothing => .error (.notLiteral true)
  | _ => .error (.notLiteral false)

/-- Makes sure that expressions are literals; the type of the first value that cannot be in a
set. -/
def literals : List Tree → Except Refusal (Option String)
  | [] => .ok none
  | t :: ts => do
    let first ← literal t
    let rest ← literals ts
    return first.or rest

/-- Makes sure that expressions are literals that can be in a set, up to the first one that
cannot; its type. -/
def members : List Tree → Except Refusal (Option String)
  | [] => .ok none
  | t :: ts => do
    match ← literal t with
    | some type => return some type
    | none => members ts

end

end Tree

/-- Makes sure that a text is a literal. -/
def check (t : Text) : Except Refusal Unit :=
  match read (t.dropWhile fun c => c = ' ' || c = '\t') with
  | .error f => .error (.faulty f)
  | .ok tree => tree.literal.map fun _ => ()

end Dialogue.Expression
