import Dialogue.Expression.Token

/-!
# Expressions as trees

A tree keeps what decides whether an expression is a literal, and how it is called where something
is wrong with it.

* `Tree`: the trees;
* `Tree.kind`: what an expression is called;
* `Tree.badTarget?`: the first part of a loop's target that cannot be one.
-/

namespace Dialogue.Expression

/-- An expression, or a part of one. -/
inductive Tree where
  | name (word : Text)
  | number (imaginary : Bool)
  | text
  | bytes
  /-- A text with fields. -/
  | template
  /-- A truth value, the missing value or the ellipsis. -/
  | constant (kind : String)
  | tuple (items : List Tree)
  | set (items : List Tree)
  /-- A dictionary of pairs. -/
  | dict (entries : List Tree)
  | call (function : Tree) (arguments keywords : List Tree)
  /-- A plus or a minus before an operand. -/
  | signed (operand : Tree)
  /-- A plus or a minus between operands. -/
  | sum (left right : Tree)
  /-- Any other operation. -/
  | operation
  | comparison (left : Tree) (links : List Tree)
  | starred (value : Tree)
  | member
  /-- Any other expression of a kind. -/
  | other (kind : String)
  /-- A part that is left out. -/
  | nothing
  /-- Parts that follow one another. -/
  | parts (ts : List Tree)
  /-- An entry of a dictionary; an unpacked one has no key. -/
  | pair (key value : Tree)
  /-- An argument with a name, or one that stands for several with their names. -/
  | keyword (named : Bool)
  /-- An operand with the operator before it. -/
  | link (operator : String)
  | quotation (q : Quotation) (spot : Spot)
  /-- A tree that stands between two columns. -/
  | placed (start stop : Nat) (t : Tree)

namespace Tree

/-- What the expression is called. -/
def kind : Tree → String
  | placed _ _ t => kind t
  | name _ => "name"
  | number _ | text | bytes => "literal"
  | template => "f-string expression"
  | constant kind | other kind => kind
  | tuple _ => "tuple"
  | set _ => "set display"
  | dict _ => "dict literal"
  | call _ _ _ => "function call"
  | signed _ | sum _ _ | operation => "expression"
  | comparison _ _ => "comparison"
  | starred _ => "starred"
  | member => "attribute"
  | nothing | parts _ | pair _ _ | keyword _ | link _ | quotation _ _ => ""

/-- The tree itself, without its columns. -/
def bare : Tree → Tree
  | placed _ _ t => bare t
  | t => t

/-- The columns between which the tree stands, if they are known. -/
def columns? : Tree → Option (Nat × Nat)
  | placed start stop _ => some (start, stop)
  | _ => none

/-- The parts that follow one another in the tree. -/
def toList : Tree → List Tree
  | placed _ _ t => toList t
  | parts ts => ts
  | _ => []

/-- Whether a comparison asks first for a member. -/
def asksMember (links : List Tree) : Bool :=
  match links.head?.map bare with
  | some (link operator) => operator = "in"
  | _ => false

mutual

/-- The first part of a loop's target that cannot be one. A target that is compared with what it
runs through has been read too far. -/
def badTarget? : Tree → Option Tree
  | placed start stop t => (badTarget? t).map fun bad =>
    if bad.columns?.isSome then bad else placed start stop bad
  | tuple items => firstBadTarget? items
  | starred value => badTarget? value
  | comparison left links => if asksMember links then badTarget? left else none
  | name _ | member => none
  | t => some t

/-- The first part of targets that cannot be one. -/
def firstBadTarget? : List Tree → Option Tree
  | [] => none
  | t :: ts => (badTarget? t).or (firstBadTarget? ts)

end

end Tree

end Dialogue.Expression
