import Std.Data.HashMap
import Dialogue.Expression.Grammar
import Dialogue.Expression.Layout

/-!
# Reading by the grammar

A rule is read at a place by its first alternative that fits there. Rules may be nested so deep
only, and reading is a recursion on the levels that are left. Some rules are read once at each
place; one that may begin with itself is read again and again, each time from what it has come to,
as long as it comes further.

Where nothing fits, the reading is done over with the diagnoses. A fault that comes before any other
of the source is found by looking at the rest.

* `Reading`, `Task`: how readings run;
* `readRule`: a rule at a place;
* `Task.run`: the tree of a source, or its fault.
-/

namespace Dialogue.Expression

open Text

/-- What a reading has found out so far. -/
structure Progress where
  /-- How many lexemes have been looked at. -/
  seen : Nat := 0
  /-- What rules give at places, with the place after it. -/
  found : Std.HashMap (Rule × Nat) (Option (Tree × Nat)) := {}

/-- A reading goes on from what has been found out and may end with a fault. -/
abbrev Reading := EStateM Fault Progress

/-- What is read, and how. -/
structure Task where
  source : Source
  /-- The column at which the source begins. -/
  column : Nat
  /-- A fault as one of the whole in which the source stands. -/
  raise : Fault → Fault
  /-- The tree of quoted texts at spots that follow one another. The faults that are found there
  are raised from a column, for most of them that of the lexeme that has been looked at last. -/
  join : (Nat → Fault → Fault) → Nat → List (Quotation × Spot) → Except Fault Tree
  /-- Whether diagnoses are tried. -/
  alert : Bool := false

/-- How deep rules may be nested. -/
def maxLevels : Nat := 6000

/-- The names that begin more than expressions. -/
def softWords : List Text := ["_", "case", "match"].map ofString

namespace Task

/-- The token at a place. -/
def look (task : Task) (i : Nat) : Reading Token := do
  modify fun s => { s with seen := max s.seen (i + 1) }
  match task.source.lexemes[i]? with
  | some l => return l.token
  | none =>
    let ending := task.source.ending
    let fault := ending.fault.getD .invalid
    throw (if ending.urgent then fault else task.raise fault)

/-- How many brackets are open before a place. -/
def depth (task : Task) (i : Nat) : Nat :=
  (task.source.lexemes[i - 1]?.map Lexeme.depth).getD 0

/-- Where the lexeme at a place begins. -/
def spotAt (task : Task) (i : Nat) : Spot := (task.source.lexemes[i]?.map Lexeme.start).getD {}

/-- The columns between which the lexemes from a place up to another one stand. -/
def columns (task : Task) (i j : Nat) : Nat × Nat :=
  ((task.spotAt i).column, (task.source.lexemes[j - 1]?.map Lexeme.stop).getD 0)

/-- A tree of the lexemes from a place up to another one. -/
def placed (task : Task) (i j : Nat) (t : Tree) : Tree :=
  .placed (task.columns i j).1 (task.columns i j).2 t

/-- The columns between which a part stands that is read from a place up to another one: those of
its tree, if they are known. -/
def partColumns (task : Task) (i j : Nat) : List Tree → Nat × Nat
  | [t] => t.columns?.getD (task.columns i j)
  | _ => task.columns i j

/-- The column of a site, when so many lexemes have been looked at and the parts of the row stand
between the columns. -/
def siteColumn (task : Task) (seen : Nat) (parts : List (Nat × Nat)) : Site → Nat
  | .part k => (parts.getD k (0, 0)).1
  | .endOf k => (parts.getD k (0, 0)).2 - 1
  | .tree t => (t.columns?.map Prod.fst).getD 0
  | .last => (task.spotAt (seen - 1)).column

/-- A fault at a column. In a later line that may be one to the left of where the source begins. -/
def raiseAt (task : Task) (column : Nat) (f : Fault) : Fault :=
  if column + 1 < task.column then .misplaced else task.raise f

/-- What the outcome of an alternative that ends before a place depends on, when so many lexemes
have been looked at. -/
def scene (task : Task) (seen i : Nat) : Scene :=
  ⟨task.depth i, task.join task.raiseAt (task.spotAt (seen - 1)).column⟩

end Task

/-- What a row of parts comes to at a place. -/
inductive Fit where
  /-- It does not fit; `final` tells whether no other alternative is tried. -/
  | fails (final : Bool)
  /-- The trees, the columns between which the parts stand, and the place after them. -/
  | fits (trees : List Tree) (columns : List (Nat × Nat)) (next : Nat)

/-- One tree, or several as parts. -/
def together : List Tree → Tree
  | [t] => t
  | ts => .parts ts

/-- What is read one after another from a place on, at most so often. -/
def repeatedly (one : Nat → Reading (Option (List Tree × Nat))) :
    Nat → List Tree → Nat → Reading (List Tree × Nat)
  | 0, trees, i => return (trees.reverse, i)
  | k + 1, trees, i => do
    match ← one i with
    | some (ts, j) => repeatedly one k (ts.reverse ++ trees) j
    | none => return (trees.reverse, i)

/-- What a rule that begins with itself comes to at a place, when it has come to `best` already. -/
def grow (raw : Reading (Option (Tree × Nat))) (r : Rule) (i : Nat) :
    Nat → Option (Tree × Nat) → Reading (Option (Tree × Nat))
  | 0, best => return best
  | k + 1, best => do
    modify fun s => { s with found := s.found.insert (r, i) best }
    match ← raw with
    | some (t, j) =>
      if (best.map Prod.snd).getD i < j then grow raw r i k (some (t, j)) else return best
    | none => return best

mutual

/-- The trees of a part at a place, and the place after it. -/
def readPart (task : Task) (level : Nat) (p : Part) (i : Nat) :
    Reading (Option (List Tree × Nat)) :=
  match p with
  | .sign s => do return if (← task.look i) = .sign s then some ([], i + 1) else none
  | .name => do
    match ← task.look i with
    | .name w => return some ([task.placed i (i + 1) (.name (plain w))], i + 1)
    | _ => return none
  | .number => do
    match ← task.look i with
    | .number imaginary => return some ([task.placed i (i + 1) (.number imaginary)], i + 1)
    | _ => return none
  | .quotation => do
    match ← task.look i with
    | .quotation q => return some ([.quotation q (task.spotAt i)], i + 1)
    | _ => return none
  | .newline => do return if (← task.look i) = .newline then some ([], i + 1) else none
  | .finish => do return if (← task.look i) = .finish then some ([], i + 1) else none
  | .softWord => do
    match ← task.look i with
    | .name w => return if softWords.any w.isPrefixOf then some ([], i + 1) else none
    | _ => return none
  | .rule r => do
    match ← readRule task level r i with
    | some (t, j) => return some ([t], j)
    | none => return none
  | .maybe p => do
    match ← readPart task level p i with
    | some m => return some m
    | none => return some (if p.hasTree then [.nothing] else [], i)
  | .ahead p => do return if (← readPart task level p i).isSome then some ([], i) else none
  | .absent p => do return if (← readPart task level p i).isSome then none else some ([], i)
  | .cut => return some ([], i)
  | .choice rows =>
    match level with
    | 0 => throw .tooDeep
    | n + 1 => readChoice task n rows i
  | .many p =>
    match level with
    | 0 => throw .tooDeep
    | n + 1 => do
      let (ts, j) ← repeatedly (readPart task n p) (task.source.lexemes.size + 1) [] i
      return some ([.parts ts], j)
  | .some p =>
    match level with
    | 0 => throw .tooDeep
    | n + 1 => do
      let (ts, j) ← repeatedly (readPart task n p) (task.source.lexemes.size + 1) [] i
      return if ts.isEmpty then none else some ([.parts ts], j)
  | .separated s p =>
    match level with
    | 0 => throw .tooDeep
    | n + 1 => do
      match ← readPart task n p i with
      | none => return none
      | some (ts, j) =>
        match n with
        | 0 => throw .tooDeep
        | m + 1 =>
          let next (k : Nat) : Reading (Option (List Tree × Nat)) := do
            if (← task.look k) = .sign s then readPart task m p (k + 1) else return none
          let (us, j) ← repeatedly next (task.source.lexemes.size + 1) [] j
          return some ([.parts (ts ++ us)], j)
termination_by (level, sizeOf p)

/-- A row of parts at a place, after the trees and the columns of others in reverse. -/
def readRow (task : Task) (level : Nat) (ps : List Part) (final : Bool) (trees : List Tree)
    (columns : List (Nat × Nat)) (i : Nat) : Reading Fit :=
  match ps with
  | [] => return .fits trees.reverse columns.reverse i
  | p :: ps => do
    match ← readPart task level p i with
    | some (ts, j) =>
      readRow task level ps (final || (match p with | .cut => true | _ => false))
        (ts.reverse ++ trees) (task.partColumns i j ts :: columns) j
    | none => return .fails final
termination_by (level, sizeOf ps)

/-- The tree of the first row that fits at a place, and the place after it. -/
def readChoice (task : Task) (level : Nat) (rows : List (List Part)) (i : Nat) :
    Reading (Option (List Tree × Nat)) :=
  match rows with
  | [] => return none
  | ps :: rows => do
    match ← readRow task level ps false [] [] i with
    | .fits ts _ j => return some ([together ts], j)
    | .fails _ => readChoice task level rows i
termination_by (level, sizeOf rows)

/-- What the first alternative that fits at a place gives. -/
def readAlternatives (task : Task) (level : Nat) (as : List Alternative) (i : Nat) :
    Reading (Option (Tree × Nat)) :=
  match as with
  | [] => return none
  | a :: as =>
    if a.diagnostic && !task.alert then readAlternatives task level as i
    else do
      match ← readRow task level a.parts false [] [] i with
      | .fails true => return none
      | .fails false => readAlternatives task level as i
      | .fits ts columns j =>
        let seen := (← get).seen
        match a.outcome (task.scene seen j) ts with
        | .tree t => return some (task.placed i j t, j)
        | .same t => return some (t, j)
        | .none => return none
        | .wrong site f => throw (task.raiseAt (task.siteColumn seen columns site) f)
        | .fault f => throw f
termination_by (level, sizeOf as)
decreasing_by all_goals (cases a; simp_wf; omega)

/-- A rule at a place: its tree and the place after it. -/
def readRule (task : Task) (level : Nat) (r : Rule) (i : Nat) : Reading (Option (Tree × Nat)) :=
  match level with
  | 0 => throw .tooDeep
  | n + 1 => do
    if r.growing then
      let _ ← task.look i
      match (← get).found[(r, i)]? with
      | some known => return known
      | none =>
        match n with
        | 0 => throw .tooDeep
        | m + 1 =>
          grow (readAlternatives task m (grammar r) i) r i (task.source.lexemes.size + 1) none
    else if r.remembered then
      let _ ← task.look i
      match (← get).found[(r, i)]? with
      | some known => return known
      | none =>
        let result ← readAlternatives task n (grammar r) i
        modify fun s => { s with found := s.found.insert (r, i) result }
        return result
    else
      let quiet : Task := if r = .quietExpression then { task with alert := false } else task
      readAlternatives quiet n (grammar r) i
termination_by (level, 0)

end

namespace Task

/-- The fault of a source of which so many lexemes have been looked at when one was found: that
one, unless an urgent one follows, or a bracket of an earlier line has not been closed. -/
def laterFault (task : Task) (seen : Nat) (f : Fault) : Fault :=
  match task.source.ending.fault, task.source.ending.urgent, task.source.ending.opened with
  | some g, true, _ => g
  | some _, false, o :: _ =>
    if o.line < (task.spotAt (seen - 1)).line then
      task.raise (.neverClosed o.bracket)
    else f
  | _, _, _ => f

/-- Whether nothing is left to look at when so many lexemes have been. -/
def isRead (task : Task) (seen : Nat) : Bool :=
  task.source.lexemes.size < seen || (task.source.lexemes[seen - 1]?.map Lexeme.last).getD false

/-- The fault of a source in which one has been found. -/
def finalFault (task : Task) (seen : Nat) (f : Fault) : Fault :=
  if f.isFinal || task.isRead seen then f else task.laterFault seen f

/-- The tree that a rule gives for the source, or the fault. -/
def run (task : Task) (start : Rule) : Except Fault Tree :=
  match readRule { task with alert := false } maxLevels start 0 {} with
  | .ok (some (t, _)) _ => .ok t
  | .error f s => .error (task.finalFault s.seen f)
  | .ok none s =>
    match readRule { task with alert := true } maxLevels start 0 { seen := s.seen } with
    | .error f s => .error (task.finalFault s.seen f)
    | .ok _ after =>
      match task.source.lexemes[s.seen - 1]?.map Lexeme.token with
      | some .indent => .error (task.raise .indented)
      | _ =>
        let f := task.raiseAt (task.spotAt (s.seen - 1)).column .invalid
        .error (task.laterFault after.seen f)

end Task

end Dialogue.Expression
