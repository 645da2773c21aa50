import Dialogue.Expression.Tree

/-!
# The grammar of expressions

A rule has alternatives, of which the first one that fits counts. An alternative is a row of parts,
and what it gives is made of the trees of its parts. Some alternatives fit only what is wrong, and
they say what that is; most of them are tried only where nothing else fits.

* `Rule`, `Part`, `Alternative`: what grammars consist of;
* `Site`, `Outcome`: what alternatives give, and where they show what is wrong;
* `grammar`: the alternatives of every rule;
* `Rule.remembered`, `Rule.growing`: the rules of which each place is read once, and those that
  begin with themselves.
-/

namespace Dialogue.Expression

open Text

/-- The rules. -/
inductive Rule where
  | whole | field
  | expressions | expression | quietExpression | yielded
  | starredExpressions | starredExpression | elements | element | assignment | namedExpression
  | disjunction | conjunction | inversion | comparison | link
  | bitOr | bitXor | bitAnd | shift | sum | term | factor | power | awaited | primary | atom
  | quotations | group | tuple | setDisplay | dictDisplay | pairs | pairOrSpread | pair
  | clauses | clause | setComprehension | generator | dictComprehension
  | function | parameters | parameterList | slashPlain | slashDefault | starParameters
  | doubleStarParameters | plainParameter | defaultParameter | anyParameter | parameter
  | defaultValue | arguments | argumentList | namedArguments | spread | keywordOrSpread
  | keywordOrDoubleSpread
  | targets | targetItems | target | plainTarget | targetAtom | targetPrimary | targetAhead
  | badExpression | badCall | badNamed | badArguments | badKeyword | badComprehension
  | badDictComprehension | badGroup | badPairs | badPair | badTarget
  | badParameters | badParametersHead | badStarParameters | badDoubleStarParameters | badDefault
  deriving DecidableEq, Repr, Hashable

/-- A part of an alternative. -/
inductive Part where
  /-- A keyword, an operator or a bracket. -/
  | sign (s : String)
  | name
  | number
  | quotation
  | newline
  | finish
  /-- A name that begins as a word does that begins more than an expression. -/
  | softWord
  | rule (r : Rule)
  /-- A part, or nothing. -/
  | maybe (p : Part)
  /-- The first row that fits. -/
  | choice (rows : List (List Part))
  | many (p : Part)
  /-- One part at least. -/
  | some (p : Part)
  /-- One part at least, with a sign between neighbours. -/
  | separated (s : String) (p : Part)
  /-- A part that has to follow and is left to others. -/
  | ahead (p : Part)
  | absent (p : Part)
  /-- After this no other alternative is tried. -/
  | cut

/-- Whether the part has a tree. -/
def Part.hasTree : Part → Bool
  | sign _ | newline | finish | softWord | ahead _ | absent _ | cut => false
  | maybe p => p.hasTree
  | _ => true

/-- Where a fault is shown. The parts of a row are counted from zero. -/
inductive Site where
  /-- Where a part begins. -/
  | part (k : Nat)
  /-- The last character of a part. -/
  | endOf (k : Nat)
  /-- Where a tree begins. -/
  | tree (t : Tree)
  /-- The last lexeme that has been looked at. -/
  | last

/-- What an alternative gives that fits. -/
inductive Outcome where
  /-- A tree of the whole row. -/
  | tree (t : Tree)
  /-- The tree of a part, which keeps its columns. -/
  | same (t : Tree)
  /-- Nothing, and no other alternative is tried. -/
  | none
  | wrong (site : Site) (f : Fault)
  /-- A fault of the texts that are joined. -/
  | fault (f : Fault)

/-- What the outcome of an alternative depends on beside its trees. -/
structure Scene where
  /-- How many brackets are open after its last token. -/
  depth : Nat
  /-- The tree of quoted texts at spots that follow one another. -/
  join : List (Quotation × Spot) → Except Fault Tree

/-- A row of parts and what it gives. -/
structure Alternative where
  parts : List Part
  outcome : Scene → List Tree → Outcome
  /-- Whether it is tried only to find out what is wrong. -/
  diagnostic : Bool := false

/-! ## Building alternatives -/

instance : Coe Rule Part := ⟨.rule⟩
instance : Coe String Part := ⟨.sign⟩

/-- A row that gives a tree made of those of its parts. -/
def row (parts : List Part) (build : List Tree → Tree) : Alternative :=
  { parts, outcome := fun _ ts => .tree (build ts) }

/-- A row that gives the tree of its only part that has one. -/
def pass (parts : List Part) : Alternative :=
  { parts, outcome := fun _ ts => .same (ts.headD .nothing) }

/-- A row that gives an expression of a kind. -/
def made (parts : List Part) (t : Tree) : Alternative := row parts fun _ => t

/-- A row that is wrong. -/
def wrong (parts : List Part) (f : Fault) (site : Site := .part 0) : Alternative :=
  { parts, outcome := fun _ _ => .wrong site f }

/-- A row that is wrong if its trees have a fault. -/
def wrongIf (parts : List Part) (fault? : List Tree → Option (Site × Fault)) : Alternative :=
  { parts, outcome := fun _ ts => ((fault? ts).map fun found => .wrong found.1 found.2).getD .none }

/-- A rule that is tried only to find out what is wrong. -/
def diagnosis (r : Rule) : Alternative := { pass [r] with diagnostic := true }

/-- One tree, or a tuple of several. -/
def tupleOf : List Tree → Tree
  | [t, .parts ts] => .tuple (t :: ts)
  | ts => .tuple ts

/-- The call of a function with the arguments that have been read for it. -/
def callOf (function read : Tree) : Tree :=
  match read.bare with
  | .call _ arguments keywords => .call function arguments keywords
  | _ => .call function [] []

/-- Arguments without the function that they are for. -/
def argumentsOf (first more : List Tree) : Tree :=
  let isKeyword (t : Tree) : Bool := match t.bare with | .keyword _ => true | _ => false
  .call .nothing (first ++ more.filter fun t => !isKeyword t) (more.filter isKeyword)

/-- The word of a tree that was a command once and has to be called. -/
def command? (t : Tree) : Option Text :=
  match t.bare with
  | .name w => if w = ofString "print" ∨ w = ofString "exec" then some w else none
  | _ => none

/-- The fault of an argument after others. -/
def afterFault (arguments : Tree) : Option Fault :=
  match arguments.bare with
  | .call _ _ keywords =>
    let unpacked (t : Tree) : Bool := match t.bare with | .keyword named => !named | _ => false
    some (if keywords.any unpacked then .afterUnpacked else .afterNamed)
  | _ => none

/-- The last of several arguments without a name. -/
def lastOfSeveral? (arguments : Tree) : Option Tree :=
  match arguments.bare with
  | .call _ (_ :: t :: ts) _ => (t :: ts).getLast?
  | _ => none

/-! ## The rules -/

open Rule

/-- The value of an argument: not the name of one. -/
def argumentValue : Part := .choice [[assignment], [expression, .absent ":="]]

/-- An argument without a name. -/
def positional : Part := .choice [[spread], [argumentValue, .absent "="]]

/-- The alternatives of the rules for operations and what they consist of. -/
def operations : Rule → List Alternative
  | disjunction => [row [conjunction, .some (.choice [["or", conjunction]])] fun _ => .operation,
      pass [conjunction]]
  | conjunction => [row [inversion, .some (.choice [["and", inversion]])] fun _ => .operation,
      pass [inversion]]
  | inversion => [made ["not", inversion] .operation, pass [comparison]]
  | comparison =>
    [row [bitOr, .some link] fun | [t, .parts ls] => .comparison t ls | _ => .nothing,
      pass [bitOr]]
  | link =>
    [made [.choice [["==", bitOr]]] (.link "=="),
      made [.choice [[.choice [["!="]], bitOr]]] (.link "!="),
      made [.choice [["<=", bitOr]]] (.link "<="), made [.choice [["<", bitOr]]] (.link "<"),
      made [.choice [[">=", bitOr]]] (.link ">="), made [.choice [[">", bitOr]]] (.link ">"),
      made [.choice [["not", "in", bitOr]]] (.link "not in"),
      made [.choice [["in", bitOr]]] (.link "in"),
      made [.choice [["is", "not", bitOr]]] (.link "is not"),
      made [.choice [["is", bitOr]]] (.link "is")]
  | bitOr => [made [bitOr, "|", bitXor] .operation, pass [bitXor]]
  | bitXor => [made [bitXor, "^", bitAnd] .operation, pass [bitAnd]]
  | bitAnd => [made [bitAnd, "&", shift] .operation, pass [shift]]
  | shift => [made [shift, "<<", sum] .operation, made [shift, ">>", sum] .operation, pass [sum]]
  | sum => [row [sum, "+", term] sumOf, row [sum, "-", term] sumOf, pass [term]]
  | term =>
    [made [term, "*", factor] .operation, made [term, "/", factor] .operation,
      made [term, "//", factor] .operation, made [term, "%", factor] .operation,
      made [term, "@", factor] .operation, pass [factor]]
  | factor =>
    [row ["+", factor] fun ts => .signed (ts.headD .nothing),
      row ["-", factor] fun ts => .signed (ts.headD .nothing), made ["~", factor] .operation,
      pass [power]]
  | power => [made [awaited, "**", factor] .operation, pass [awaited]]
  | awaited => [made ["await", primary] (.other "await expression"), pass [primary]]
  | primary =>
    [made [primary, ".", .name] .member,
      row [primary, generator] fun | [t, g] => .call t [g] [] | _ => .nothing,
      row [primary, "(", .maybe arguments, ")"] fun | [t, a] => callOf t a | _ => .nothing,
      pass [atom]]
  | atom =>
    [pass [.name], made ["True"] (.constant "True"), made ["False"] (.constant "False"),
      made ["None"] (.constant "None"), pass [.ahead .quotation, quotations], pass [.number],
      pass [.ahead "(", .choice [[tuple], [group], [generator]]],
      pass [.ahead "\x7b",
        .choice [[dictDisplay], [setDisplay], [dictComprehension], [setComprehension]]],
      made ["..."] (.constant "ellipsis")]
  | quotations =>
    [{ parts := [.some .quotation]
       outcome := fun scene ts =>
        match scene.join ((ts.headD .nothing).toList.filterMap fun
          | .quotation q spot => some (q, spot) | _ => none) with
        | .ok t => .tree t
        | .error f => .fault f }]
  | _ => []
where
  sumOf : List Tree → Tree
    | [left, right] => .sum left right
    | _ => .nothing

/-- The alternatives of the rules for brackets and what stands between them. -/
def brackets : Rule → List Alternative
  | group => [pass ["(", .choice [[yielded], [namedExpression]], ")"], diagnosis badGroup]
  | tuple =>
    [row ["(", .maybe (.choice [[element, ",", .maybe elements]]), ")"] fun
      | [.parts [t, more]] => .tuple (t :: more.toList)
      | _ => .tuple []]
  | setDisplay => [row ["\x7b", elements, "\x7d"] fun ts => .set (ts.headD .nothing).toList]
  | dictDisplay =>
    [row ["\x7b", .maybe pairs, "\x7d"] fun ts => .dict (ts.headD .nothing).toList,
      pass ["\x7b", badPairs, "\x7d"]]
  | pairs => [pass [.separated "," pairOrSpread, .maybe ","]]
  | pairOrSpread => [row ["**", bitOr] fun ts => .pair .nothing (ts.headD .nothing), pass [pair]]
  | pair => [row [expression, ":", expression] fun | [k, v] => .pair k v | _ => .nothing]
  | clauses => [pass [.some clause]]
  | clause =>
    let run : List Part := ["for", targets, "in", .cut, disjunction,
      .many (.choice [["if", disjunction]])]
    [made ("async" :: run) .nothing, made run .nothing, diagnosis badTarget]
  | setComprehension =>
    [made ["\x7b", namedExpression, clauses, "\x7d"] (.other "set comprehension"),
      diagnosis badComprehension]
  | generator =>
    [made ["(", argumentValue, clauses, ")"] (.other "generator expression"),
      diagnosis badComprehension]
  | dictComprehension =>
    [made ["\x7b", pair, clauses, "\x7d"] (.other "dict comprehension"),
      diagnosis badDictComprehension]
  | arguments => [pass [argumentList, .maybe ",", .ahead ")"], diagnosis badArguments]
  | argumentList =>
    [row [.separated "," positional,
        .maybe (.choice [[",", namedArguments]])] fun
      | [a, k] => argumentsOf a.toList k.toList
      | _ => .nothing,
      row [namedArguments] fun ts => argumentsOf [] (ts.headD .nothing).toList]
  | namedArguments =>
    [row [.separated "," keywordOrSpread, ",", .separated "," keywordOrDoubleSpread] fun ts =>
      .parts (ts.flatMap Tree.toList),
      pass [.separated "," keywordOrSpread], pass [.separated "," keywordOrDoubleSpread]]
  | spread =>
    [row ["*", expression] fun ts => .starred (ts.headD .nothing), wrong ["*"] .starAlone .last]
  | keywordOrSpread =>
    [diagnosis badKeyword, made [.name, "=", expression] (.keyword true), pass [spread]]
  | keywordOrDoubleSpread =>
    [diagnosis badKeyword, made [.name, "=", expression] (.keyword true),
      made ["**", expression] (.keyword false)]
  | targets =>
    [pass [target, .absent ","], row [target, .many (.choice [[",", target]]), .maybe ","] tupleOf]
  | targetItems =>
    [row [target, .some (.choice [[",", target]]), .maybe ","] tupleOf, row [target, ","] tupleOf]
  | target => [pass ["*", .choice [[.absent "*", target]]], pass [plainTarget]]
  | plainTarget =>
    [made [targetPrimary, ".", .name, .absent targetAhead] .member, pass [targetAtom]]
  | targetAtom => [pass [.name], pass ["(", plainTarget, ")"], pass ["(", .maybe targetItems, ")"]]
  | targetPrimary =>
    [made [targetPrimary, ".", .name, .ahead targetAhead] .member,
      made [targetPrimary, generator, .ahead targetAhead] .nothing,
      made [targetPrimary, "(", .maybe arguments, ")", .ahead targetAhead] .nothing,
      pass [atom, .ahead targetAhead]]
  | targetAhead => [pass ["("], pass ["."]]
  | _ => []

/-- The alternatives of the rules for functions and their parameters. -/
def functions : Rule → List Alternative
  | function => [made ["lambda", .maybe parameters, ":", expression] (.other "lambda")]
  | parameters => [diagnosis badParameters, pass [parameterList]]
  | parameterList =>
    [pass [slashPlain, .many plainParameter, .many defaultParameter, .maybe starParameters],
      pass [slashDefault, .many defaultParameter, .maybe starParameters],
      pass [.some plainParameter, .many defaultParameter, .maybe starParameters],
      pass [.some defaultParameter, .maybe starParameters], pass [starParameters]]
  | slashPlain =>
    [pass [.some plainParameter, "/", ","], pass [.some plainParameter, "/", .ahead ":"]]
  | slashDefault =>
    [pass [.many plainParameter, .some defaultParameter, "/", ","],
      pass [.many plainParameter, .some defaultParameter, "/", .ahead ":"]]
  | starParameters =>
    [diagnosis badStarParameters,
      pass ["*", plainParameter, .many anyParameter, .maybe doubleStarParameters],
      pass ["*", ",", .some anyParameter, .maybe doubleStarParameters], pass [doubleStarParameters]]
  | doubleStarParameters => [diagnosis badDoubleStarParameters, pass ["**", plainParameter]]
  | plainParameter => [pass [parameter, ","], pass [parameter, .ahead ":"]]
  | defaultParameter =>
    [pass [parameter, defaultValue, ","], pass [parameter, defaultValue, .ahead ":"]]
  | anyParameter =>
    [pass [parameter, .maybe defaultValue, ","], pass [parameter, .maybe defaultValue, .ahead ":"]]
  | parameter => [pass [.name]]
  | defaultValue => [pass ["=", expression], diagnosis badDefault]
  | _ => []

/-- The alternatives of the rules that fit what is wrong. -/
def diagnoses : Rule → List Alternative
  | badExpression =>
    [{ parts := [.absent (.choice [[.name, .quotation], [.softWord]]), disjunction, quietExpression]
       outcome := fun scene ts =>
        if (ts.head?.bind command?).isSome || scene.depth = 0 then .none
        else .wrong (.part 1) .commaMissing },
      wrong [disjunction, "if", disjunction, .absent (.choice [["else"], [":"]])] .elseMissing]
  | badCall =>
    [wrongIf [.name, .absent "(", starredExpressions] fun ts =>
      (ts.head?.bind command?).map fun w => (.part 0, .callMissing w)]
  | badNamed =>
    [wrongIf [expression, ":=", expression] fun ts =>
        ts.head?.map fun t => (.part 0, .commandsAssigned t.kind),
      wrong [.name, "=", bitOr, noAssignment] .nameAssigned,
      wrongIf [.absent (.choice [[tuple], [generator], ["True"], ["None"], ["False"]]), bitOr, "=",
        bitOr, noAssignment] fun ts => ts.head?.map fun t => (.part 1, .assigned t.kind true)]
  | badArguments =>
    [wrong
        [.choice [[.choice [[.separated "," positional, ",", namedArguments]]], [namedArguments]],
          ",", .separated "," (.choice [[spread, .absent "="]])] .itemsAfterUnpacked (.part 1),
      wrong [expression, clauses, ",", .maybe (.choice [[argumentList], [expression, clauses]])]
        .generatorBare,
      wrong [.name, "=", expression, clauses] .nameAssigned,
      wrongIf [argumentList, clauses] fun ts =>
        (ts.head?.bind lastOfSeveral?).map fun t => (.tree t, .generatorBare),
      wrong [argumentList, ",", expression, clauses] .generatorBare (.part 2),
      wrongIf [argumentList, ",", argumentList] fun ts =>
        (ts.head?.bind afterFault).map fun f => (.last, f)]
  | badKeyword =>
    [wrong [.choice [["True"]], "="] (.assigned "True" false),
      wrong [.choice [["False"]], "="] (.assigned "False" false),
      wrong [.choice [["None"]], "="] (.assigned "None" false),
      wrong [.name, "=", expression, clauses] .nameAssigned,
      wrong [.absent (.choice [[.name, "="]]), expression, "="] .argumentAssigned (.part 1)]
  | badComprehension =>
    [wrong [.choice [["("], ["\x7b"]], spread, clauses] (.spreadInComprehension 1) (.part 1),
      wrong [.choice [["\x7b"]], element, ",", elements, clauses] .targetBare (.part 1),
      wrong [.choice [["\x7b"]], element, ",", clauses] .targetBare (.part 1)]
  | badDictComprehension =>
    [wrong ["\x7b", "**", bitOr, clauses, "\x7d"] (.spreadInComprehension 2) (.part 1)]
  | badGroup =>
    [wrong ["(", spread, ")"] (.starredHere 1) (.part 1),
      wrong ["(", "**", expression, ")"] (.starredHere 2) (.part 1)]
  | badPairs =>
    [pass [.separated "," pairOrSpread, ",", badPair],
      wrong [expression, ":", "*", bitOr] .starredValue (.part 2),
      wrong [expression, ":", .ahead (.choice [["\x7d"], [","]])] .valueMissing (.part 1)]
  | badPair =>
    [wrong [expression, .absent ":"] .colonMissing (.endOf 0),
      wrong [expression, ":", "*", bitOr] .starredValue (.part 2),
      wrong [expression, ":", .ahead (.choice [["\x7d"], [","]])] .valueMissing (.part 1)]
  | badTarget =>
    [wrongIf [.maybe "async", "for", starredExpressions] fun ts =>
      (ts.head?.bind Tree.badTarget?).map fun t => (.tree t, .assigned t.kind false)]
  | badParameters =>
    [wrong [.many plainParameter, badParametersHead, plainParameter] .defaultFirst (.part 2),
      wrong [.many plainParameter, "(", .separated "," parameter, .maybe ",", ")"]
        .bracketedParameters (.part 1),
      wrong ["/", ","] .slashFirst,
      wrong [.choice [[slashPlain], [slashDefault]], .many anyParameter, "/"] .slashTwice (.part 2),
      wrong [.maybe (.choice [[slashPlain], [slashDefault]]), .many anyParameter, "*",
        .choice [[","], [plainParameter]], .many anyParameter, "/"] .slashAfterStar (.part 5),
      wrong [.some anyParameter, "/", "*"] .slashBeforeStar (.part 2)]
  | badParametersHead => [pass [slashDefault], pass [.some defaultParameter]]
  | badStarParameters =>
    [wrong ["*", .choice [[":"], [",", .choice [[":"], ["**"]]]]] .bareStar .last,
      wrong ["*", parameter, "="] (.starDefault 1) (.part 2),
      wrong ["*", .choice [[plainParameter], [","]], .many anyParameter, "*",
        .choice [[plainParameter], [","]]] .starTwice (.part 3)]
  | badDefault => [wrong ["=", .ahead (.choice [[")"], [","]])] .defaultMissing]
  | badDoubleStarParameters =>
    [wrong ["**", parameter, "="] (.starDefault 2) (.part 2),
      wrong ["**", parameter, ",", parameter] .parameterAfterStars (.part 3),
      wrong ["**", parameter, ",", .choice [["*"], ["**"], ["/"]]] .parameterAfterStars (.part 3)]
  | _ => []
where
  noAssignment : Part := .absent (.choice [["="], [":="]])

/-- The alternatives of every rule. -/
def grammar : Rule → List Alternative
  | whole => [pass [expressions, .many .newline, .finish]]
  | field => [pass [starredExpressions]]
  | expressions =>
    [row [expression, .some (.choice [[",", expression]]), .maybe ","] tupleOf,
      row [expression, ","] tupleOf, pass [expression]]
  | expression => diagnosis badExpression :: diagnosis badCall :: plainExpression
  | quietExpression => plainExpression
  | yielded =>
    [made ["yield", "from", expression] (.other "yield expression"),
      made ["yield", .maybe starredExpressions] (.other "yield expression")]
  | starredExpressions =>
    [row [starredExpression, .some (.choice [[",", starredExpression]]), .maybe ","] tupleOf,
      row [starredExpression, ","] tupleOf, pass [starredExpression]]
  | starredExpression => [starredOperand, pass [expression]]
  | elements => [pass [.separated "," element, .maybe ","]]
  | element => [starredOperand, pass [namedExpression]]
  | assignment => [made [.name, ":=", .cut, expression] (.other "named expression")]
  | namedExpression => [pass [assignment], diagnosis badNamed, pass [expression, .absent ":="]]
  | r => operations r ++ brackets r ++ functions r ++ diagnoses r
where
  starredOperand : Alternative := row ["*", bitOr] fun ts => .starred (ts.headD .nothing)
  plainExpression : List Alternative :=
    [made [disjunction, "if", disjunction, "else", expression] (.other "conditional expression"),
      pass [disjunction], pass [function]]

/-- Whether the rule is read once at each place. -/
def Rule.remembered : Rule → Bool
  | expression | starredExpression | disjunction | conjunction | inversion | factor | awaited
  | quotations | arguments | target | plainTarget | badNamed => true
  | _ => false

/-- Whether the rule may begin with itself. -/
def Rule.growing : Rule → Bool
  | bitOr | bitXor | bitAnd | shift | sum | term | primary | targetPrimary => true
  | _ => false

end Dialogue.Expression
