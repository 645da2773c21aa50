import Dialogue.Console.Color

/-!
# Styles of console texts

A style is written as words in any order: traits, which `not` takes away, a colour, a colour after
`on` for the background, and the target of a link after `link`. Its name says the same in one way.

* `Trait`, `Style`: what a style sets;
* `Style.read`: the style that a definition gives;
* `Style.name`: the style in words;
* `Style.normal`: the name of a definition, which is the definition itself if it gives no style.

`Trait.ofWord?_name` says that the name of a trait is a word for it.
-/

namespace Dialogue

open Text

/-- What a style can set or take away, in the order in which it is named. -/
inductive Trait where
  | bold
  | dim
  | italic
  | underline
  | blink
  | blink2
  | reverse
  | conceal
  | strike
  | underline2
  | frame
  | encircle
  | overline
  deriving DecidableEq, Repr

namespace Trait

/-- The trait's name. -/
def name : Trait → Text
  | bold => ofString "bold"
  | dim => ofString "dim"
  | italic => ofString "italic"
  | underline => ofString "underline"
  | blink => ofString "blink"
  | blink2 => ofString "blink2"
  | reverse => ofString "reverse"
  | conceal => ofString "conceal"
  | strike => ofString "strike"
  | underline2 => ofString "underline2"
  | frame => ofString "frame"
  | encircle => ofString "encircle"
  | overline => ofString "overline"

/-- The trait's short name, if it has one. -/
def short? : Trait → Option Text
  | bold => some ['b']
  | dim => some ['d']
  | italic => some ['i']
  | underline => some ['u']
  | reverse => some ['r']
  | conceal => some ['c']
  | strike => some ['s']
  | underline2 => some ['u', 'u']
  | overline => some ['o']
  | blink | blink2 | frame | encircle => none

/-- Every trait. -/
def all : List Trait :=
  [bold, dim, italic, underline, blink, blink2, reverse, conceal, strike, underline2, frame,
    encircle, overline]

/-- The trait that a word stands for. -/
def ofWord? (word : Text) : Option Trait :=
  all.find? fun t => t.name = word || t.short? = some word

theorem ofWord?_name (t : Trait) : ofWord? t.name = some t := by cases t <;> decide

end Trait

/-- What a style sets. -/
structure Style where
  /-- The traits that are set or taken away, the latest first. -/
  traits : List (Trait × Bool) := []
  color : Option Text := none
  background : Option Text := none
  link : Option Text := none
  deriving DecidableEq, Repr

namespace Style

/-- The style with the trait or the colour of a word. -/
def addWord (s : Style) (word : Text) : Except ColorError Style :=
  match Trait.ofWord? word with
  | some t => .ok { s with traits := (t, true) :: s.traits }
  | none => (Color.read word).map fun color => { s with color := some color }

/-- The style with what some words add. -/
def add (s : Style) : List Text → Except ColorError Style
  | [] => .ok s
  | [word] =>
    let word := lower word
    if word = ofString "on" || word = ofString "not" || word = ofString "link" then
      .error .unknown
    else s.addWord word
  | word :: next :: rest =>
    let word := lower word
    if word = ofString "on" then
      match Color.read next with
      | .ok color => { s with background := some color }.add rest
      | .error e => .error e
    else if word = ofString "not" then
      match Trait.ofWord? next with
      | some t => { s with traits := (t, false) :: s.traits }.add rest
      | none => .error .unknown
    else if word = ofString "link" then { s with link := some next }.add rest
    else
      match s.addWord word with
      | .ok s => s.add (next :: rest)
      | .error e => .error e

/-- The style that a definition gives. -/
def read (definition : Text) : Except ColorError Style :=
  if trim definition = ofString "none" then .ok {} else ({} : Style).add (words definition)

/-- The style in words. -/
def name (s : Style) : Text :=
  let traits := Trait.all.filterMap fun t =>
    (s.traits.lookup t).map fun on => if on then t.name else ofString "not " ++ t.name
  let background := s.background.map fun color => ofString "on " ++ color
  let link := s.link.map fun target => ofString "link " ++ target
  let parts := traits ++ [s.color, background, link].filterMap id
  if parts.isEmpty then ofString "none" else joinWith [' '] parts

/-- The name of a definition; a definition that gives no style is its own name in small letters.
A colour that lacks one of its parts has no name at all. -/
def normal (definition : Text) : Option Text :=
  match read definition with
  | .ok s => some s.name
  | .error .unknown => some (lower (trim definition))
  | .error .partMissing => none

end Style

end Dialogue
