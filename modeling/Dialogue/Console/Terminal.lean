import Dialogue.Decimal.Entered
import Dialogue.Machine.Echo
import Dialogue.Text.Lines

/-!
# A terminal as a host

On a terminal, lines are printed and choices are made by number. A number that belongs to no option
is refused, and the prompt asks again until one does, or until it is dismissed. How an option is laid
out with its number is taken as given: it is escaped first, so that nothing in it could be refused.

* `Reading`: what a prompt reads, with what the terminal shows of it;
* `pick` (`choose`): the option that some readings choose;
* `readings` (`prompt`): the readings of lines that are typed;
* `Terminal`, `Host.terminal` (`ConsoleScriptOutput`): the terminal and its calls.

`pick_range` says that what is picked is an option.
-/

namespace Dialogue.Console

open Text Machine

/-- What a prompt reads. -/
structure Reading where
  /-- What the terminal shows meanwhile. -/
  shown : Text := []
  /-- The number, or `none` if the prompt is dismissed. -/
  number : Option Int
  deriving DecidableEq, Repr

/-- What comes of asking for an option. -/
inductive Pick where
  | chosen (index : Nat)
  | dismissed
  /-- There is nothing more to read. -/
  | unanswered
  deriving DecidableEq, Repr

/-- The line that refuses a number. -/
def refusal (count : Nat) : Text :=
  ofString "Pick a number between 1 and " ++ decimal count ++ ofString ".\n"

/-- The option that readings choose among `count`, with what is shown and the readings left. -/
def pick (count : Nat) : List Reading → Pick × Text × List Reading
  | [] => (.unanswered, [], [])
  | r :: rest =>
    match r.number with
    | none => (.dismissed, r.shown, rest)
    | some n =>
      if 1 ≤ n ∧ n ≤ count then (.chosen (n - 1).toNat, r.shown, rest)
      else
        let (result, shown, left) := pick count rest
        (result, r.shown ++ refusal count ++ shown, left)

/-- **What is picked is an option.** -/
theorem pick_range {count : Nat} {rs : List Reading} {i : Nat}
    (h : (pick count rs).1 = .chosen i) : i < count := by
  fun_induction pick count rs with
  | case1 => simp at h
  | case2 => simp at h
  | case3 _ _ n _ hn =>
    simp only [Pick.chosen.injEq] at h
    omega
  | case4 _ _ _ _ _ result _ _ hp ih => exact ih (by simpa [hp] using h)

/-- What stands before the number that is typed. -/
def promptText : Text := ofString "Choose an option: "

/-- The readings of typed lines, and what is shown while the next line is awaited. A terminal that
repeats what is typed shows the lines. An empty line asks again. -/
def readings (echo : Bool) (sofar : Text) : List Text → List Reading × Text
  | [] => ([], sofar ++ promptText)
  | line :: rest =>
    let shown := sofar ++ promptText ++ (if echo then line ++ ['\n'] else [])
    if line.isEmpty then readings echo shown rest
    else match Decimal.enteredInteger line with
      | .ok n =>
        let (rs, waiting) := readings echo [] rest
        ({ shown, number := some n } :: rs, waiting)
      | .error e =>
        readings echo (shown ++ ofString "Error: " ++ e.message ++ ['\n']) rest

/-- A thing that a terminal does. -/
inductive Shown where
  | text (t : Text)
  | pause (seconds : Float)

/-- The text that is shown in all. -/
def shownText (shown : List Shown) : Text :=
  shown.flatMap fun | .text t => t | .pause _ => []

/-- A terminal. -/
structure Terminal where
  /-- What the coming prompts read. -/
  readings : List Reading := []
  /-- What is shown when there is nothing more to read. -/
  closing : Text := []
  /-- Whether the input has ended, so that a prompt that reads nothing is dismissed. -/
  ended : Bool := true
  /-- What has been shown, the latest first. -/
  shown : List Shown := []

/-- The options as they are printed, numbered from `first`, each on a line of its own. -/
def optionLines (numbered : Nat → Text → Text) (first : Nat) : List Text → Text
  | [] => []
  | option :: rest =>
    numbered first option ++ '\n' :: optionLines numbered (first + 1) rest

/-- The lines of what is typed; the last one need not be ended. -/
def typedLines (input : Text) : List Text :=
  let lines := splitAtFeeds (unifyBreaks input)
  if lines.getLast? = some [] then lines.dropLast else lines

namespace Terminal

/-- The terminal on which some lines are typed before the input ends. -/
def ofLines (echo : Bool) (lines : List Text) : Terminal :=
  let (readings, closing) := Console.readings echo [] lines
  { readings, closing }

/-- Shows a text. -/
def print (t : Terminal) (text : Text) : Terminal := { t with shown := .text text :: t.shown }

/-- All that has been shown, in order. -/
def output (t : Terminal) : List Shown := t.shown.reverse

/-- Prints a line. -/
def appendLine (line : Text) (t : Terminal) : Except Trouble Unit × Terminal :=
  (.ok (), t.print (line ++ ['\n']))

/-- Prints the options, each `numbered`, and asks for the number of one. -/
def choose (numbered : Nat → Text → Text) (options : List Text) (t : Terminal) :
    Awaited (Option Int) × Terminal :=
  let (result, shown, left) := pick options.length t.readings
  let t := { t.print (optionLines numbered 1 options ++ shown) with readings := left }
  match result with
  | .chosen i => (.back (.ok (some i)), t)
  | .dismissed => (.back (.ok none), t)
  | .unanswered =>
    let t := t.print t.closing
    (if t.ended then .back (.ok none) else .pending, t)

/-- Pauses. -/
def sleep (seconds : Float) (t : Terminal) : Awaited Unit × Terminal :=
  (.back (.ok ()), { t with shown := .pause seconds :: t.shown })

end Terminal

end Dialogue.Console

namespace Dialogue.Machine

open Text

/-- The calls of a terminal that shows an option with its number as `numbered` has it. -/
def Host.terminal {β : Type} (numbered : Nat → Text → Text) (bridge : Option (Bridge β)) :
    Host Console.Terminal β where
  appendLine := Console.Terminal.appendLine
  choose := Console.Terminal.choose numbered
  sleep := Console.Terminal.sleep
  bridge := bridge

end Dialogue.Machine
