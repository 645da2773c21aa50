import Dialogue.Machine.Command
import Dialogue.Machine.Resolve

/-!
# What a statement asks for

Carrying out a statement has two parts. The first reads its parameters and needs nothing but the
variables: its result is a request. The second fulfils the request, which may need the host.

* `Request`: what there is to be done;
* `request` (`_append_text`, `_jump_to`, `_assign`, `_wait`, `_show_options`, `_check_has`,
  `_unhandled`): what a statement asks for.
-/

namespace Dialogue.Machine

open Text Script

/-- What a statement asks for. -/
inductive Request where
  | nothing
  | say (line : Text)
  | jump (marker : Text)
  | assign (name : Text) (type : ParamType) (value : Scalar)
  | wait (ms : Int)
  | offer (offers : List Offer)
  /-- Ask the game whether the person has the item, and go on at a marker by its answer. -/
  | check (person item : Text)
  | send (command : GameCommand)
  deriving DecidableEq, Repr

/-- The texts of the named parameters by name. Of two with the same name the later one counts, at
the place of the first. -/
def resolveOptions (vars : Table Variable) (table : Table Text) :
    List Param → Except TooManyDigits (Table Text)
  | [] => .ok table
  | p :: ps =>
    match p.name with
    | none => resolveOptions vars table ps
    | some name => do
      let t ← resolve vars p
      resolveOptions vars (table.put name t) ps

/-- The command that a statement forwards. -/
def gameCommand (vars : Table Variable) (c : Contract) (s : Statement) :
    Except TooManyDigits GameCommand := do
  let arguments ← resolveAll vars s.positional
  let options ← resolveOptions vars [] s.params
  return { name := c.name, arguments, options }

/-- The line that reports a statement nobody carries out. -/
def unhandledLine (s : Statement) : Text :=
  trimRight (ofString "(unhandled) " ++ s.command ++ ' ' ::
    joinWith (ofString ", ") (s.params.map Param.value))

/-- What a statement asks for that the machine does not carry out itself. -/
def forward (p : Program) (bridged : Bool) (vars : Table Variable) (s : Statement) :
    Except TooManyDigits Request :=
  match p.catalog.find? s.command, bridged with
  | some c, true => (gameCommand vars c s).map .send
  | _, _ => .ok (.say (unhandledLine s))

/-- The name of the parameter with the marker of the option in a slot. -/
def slotName (slot : Nat) : Text := ofString "lm" ++ decimal slot

/-- The offers of the options in slots numbered from `slot`; an option without text is left out. -/
def offersFrom (vars : Table Variable) (s : Statement) (slot : Nat) :
    List Param → Except TooManyDigits (List Offer)
  | [] => .ok []
  | p :: ps => do
    let text ← resolve vars p
    if text.isEmpty then offersFrom vars s (slot + 1) ps
    else
      let marker ← resolve? vars (s.named (some (slotName slot)))
      let later ← offersFrom vars s (slot + 1) ps
      return { text, marker := if marker.isEmpty then none else some marker } :: later

/-- What a statement asks for, when a game is there (`bridged`) or not. -/
def request (p : Program) (bridged : Bool) (vars : Table Variable) (s : Statement) :
    Except TooManyDigits Request :=
  match s.verb? with
  | some .speak => (argument vars s 0).map .say
  | some .mark | some .header => .ok .nothing
  | some .jump => (argument vars s 0).map .jump
  | some .setInt => do
    let text ← argument vars s 1
    let value ← leadingInteger text
    let name ← argument vars s 0
    return .assign name .int (.int value)
  | some .setBool => do
    let text ← argument vars s 1
    let name ← argument vars s 0
    return .assign name .bool (.bool (truth text))
  | some .setString => do
    let text ← argument vars s 1
    let name ← argument vars s 0
    return .assign name .string (.text text)
  | some .wait => do
    let text ← argument vars s 0
    let ms ← leadingInteger text
    return .wait (max 0 ms)
  | some .offer => (offersFrom vars s 1 (s.positional.take 3)).map .offer
  | some .check =>
    if bridged then do
      let person ← argument vars s 0
      let item ← argument vars s 1
      return .check person item
    else forward p bridged vars s
  | none => forward p bridged vars s

end Dialogue.Machine
