import Dialogue.Machine.Host

/-!
# Rehearsed hosts

A rehearsed host has its answers fixed beforehand, so that a run can be repeated: the choices at its
prompts, the lines that its display refuses, and the sleep that never ends.

* `Cue`: what a prompt gives;
* `Rehearsal`: the host's state;
* `Host.rehearsed`: its calls;
* `Bridge.refusing`: a game all of whose calls fail.
-/

namespace Dialogue.Machine

open Text

/-- What a prompt gives. -/
inductive Cue where
  /-- An answer, or a dismissal. -/
  | answer (index : Option Int)
  /-- No answer, ever. -/
  | silence
  | trouble (t : Trouble)
  deriving DecidableEq, Repr

/-- The lines that a display refuses. -/
inductive Refusal where
  | these (lines : List Text)
  | all
  deriving DecidableEq, Repr

/-- Whether a line is refused. -/
def Refusal.refuses : Refusal → Text → Bool
  | these lines, line => lines.contains line
  | all, _ => true

/-- A host with its answers fixed. -/
structure Rehearsal where
  /-- What the coming prompts give; after the last one they are dismissed. -/
  cues : List Cue := []
  refusal : Refusal := .these []
  /-- What the display reports when it refuses a line. -/
  complaint : Trouble := ⟨[], []⟩
  /-- How many sleeps there were. -/
  sleeps : Nat := 0
  /-- The number of the sleep that never ends. -/
  endlessSleep : Option Int := none
  deriving DecidableEq, Repr

namespace Rehearsal

def appendLine (line : Text) (r : Rehearsal) : Except Trouble Unit × Rehearsal :=
  if r.refusal.refuses line then (.error r.complaint, r) else (.ok (), r)

def choose (_ : List Text) (r : Rehearsal) : Awaited (Option Int) × Rehearsal :=
  match r.cues with
  | [] => (.back (.ok none), r)
  | .answer index :: cues => (.back (.ok index), { r with cues })
  | .silence :: cues => (.pending, { r with cues })
  | .trouble t :: cues => (.back (.error t), { r with cues })

def sleep (_ : Float) (r : Rehearsal) : Awaited Unit × Rehearsal :=
  let n := r.sleeps + 1
  (if r.endlessSleep = some (n : Int) then .pending else .back (.ok ()), { r with sleeps := n })

end Rehearsal

/-- The calls of a rehearsed host. -/
def Host.rehearsed {β : Type} (bridge : Option (Bridge β)) : Host Rehearsal β where
  appendLine := Rehearsal.appendLine
  choose := Rehearsal.choose
  sleep := Rehearsal.sleep
  bridge := bridge

/-- A game all of whose calls fail. -/
def Bridge.refusing {β : Type} (t : Trouble) : Bridge β where
  send _ b := (.error t, b)
  checkHas _ _ b := (.error t, b)

end Dialogue.Machine
