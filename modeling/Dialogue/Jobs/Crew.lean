import Dialogue.Jobs.Scheduler

/-!
# Workers that take their time to stop

To stop a worker is to ask it, to wait until it has gone, and then to forget it. In `Scheduler.stop`
nothing is done meanwhile; here everything may be. The worker that is asked goes on being there until
the request reaches it, and when it has gone it is remembered until the one who waits for it comes to
forget it. What is forgotten is the worker that is remembered by then, and this need not be the one
that has gone.

* `Member` (`_worker_task`): a worker, and whether it has been asked to stop;
* `Crew` (`ScriptRuntime`): what the workers share, all workers that were ever started, the one that
  is remembered, and those that somebody waits for;
* `Crew.start` (`start`), `Crew.ask`, `Crew.forget` (`stop`): what users do about the workers;
* `Crew.seenBy`, `Crew.resume`: a scheduler as one of the workers finds it and as it leaves it.
-/

namespace Dialogue.Jobs

open Text Script Machine Time

variable {ω β : Type}

/-! ## Games that are shared -/

/-- The execution with the game as it is by now. -/
def Execution.withGame (game : β) (e : Execution ω β) : Execution ω β :=
  { e with session := { e.session with game } }

/-- The worker with the game as it is by now. -/
def Worker.withGame (game : β) : Worker ω β → Worker ω β
  | .busy e => .busy (e.withGame game)
  | .held e => .held (e.withGame game)
  | .absent => .absent
  | .idle => .idle
  | .dead t => .dead t

/-- The game as the worker has left it. -/
def Scheduler.latestGame (s : Scheduler ω β) : β :=
  match s.worker with
  | .busy e | .held e => e.session.game
  | _ => s.game

/-! ## Crews -/

/-- The slot of the job that the worker executes. -/
def Worker.slot? : Worker ω β → Option Nat
  | .busy e | .held e => some e.slot
  | .absent | .idle | .dead _ => none

/-- Whether the worker is there. -/
def Worker.isAlive : Worker ω β → Bool
  | .absent | .dead _ => false
  | .idle | .busy _ | .held _ => true

/-- A worker, which is ready when it is started. -/
structure Member (ω β : Type) where
  worker : Worker ω β := .idle
  /-- Whether it has been asked to stop. -/
  asked : Bool := false

/-- A scheduler whose workers take their time to stop. -/
structure Crew (ω β : Type) where
  /-- What the workers share. The worker in it is nobody. -/
  shared : Scheduler ω β
  /-- All workers that were started, in that order. -/
  members : List (Member ω β) := []
  /-- The number of the worker that was started last, until it is forgotten. -/
  remembered : Option Nat := none
  /-- The workers that were asked to stop, once for each who waits for it. -/
  awaited : List Nat := []

namespace Crew

/-- Whether the worker of a number is there. -/
def isAlive (k : Crew ω β) (i : Nat) : Bool := k.members[i]?.any fun m => m.worker.isAlive

/-- Starts a worker unless the one that is remembered is there. -/
def start (k : Crew ω β) : Crew ω β :=
  if k.remembered.any k.isAlive then k
  else { k with members := k.members ++ [{}], remembered := some k.members.length }

/-- Asks the worker that is remembered to stop, and waits for it. One that has gone is forgotten at
once. -/
def ask (k : Crew ω β) : Crew ω β :=
  match k.remembered with
  | none => k
  | some i =>
    if k.isAlive i then
      { k with
        members := k.members.modify i fun m => { m with asked := true }
        awaited := i :: k.awaited }
    else { k with remembered := none }

/-- Waits no longer for a worker, and forgets the one that is remembered. -/
def forget (k : Crew ω β) (i : Nat) : Crew ω β :=
  { k with remembered := none, awaited := k.awaited.erase i }

/-- The scheduler as a worker finds it. -/
def seenBy (k : Crew ω β) (w : Worker ω β) : Scheduler ω β :=
  { k.shared with worker := w.withGame k.shared.game }

/-- The crew after the worker of a number has left the scheduler in a state. -/
def resume (k : Crew ω β) (i : Nat) (s : Scheduler ω β) : Crew ω β :=
  { k with
    shared := { s with worker := .absent, game := s.latestGame }
    members := k.members.modify i fun m => { m with worker := s.worker } }

end Crew

end Dialogue.Jobs
