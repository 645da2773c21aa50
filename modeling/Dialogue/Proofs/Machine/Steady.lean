import Dialogue.Machine.Echo
import Dialogue.Proofs.Machine.Likeness
import Dialogue.Proofs.Machine.Transition

/-!
# Games that do not give away what they were told

A script notices two things of its game: the answer to a question, and that a call is refused. The
response to a command is for the record only. A game is steady when neither depends on the calls
that were made before. A run on a steady game is then the run on a game that stands still, and a
script cannot tell whether others have had the same game before it.

* `Host.Call`: a call to the game of a host; `Host.Steady`: no call gives away what was called
  before; `Host.steady_of_answers`: where no command is refused, it is enough that no answer does;
  `Host.steady_of_echo`: an echoing game is steady;
* `Host.Unswayed`: no answer gives away what was sent before. This is less (`Host.Steady.unswayed`):
  answers may give away the questions before them, and commands whatever was called;
* `Host.still`: the host with its game standing still, and `Session.forget`: the session without
  the state of its game;
* `Session.called_turn`: a turn does nothing to a game but call it;
* `Session.step_forget`: a step does not notice that a steady game stands still;
* **`Session.turn_forget`**, **`Session.run_forget`**: turns and runs on a steady game are those on
  a game that stands still.
-/

namespace Dialogue.Machine

open Text

open Relation (ReflTransGen)

variable {ω β : Type} {h : Host ω β} {p : Program} {limit : Option Int} {x y : Session ω β}
  {b : Bridge β} {game : β}

/-! ## Steady games -/

/-- A call to the game of a host: the state of the game before it and after it. -/
inductive Host.Call (h : Host ω β) : β → β → Prop
  | send {b : Bridge β} (hb : h.bridge = some b) (command : GameCommand) (g : β) :
      Call h g (b.send command g).2
  | check {b : Bridge β} (hb : h.bridge = some b) (person item : Text) (g : β) :
      Call h g (b.checkHas person item g).2

/-- What a script notices of a command: whether it is refused, and with what trouble. -/
def Bridge.reception (b : Bridge β) (command : GameCommand) (g : β) : Except Trouble Unit :=
  (b.send command g).1.map fun _ => ()

/-- A script cannot tell which calls were made to the game before: questions are answered, and
commands are received, as they are at first. -/
structure Host.Steady (h : Host ω β) (game : β) : Prop where
  check : ∀ b ∈ h.bridge, ∀ g, ReflTransGen h.Call game g → ∀ person item,
    (b.checkHas person item g).1 = (b.checkHas person item game).1
  /-- A refused command is a fault of the script, so that refusals are answers, too. -/
  send : ∀ b ∈ h.bridge, ∀ g, ReflTransGen h.Call game g → ∀ command,
    b.reception command g = b.reception command game

/-- Of a game that takes every command, the answers to questions are all that there is to it. -/
theorem Host.steady_of_answers
    (hsend : ∀ b ∈ h.bridge, ∀ command g t, (b.send command g).1 ≠ .error t)
    (hcheck : ∀ b ∈ h.bridge, ∀ g, ReflTransGen h.Call game g → ∀ person item,
      (b.checkHas person item g).1 = (b.checkHas person item game).1) : h.Steady game where
  check := hcheck
  send := by
    intro b hb g _ command
    have htaken (g : β) : b.reception command g = .ok () := by
      have hnot := hsend b hb command g
      unfold Bridge.reception
      cases hreply : (b.send command g).1 with
      | error t => exact absurd hreply (hnot t)
      | ok response => rfl
    rw [htaken, htaken]

/-- The inventory of an echoing game is fixed. -/
theorem Host.Call.inventory_eq {h : Host ω Echo} (hb : h.bridge = some Bridge.echo) {e e' : Echo}
    (hcall : h.Call e e') : e'.inventory = e.inventory := by
  cases hcall with
  | send hb' command =>
    obtain rfl := Option.some.inj (hb.symm.trans hb')
    rfl
  | check hb' person item =>
    obtain rfl := Option.some.inj (hb.symm.trans hb')
    rfl

/-- **An echoing game is steady.** -/
theorem Host.steady_of_echo {h : Host ω Echo} (hb : h.bridge = some Bridge.echo) (e : Echo) :
    h.Steady e := by
  refine Host.steady_of_answers (fun b hb' command g t => ?_)
    fun b hb' g hcalls person item => ?_
  · obtain rfl := Option.some.inj (hb.symm.trans hb')
    exact nofun
  · obtain rfl := Option.some.inj (hb.symm.trans hb')
    have hinventory : g.inventory = e.inventory := by
      induction hcalls with
      | refl => rfl
      | tail _ hcall ih => exact (hcall.inventory_eq hb).trans ih
    have hhas : g.has person item = e.has person item := by rw [Echo.has, Echo.has, hinventory]
    exact congrArg Except.ok hhas

/-! ## Answers that commands have no say in -/

/-- Two states of a game that has been asked the same questions, with any commands in between. -/
inductive Host.Abreast (h : Host ω β) (game : β) : β → β → Prop
  | refl : Abreast h game game game
  | left {b : Bridge β} {g g' : β} (hgg' : Abreast h game g g') (hb : h.bridge = some b)
      (command : GameCommand) : Abreast h game (b.send command g).2 g'
  | right {b : Bridge β} {g g' : β} (hgg' : Abreast h game g g') (hb : h.bridge = some b)
      (command : GameCommand) : Abreast h game g (b.send command g').2
  | check {b : Bridge β} {g g' : β} (hgg' : Abreast h game g g') (hb : h.bridge = some b)
      (person item : Text) :
      Abreast h game (b.checkHas person item g).2 (b.checkHas person item g').2

/-- No answer depends on what was sent: it is the same whatever commands there were between the
questions before it. -/
def Host.Unswayed (h : Host ω β) (game : β) : Prop :=
  ∀ b ∈ h.bridge, ∀ g g', h.Abreast game g g' → ∀ person item,
    (b.checkHas person item g).1 = (b.checkHas person item g').1

theorem Host.Abreast.called {g g' : β} (hgg' : h.Abreast game g g') :
    ReflTransGen h.Call game g ∧ ReflTransGen h.Call game g' := by
  induction hgg' with
  | refl => exact ⟨.refl, .refl⟩
  | left _ hb command ih => exact ⟨ih.1.tail (.send hb command _), ih.2⟩
  | right _ hb command ih => exact ⟨ih.1, ih.2.tail (.send hb command _)⟩
  | check _ hb person item ih =>
    exact ⟨ih.1.tail (.check hb person item _), ih.2.tail (.check hb person item _)⟩

/-- **What has been sent to a steady game has no say in its answers.** -/
theorem Host.Steady.unswayed (hh : h.Steady game) : h.Unswayed game := by
  intro b hb g g' hgg' person item
  obtain ⟨hg, hg'⟩ := hgg'.called
  exact (hh.check b hb g hg person item).trans (hh.check b hb g' hg' person item).symm

/-! ## Games that stand still -/

/-- The calls to a game that stands still at a state. -/
def Bridge.still (b : Bridge β) (game : β) : Bridge Unit where
  send command u := ((b.send command game).1, u)
  checkHas person item u := ((b.checkHas person item game).1, u)

/-- The host with its game standing still at a state. -/
def Host.still (h : Host ω β) (game : β) : Host ω Unit where
  appendLine := h.appendLine
  choose := h.choose
  sleep := h.sleep
  bridge := h.bridge.map fun b => b.still game

theorem Host.still_bridge (hb : h.bridge = some b) :
    (h.still game).bridge = some (b.still game) := by
  rw [Host.still, hb, Option.map_some]

theorem Host.still_bridge_of_none (hb : h.bridge = none) : (h.still game).bridge = none := by
  rw [Host.still, hb, Option.map_none]

/-- The session without the state of its game. -/
def Session.forget (x : Session ω β) : Session ω Unit :=
  { state := x.state, output := x.output, game := (), log := x.log }

/-- The turn without the state of the game. -/
def Turn.forget : Turn ω β → Turn ω Unit
  | .again x => .again x.forget
  | .ended x => .ended x.forget
  | .held x => .held x.forget
  | .escaped t x => .escaped t x.forget

@[simp] theorem Session.forget_state (x : Session ω β) : x.forget.state = x.state := rfl

theorem Session.forget_fresh (p : Program) (output : ω) (game : β) :
    (Session.fresh p output game).forget = Session.fresh p output () := rfl

/-! ## Calls of a turn -/

theorem Session.say_game (h : Host ω β) (x : Session ω β) (line : Text) :
    (x.say h line).2.game = x.game := by
  unfold Session.say
  split <;> rfl

theorem Session.called_send (hb : h.bridge = some b) (x : Session ω β) (c : GameCommand) :
    h.Call x.game (x.send b c).2.game := by
  have hcall : h.Call x.game (b.send c x.game).2 := .send hb c x.game
  unfold Session.send
  split <;> simpa [*] using hcall

theorem Session.called_check (hb : h.bridge = some b) (p : Program) (x : Session ω β)
    (s : Statement) (person item : Text) :
    h.Call x.game (x.check p b s person item).2.game := by
  have hcall : h.Call x.game (b.checkHas person item x.game).2 := .check hb person item x.game
  unfold Session.check
  split
  · simpa [*] using hcall
  · split <;> simpa [*] using hcall

/-- **A request does nothing to a game but call it.** -/
theorem Session.called_fulfil (h : Host ω β) (p : Program) (x : Session ω β) (s : Statement)
    (r : Request) : ReflTransGen h.Call x.game (x.fulfil h p s r).2.game := by
  cases r with
  | nothing | jump _ | wait _ => exact .refl
  | say line =>
    have hsay := x.say_game h line
    rw [Session.fulfil]
    split <;> rename_i y heq <;> rw [heq] at hsay <;> exact hsay ▸ .refl
  | assign name type value =>
    rw [Session.fulfil]
    split <;> exact .refl
  | offer offers =>
    rw [Session.fulfil]
    split <;> exact .refl
  | check person item =>
    rw [Session.fulfil]
    split
    · exact .refl
    · rename_i b hb
      exact .single (Session.called_check hb p x s person item)
  | send c =>
    rw [Session.fulfil]
    split
    · exact .refl
    · rename_i b hb
      have hcall := Session.called_send hb x c
      split <;> rename_i y heq <;> rw [heq] at hcall <;> exact .single hcall

theorem Session.called_step (h : Host ω β) (p : Program) (x : Session ω β) :
    ReflTransGen h.Call x.game (x.step h p).2.game := by
  have hperform (s : Statement) : ReflTransGen h.Call x.game (x.count.perform h p s).2.game := by
    unfold Session.perform
    split
    · exact .refl
    · exact Session.called_fulfil h p x.count s _
  unfold Session.step
  split
  · split
    · exact .refl
    · rename_i s _
      have hs := hperform s
      split <;> rename_i y heq <;> rw [heq] at hs <;> exact hs
  · exact .refl

theorem Session.fail_game (h : Host ω β) (x : Session ω β) (f : Fault) :
    (x.fail h f).session.game = x.game := by
  rcases hline : h.appendLine (faultLine f) x.output with ⟨_ | _, output⟩
  · rw [Session.fail_of_error hline]
    rfl
  · rw [Session.fail_of_ok hline]
    rfl

/-- **A turn does nothing to a game but call it.** -/
theorem Session.called_turn (h : Host ω β) (p : Program) (limit : Option Int) (x : Session ω β) :
    ReflTransGen h.Call x.game (x.turn h p limit).session.game := by
  have hstep := Session.called_step h p x
  have ht := Session.turned h p limit x
  generalize x.turn h p limit = t at ht
  cases ht with
  | ended | limited | woken | chosen | held => exact .refl
  | stepped _ _ heq =>
    rw [heq] at hstep
    exact hstep
  | faulted hf =>
    rw [Session.fail_game]
    cases hf with
    | step _ _ heq =>
      rw [heq] at hstep
      exact hstep
    | tooLong | sleep | prompt | answer => exact .refl

/-! ## Steps on a game that stands still -/

section Forget

variable (hh : h.Steady game) (hx : ReflTransGen h.Call game x.game)

theorem Session.say_forget (h : Host ω β) (game : β) (x : Session ω β) (line : Text) :
    x.forget.say (h.still game) line = ((x.say h line).1, (x.say h line).2.forget) := by
  have hline : (h.still game).appendLine line x.forget.output = h.appendLine line x.output := rfl
  unfold Session.say
  rw [hline]
  rcases h.appendLine line x.output with ⟨_ | _, output⟩ <;> rfl

include hh hx

theorem Session.send_forget (hb : h.bridge = some b) (c : GameCommand) :
    x.forget.send (b.still game) c = ((x.send b c).1, (x.send b c).2.forget) := by
  have hsame : (b.send c x.game).1.map (fun _ => ()) = (b.send c game).1.map fun _ => () :=
    hh.send b hb x.game hx c
  have hstill : (b.still game).send c x.forget.game = ((b.send c game).1, ()) := rfl
  unfold Session.send
  rw [hstill]
  revert hsame
  rcases b.send c game with ⟨t | _, _⟩ <;> rcases b.send c x.game with ⟨t' | _, _⟩ <;> intro hsame
  · obtain rfl := Except.error.inj hsame
    rfl
  · cases hsame
  · cases hsame
  · rfl

theorem Session.check_forget (hb : h.bridge = some b) (p : Program) (s : Statement)
    (person item : Text) :
    x.forget.check p (b.still game) s person item =
      ((x.check p b s person item).1, (x.check p b s person item).2.forget) := by
  have hsame : (b.checkHas person item x.game).1 = (b.checkHas person item game).1 :=
    hh.check b hb x.game hx person item
  have hstill : (b.still game).checkHas person item x.forget.game =
      ((b.checkHas person item x.game).1, ()) := by rw [hsame]; rfl
  unfold Session.check
  rw [hstill, Session.forget_state]
  rcases b.checkHas person item x.game with ⟨t | passed, _⟩
  · rfl
  · dsimp only
    cases argument x.state.vars s (if passed = true then 2 else 3) <;> rfl

/-- **A request is fulfilled alike.** Only questions and commands look at the game. -/
theorem Session.fulfil_forget (p : Program) (s : Statement) (r : Request) :
    x.forget.fulfil (h.still game) p s r =
      ((x.fulfil h p s r).1, (x.fulfil h p s r).2.forget) := by
  cases r with
  | nothing | jump _ | wait _ => rfl
  | say line =>
    rw [Session.fulfil, Session.fulfil, Session.say_forget]
    rcases x.say h line with ⟨_ | _, y⟩ <;> rfl
  | assign name type value =>
    rw [Session.fulfil, Session.fulfil]
    split <;> rfl
  | offer offers =>
    rw [Session.fulfil, Session.fulfil]
    split <;> rfl
  | check person item =>
    rw [Session.fulfil, Session.fulfil]
    cases hb : h.bridge with
    | none => rw [Host.still_bridge_of_none hb]
    | some b =>
      rw [Host.still_bridge hb]
      exact Session.check_forget hh hx hb p s person item
  | send c =>
    rw [Session.fulfil, Session.fulfil]
    cases hb : h.bridge with
    | none => rw [Host.still_bridge_of_none hb]
    | some b =>
      rw [Host.still_bridge hb]
      dsimp only
      rw [Session.send_forget hh hx hb]
      rcases x.send b c with ⟨_ | _, y⟩ <;> rfl

theorem Session.perform_forget (p : Program) (s : Statement) :
    x.forget.perform (h.still game) p s =
      ((x.perform h p s).1, (x.perform h p s).2.forget) := by
  have hbridged : (h.still game).bridge.isSome = h.bridge.isSome := Option.isSome_map
  unfold Session.perform
  rw [hbridged, Session.forget_state]
  cases request p h.bridge.isSome x.state.vars s with
  | error e => rfl
  | ok r => exact Session.fulfil_forget hh hx p s r

theorem Session.step_forget (p : Program) :
    x.forget.step (h.still game) p = ((x.step h p).1, (x.step h p).2.forget) := by
  unfold Session.step
  rw [Session.forget_state]
  split
  · cases p.script[x.state.pc]? with
    | none => rfl
    | some s =>
      have hcount : x.forget.count = x.count.forget := rfl
      dsimp only
      rw [hcount, Session.perform_forget (x := x.count) hh hx]
      rcases x.count.perform h p s with ⟨f | target, y⟩ <;> rfl
  · rfl

end Forget

/-! ## Turns and runs on a game that stands still -/

/-- A game that stands still is noticed by steps only. -/
def Host.stillness (h : Host ω β) (game : β) (p : Program) : Likeness h (h.still game) p p where
  state s := s
  game _ := ()
  appendLine_eq := rfl
  choose_eq := rfl
  sleep_eq := rfl
  waitScale_eq := rfl
  phase_eq _ := rfl
  steps_eq _ := rfl
  waitMs_eq _ := rfl
  options_eq _ := rfl
  noted_eq _ _ := rfl
  finish_eq _ _ := rfl
  resumeTimer_eq s := (congrFun Except.map_id (s.resumeTimer p)).symm
  resumeChoice_eq s index := (congrFun Except.map_id (s.resumeChoice p index)).symm

theorem Host.stillness_turn (h : Host ω β) (game : β) (p : Program) :
    (h.stillness game p).turn = Turn.forget := by
  funext t
  cases t <;> rfl

/-- **A turn on a steady game is the turn on a game that stands still.** -/
theorem Session.turn_forget (hh : h.Steady game) (hx : ReflTransGen h.Call game x.game)
    (p : Program) (limit : Option Int) :
    x.forget.turn (h.still game) p limit = (x.turn h p limit).forget := by
  rw [← h.stillness_turn game p]
  exact (h.stillness game p).turn_eq (Session.step_forget hh hx p)

/-- **So is a run.** -/
theorem Session.run_forget (hh : h.Steady game) (p : Program) (limit : Option Int) (fuel : Nat)
    (hx : ReflTransGen h.Call game x.game) :
    x.forget.run (h.still game) p limit fuel = (x.run h p limit fuel).map Turn.forget := by
  rw [← h.stillness_turn game p]
  refine (h.stillness game p).run_eq (P := fun y => ReflTransGen h.Call game y.game)
    (fun y hy => Session.step_forget hh hy p) (fun y z hy hyz => ?_) fuel hx
  -- the game of the next round has been called by the turn before it
  have hcalls := Session.called_turn h p limit y
  rw [hyz] at hcalls
  exact hy.trans hcalls

end Dialogue.Machine
