import Dialogue.Proofs.Machine.Record
import Dialogue.Proofs.Machine.StepLimit
import Mathlib.Data.List.Forall2

/-!
# What reaches the game

A statement that the machine does not carry out itself is forwarded to the game if the catalog has its
command. Where the catalog has them all, the game gets one command for each such statement that is
carried out, in the same order, and nothing else.

* `Rounds`: any number of turns, of one run or of several; `Loop.rounds` says that a run to its end is
  some;
* `Session.forwards`: the turns that carry out a statement of the game;
* `Delivers`: the command that such a turn forwards;
* `Known`: the catalog has every command that the machine does not carry out itself;
* `Session.turn_commands_of_begins`, `Session.turn_commands`: what one turn forwards;
  **`Rounds.commands`**: what any number of them do.
-/

namespace Dialogue.Machine

open Text

variable {ω β : Type} {h : Host ω β} {p : Program} {limit : Option Int} {x y : Session ω β}
  {xs : List (Session ω β)} {t : Turn ω β} {vars : Table Variable}

/-! ## Any number of turns -/

/-- From `x`, the turns of the sessions `xs`, in this order, lead to `y`. -/
inductive Rounds (h : Host ω β) (p : Program) (limit : Option Int) :
    Session ω β → List (Session ω β) → Session ω β → Prop
  | nil (x : Session ω β) : Rounds h p limit x [] x
  | cons {x y : Session ω β} {xs : List (Session ω β)}
      (hrest : Rounds h p limit (x.turn h p limit).session xs y) : Rounds h p limit x (x :: xs) y

/-- A run to its end is a number of turns. -/
theorem Loop.rounds (hl : Loop h p limit x xs t) : Rounds h p limit x xs t.session := by
  induction hl with
  | halted _ => exact .nil _
  | last _ _ => exact .cons (.nil _)
  | round hxy _ ih =>
    refine .cons ?_
    rw [hxy]
    exact ih

/-! ## The texts of a command -/

theorem resolveAll_eq_ok_iff {qs : List Param} {ts : List Text} :
    resolveAll vars qs = .ok ts ↔ List.Forall₂ (fun q t => resolve vars q = .ok t) qs ts := by
  induction qs generalizing ts with
  | nil => simp [resolveAll, eq_comm]
  | cons q qs ih =>
    rw [resolveAll]
    constructor
    · intro hts
      obtain ⟨t, ht, hts⟩ := bind_eq_ok_iff.mp hts
      obtain ⟨ts', hts', hts⟩ := bind_eq_ok_iff.mp hts
      obtain rfl := pure_eq_ok_iff.mp hts
      exact .cons ht (ih.mp hts')
    · intro hts
      cases hts with
      | cons ht hrest =>
        exact bind_eq_ok_iff.mpr ⟨_, ht, bind_eq_ok_iff.mpr ⟨_, ih.mpr hrest, rfl⟩⟩

/-- The command's arguments are the texts of the positional parameters. -/
theorem gameCommand_spec {c : Contract} {s : Statement} {command : GameCommand}
    (hcommand : gameCommand vars c s = .ok command) :
    command.name = c.name ∧
      List.Forall₂ (fun q t => resolve vars q = .ok t) s.positional command.arguments := by
  obtain ⟨arguments, harguments, hcommand⟩ := bind_eq_ok_iff.mp hcommand
  obtain ⟨options, -, hcommand⟩ := bind_eq_ok_iff.mp hcommand
  obtain rfl := pure_eq_ok_iff.mp hcommand
  exact ⟨rfl, resolveAll_eq_ok_iff.mp harguments⟩

/-! ## Turns that forward a command -/

/-- The turn of `x` begins a statement that the machine does not carry out itself, and its step does
not fail. -/
def Session.forwards (h : Host ω β) (p : Program) (limit : Option Int) (x : Session ω β) : Bool :=
  decide (x.Begins limit) && p.script[x.state.pc]?.any (fun s => s.verb?.isNone) &&
    (x.step h p).1.isNone

/-- The command is that of the statement that `x` is at: it has the name that the catalog writes, and
its arguments are the texts of the statement's positional parameters. -/
def Delivers (p : Program) (x : Session ω β) (command : GameCommand) : Prop :=
  ∃ s c, p.script[x.state.pc]? = some s ∧ p.catalog.find? s.command = some c ∧
    command.name = c.name ∧
    List.Forall₂ (fun q t => resolve x.state.vars q = .ok t) s.positional command.arguments

/-- The catalog has every command of the script that the machine does not carry out itself. -/
def Known (p : Program) : Prop :=
  ∀ s ∈ p.script, s.verb? = none → ∃ c, p.catalog.find? s.command = some c

/-- **Where all commands are known and there is a game, a line is displayed for no statement but one
that speaks.** -/
theorem Known.verb_of_say (hknown : Known p) {s : Statement} (hs : s ∈ p.script) {line : Text}
    (hr : request p true vars s = .ok (.say line)) : s.verb? = some .speak := by
  cases requested hr with
  | speak hverb _ => exact hverb
  | unhandled hverb hnobody =>
    have hnone : s.verb? = none := hverb.resolve_right fun hcheck => nomatch hcheck.2
    obtain ⟨c, hc⟩ := hknown s hs hnone
    rcases hnobody with hnobody | hbridged
    · rw [hc] at hnobody
      cases hnobody
    · cases hbridged

/-- A statement that the machine carries out itself forwards nothing. -/
theorem Known.commands_of_events (hknown : Known p) {s : Statement} (hs : s ∈ p.script) {r : Request}
    (hr : request p true vars s = .ok r) :
    (s.verb?.isNone = false ∧ (r.events true).reverse.filterMap Event.command? = []) ∨
      (s.verb?.isNone = true ∧ ∃ c command, r = .send command ∧
        p.catalog.find? s.command = some c ∧ gameCommand vars c s = .ok command) := by
  cases requested hr with
  | speak hverb _ | jump hverb _ | setInt hverb _ _ _ | setBool hverb _ _ | setString hverb _ _ =>
    exact .inl ⟨by rw [hverb]; rfl, rfl⟩
  | wait hverb _ _ | offer hverb _ | check hverb _ _ _ => exact .inl ⟨by rw [hverb]; rfl, rfl⟩
  | silent hverb =>
    refine .inl ⟨?_, rfl⟩
    rcases hverb with hverb | hverb <;> rw [hverb] <;> rfl
  | unhandled hverb hnobody =>
    -- the line that reports it would be one of a statement that speaks
    rcases hverb with hverb | hcheck
    · have hspeak := hknown.verb_of_say hs hr
      rw [hverb] at hspeak
      cases hspeak
    · cases hcheck.2
  | sent hverb _ hfind hcommand =>
    exact .inr ⟨by rw [hverb]; rfl, _, _, rfl, hfind, hcommand⟩

/-! ## One turn -/

theorem Session.commands_of_append {events : List Event} (hlog : y.log = events ++ x.log) :
    y.commands = x.commands ++ events.reverse.filterMap Event.command? :=
  Session.record_of_append Event.command? hlog

/-- While the machine waits, nothing is forwarded. -/
theorem Session.turn_commands_of_waits (hx : x.state.phase.Waits) :
    (x.turn h p limit).session.commands = x.commands := by
  rcases hx with hwait | hwait
  · rw [Session.turn, hwait]
    exact Session.awaitTimer_record (fun _ => rfl) (fun _ => rfl) x
  · rw [Session.turn, hwait]
    exact (Session.awaitChoice_record (fun _ => rfl) x).trans (List.append_nil _)

theorem Session.forwards_of_not_begins (hx : ¬ x.Begins limit) :
    x.forwards h p limit = false := by
  simp [Session.forwards, hx]

/-- A turn that begins no statement forwards nothing. -/
theorem Session.turn_commands_of_not_begins (hx : ¬ x.Begins limit) :
    (x.turn h p limit).session.commands = x.commands := by
  cases hphase : x.state.phase with
  | halted e => rw [Session.turn_of_halted hphase]; rfl
  | waitingTimer => exact Session.turn_commands_of_waits (.inl hphase)
  | waitingChoice => exact Session.turn_commands_of_waits (.inr hphase)
  | running =>
    have hlimit : x.limitReached limit = true := by simpa [Session.Begins, hphase] using hx
    rw [Session.turn_of_limited hphase hlimit]
    rfl

/-- **A turn that begins a statement forwards what the statement asks for**, unless its step fails. -/
theorem Session.turn_commands_of_begins (hx : x.Begins limit) :
    ((x.step h p).1.isNone = false ∨ p.script[x.state.pc]? = none) ∧
        (x.turn h p limit).session.commands = x.commands ∨
      ∃ s r, (x.step h p).1.isNone = true ∧ p.script[x.state.pc]? = some s ∧
        request p h.bridge.isSome x.state.vars s = .ok r ∧
        (x.turn h p limit).session.commands =
          x.commands ++ (r.events h.bridge.isSome).reverse.filterMap Event.command? := by
  obtain ⟨hphase, hlimit⟩ := hx
  rcases hstep : x.step h p with ⟨_ | f, y⟩
  · have hturn : x.turn h p limit = .again y := by
      simp [Session.turn, hphase, Session.advance, hlimit, hstep]
    rw [hturn]
    cases hst : p.script[x.state.pc]? with
    | none =>
      rw [Session.step, if_pos hphase, hst] at hstep
      cases hstep
      exact .inl ⟨.inr rfl, rfl⟩
    | some s =>
      obtain ⟨r, hr, hlog⟩ := Session.log_of_step hphase hst hstep
      exact .inr ⟨s, r, rfl, rfl, hr, Session.commands_of_append hlog⟩
  · refine .inl ⟨.inl rfl, ?_⟩
    rw [Faults.turn_eq (.step hphase hlimit hstep)]
    refine (Session.fail_record (fun _ => rfl) y f).trans ?_
    rw [Session.commands, Session.record, Session.record, Session.log_of_fault hstep]

/-- **One turn forwards a command iff it carries out a statement of the game**, and then the command of
that statement. -/
theorem Session.turn_commands (hknown : Known p) (hgame : h.bridge.isSome = true)
    (limit : Option Int) (x : Session ω β) :
    ∃ commands, (x.turn h p limit).session.commands = x.commands ++ commands ∧
      List.Forall₂ (Delivers p) (if x.forwards h p limit then [x] else []) commands := by
  -- unless it forwards one, it is enough that nothing is added
  have hnothing : x.forwards h p limit = false →
      (x.turn h p limit).session.commands = x.commands →
      ∃ commands, (x.turn h p limit).session.commands = x.commands ++ commands ∧
        List.Forall₂ (Delivers p) (if x.forwards h p limit then [x] else []) commands := by
    intro hnot hsame
    refine ⟨[], by rw [hsame, List.append_nil], ?_⟩
    rw [hnot]
    exact .nil
  by_cases hx : x.Begins limit
  · rcases Session.turn_commands_of_begins (h := h) (p := p) hx with
      ⟨hfails, hsame⟩ | ⟨s, r, hstep, hst, hr, hcommands⟩
    · refine hnothing ?_ hsame
      rcases hfails with hfails | hfails <;> simp [Session.forwards, hfails]
    · rw [hgame] at hr hcommands
      rcases hknown.commands_of_events (List.mem_of_getElem? hst) hr with
        ⟨hverb, hevents⟩ | ⟨hverb, c, command, rfl, hfind, hcommand⟩
      · refine hnothing (by simp [Session.forwards, hst, hverb]) ?_
        rw [hcommands, hevents, List.append_nil]
      · have hforwards : x.forwards h p limit = true := by
          simp [Session.forwards, hx, hst, hverb, hstep]
        obtain ⟨hname, harguments⟩ := gameCommand_spec hcommand
        refine ⟨[command], hcommands, ?_⟩
        rw [hforwards]
        exact .cons ⟨s, c, hst, hfind, hname, harguments⟩ .nil
  · exact hnothing (Session.forwards_of_not_begins hx) (Session.turn_commands_of_not_begins hx)

/-! ## Any number of turns -/

/-- **The game gets the commands of the statements that are carried out**, one for each and in the same
order. -/
theorem Rounds.commands (hknown : Known p) (hgame : h.bridge.isSome = true)
    (hr : Rounds h p limit x xs y) : ∃ commands, y.commands = x.commands ++ commands ∧
      List.Forall₂ (Delivers p) (xs.filter fun x => x.forwards h p limit) commands := by
  induction hr with
  | nil x => exact ⟨[], (List.append_nil _).symm, .nil⟩
  | @cons x y xs hrest ih =>
    obtain ⟨now, hnow, hfirst⟩ := Session.turn_commands hknown hgame limit x
    obtain ⟨later, hlater, hothers⟩ := ih
    refine ⟨now ++ later, by rw [hlater, hnow, List.append_assoc], ?_⟩
    have hsplit : (x :: xs).filter (fun x => x.forwards h p limit) =
        (if x.forwards h p limit then [x] else []) ++
          xs.filter fun x => x.forwards h p limit := by
      rw [List.filter_cons]
      split <;> rfl
    rw [hsplit]
    exact List.rel_append hfirst hothers

end Dialogue.Machine
