import Dialogue.Proofs.Machine.Transition

/-!
# What a run records

A session keeps what it has made happen on its host, the latest first: the lines that were taken, the
prompts and the sleeps that were begun, and the commands that the game took. Nothing is ever taken
back, and a call that fails to display or to forward something leaves no trace.

* `Session.lines`, `Session.prompts`, `Session.sleeps`, `Session.commands`: the record read by kind, in
  the order in which things happened;
* `Request.events`: what is recorded of a request; `Session.log_of_fulfilled` and
  `Session.log_of_unfulfilled` say that it is that or nothing, and `Session.step_events` that a step
  records no more;
* **`Session.turn_log`**, `Session.run_log`: turns and runs only add to the record, so that every
  reading of it is a prefix of the later ones (`Session.record_isPrefix`);
* `Session.awaitTimer_record`, `Session.awaitChoice_record`: what a wait adds to a reading that leaves
  out the lines.
-/

namespace Dialogue.Machine

open Text

variable {ω β : Type} {h : Host ω β} {p : Program} {limit : Option Int} {x y : Session ω β}

/-! ## Readings -/

/-- The line that was displayed. -/
def Event.line? : Event → Option Text
  | .line text => some text
  | _ => none

/-- The options that were shown. -/
def Event.prompt? : Event → Option (List Text)
  | .prompt options => some options
  | _ => none

/-- The seconds that were slept. -/
def Event.sleep? : Event → Option Float
  | .sleep seconds => some seconds
  | _ => none

/-- The command that was forwarded. -/
def Event.command? : Event → Option GameCommand
  | .sent command => some command
  | _ => none

/-- What `pick` reads off the events, the earliest first. -/
def Session.record {α : Type} (pick : Event → Option α) (x : Session ω β) : List α :=
  x.log.reverse.filterMap pick

/-- The lines displayed so far. -/
def Session.lines (x : Session ω β) : List Text := x.record Event.line?

/-- The prompts shown so far. -/
def Session.prompts (x : Session ω β) : List (List Text) := x.record Event.prompt?

/-- The sleeps begun so far, in seconds. -/
def Session.sleeps (x : Session ω β) : List Float := x.record Event.sleep?

/-- The commands forwarded so far. -/
def Session.commands (x : Session ω β) : List GameCommand := x.record Event.command?

/-- **A record that was added to begins as it did.** -/
theorem Session.record_isPrefix {α : Type} (pick : Event → Option α) (hlog : x.log <:+ y.log) :
    x.record pick <+: y.record pick :=
  (List.reverse_prefix.mpr hlog).filterMap pick

/-- What is recorded anew stands at the end. -/
theorem Session.record_of_append {α : Type} (pick : Event → Option α) {events : List Event}
    (hlog : y.log = events ++ x.log) :
    y.record pick = x.record pick ++ events.reverse.filterMap pick := by
  simp only [Session.record, hlog, List.reverse_append, List.filterMap_append]

theorem Session.record_of_cons {α : Type} (pick : Event → Option α) {e : Event}
    (hlog : y.log = e :: x.log) : y.record pick = x.record pick ++ (pick e).toList := by
  have happend : y.log = [e] ++ x.log := hlog
  rw [Session.record_of_append pick happend]
  cases he : pick e <;> simp [he]

/-! ## Requests -/

/-- What is recorded of a request that has been fulfilled. -/
def Request.events (bridged : Bool) : Request → List Event
  | .say line => [.line line]
  | .send command => if bridged then [.sent command] else []
  | _ => []

theorem Session.check_log (p : Program) (b : Bridge β) (x : Session ω β) (s : Statement)
    (person item : Text) : (x.check p b s person item).2.log = x.log := by
  unfold Session.check
  split
  · rfl
  · split <;> rfl

/-- **A request is recorded when it has been fulfilled**, and one that fails is not. -/
theorem Session.fulfil_log (h : Host ω β) (p : Program) (x : Session ω β) (s : Statement)
    (r : Request) : (x.fulfil h p s r).2.log =
      match (x.fulfil h p s r).1 with
      | .error _ => x.log
      | .ok _ => r.events h.bridge.isSome ++ x.log := by
  cases r with
  | nothing | jump _ | wait _ => rfl
  | say line =>
    simp only [Session.fulfil, Session.say]
    rcases h.appendLine line x.output with ⟨_ | _, output⟩ <;> rfl
  | assign name type value =>
    simp only [Session.fulfil]
    split <;> rfl
  | offer offers =>
    simp only [Session.fulfil]
    split <;> rfl
  | check person item =>
    simp only [Session.fulfil]
    cases h.bridge with
    | none => rfl
    | some b =>
      simp only [Session.check_log, Request.events, List.nil_append]
      split <;> rfl
  | send c =>
    simp only [Session.fulfil, Session.send]
    cases h.bridge with
    | none => rfl
    | some b =>
      rcases hsend : b.send c x.game with ⟨_ | _, game⟩ <;> simp [Request.events, hsend]

theorem Session.log_of_unfulfilled {s : Statement} {r : Request} {f : Fault}
    (hr : x.fulfil h p s r = (.error f, y)) : y.log = x.log := by
  have hlog := Session.fulfil_log h p x s r
  rwa [hr] at hlog

theorem Session.log_of_fulfilled {s : Statement} {r : Request} {target : Option Nat}
    (hr : x.fulfil h p s r = (.ok target, y)) : y.log = r.events h.bridge.isSome ++ x.log := by
  have hlog := Session.fulfil_log h p x s r
  rwa [hr] at hlog

/-! ## Steps -/

/-- **A step that fails records nothing.** -/
theorem Session.log_of_fault {f : Fault} (hstep : x.step h p = (some f, y)) : y.log = x.log := by
  obtain ⟨-, st, -, ⟨e, -, -, rfl⟩ | ⟨r, -, hfulfil⟩⟩ := Session.failed_of_step hstep
  · rfl
  · exact Session.log_of_unfulfilled (x := x.count) hfulfil

/-- A step that does not fail records what its statement asked for. -/
theorem Session.log_of_step {st : Statement} (hrun : x.state.phase = .running)
    (hst : p.script[x.state.pc]? = some st) (hstep : x.step h p = (none, y)) :
    ∃ r, request p h.bridge.isSome x.state.vars st = .ok r ∧
      y.log = r.events h.bridge.isSome ++ x.log := by
  obtain ⟨r, target, z, hr, hfulfil, rfl⟩ := Session.fulfilled_of_step hrun hst hstep
  have hlog : z.log = r.events h.bridge.isSome ++ x.count.log := Session.log_of_fulfilled hfulfil
  exact ⟨r, hr, hlog⟩

/-- **A step records a request or nothing.** -/
theorem Session.step_events (h : Host ω β) (p : Program) (x : Session ω β) :
    (x.step h p).2.log = x.log ∨
      ∃ r : Request, (x.step h p).2.log = r.events h.bridge.isSome ++ x.log := by
  rcases hstep : x.step h p with ⟨_ | f, y⟩
  · by_cases hrun : x.state.phase = .running
    · cases hst : p.script[x.state.pc]? with
      | none =>
        rw [Session.step, if_pos hrun, hst] at hstep
        cases hstep
        exact .inl rfl
      | some st =>
        obtain ⟨r, -, hlog⟩ := Session.log_of_step hrun hst hstep
        exact .inr ⟨r, hlog⟩
    · rw [Session.step, if_neg hrun] at hstep
      cases hstep
      exact .inl rfl
  · exact .inl (Session.log_of_fault hstep)

theorem Session.step_log (h : Host ω β) (p : Program) (x : Session ω β) :
    x.log <:+ (x.step h p).2.log := by
  rcases Session.step_events h p x with hlog | ⟨r, hlog⟩
  · exact hlog ▸ List.suffix_refl _
  · exact hlog ▸ List.suffix_append _ _

/-! ## Turns and runs -/

theorem Faults.log {f : Fault} (hf : Faults h p limit x f y) : x.log <:+ y.log := by
  cases hf with
  | step _ _ hstep => exact Session.log_of_fault hstep ▸ List.suffix_refl _
  | tooLong => exact List.suffix_refl _
  | sleep | prompt | answer => exact List.suffix_cons _ _

theorem Session.fail_log (x : Session ω β) (f : Fault) :
    x.log <:+ (x.fail h f).session.log := by
  rcases hline : h.appendLine (faultLine f) x.output with ⟨_ | _, output⟩
  · rw [Session.fail_of_error hline]
    exact List.suffix_refl _
  · rw [Session.fail_of_ok hline]
    exact List.suffix_cons _ _

/-- **A turn only adds to the record.** -/
theorem Session.turn_log (h : Host ω β) (p : Program) (limit : Option Int) (x : Session ω β) :
    x.log <:+ (x.turn h p limit).session.log := by
  have ht := Session.turned h p limit x
  generalize x.turn h p limit = t at ht
  cases ht with
  | ended | limited => exact List.suffix_refl _
  | stepped _ _ hstep =>
    have hlog := Session.step_log h p x
    rwa [hstep] at hlog
  | woken | chosen | held => exact List.suffix_cons _ _
  | faulted hf => exact hf.log.trans (Session.fail_log _ _)

/-- A run only adds to the record. -/
theorem Session.run_log {fuel : Nat} {t : Turn ω β} (ht : x.run h p limit fuel = some t) :
    x.log <:+ t.session.log := by
  obtain ⟨z, hchain, rfl, -⟩ := Session.run_chain ht
  refine List.IsSuffix.trans ?_ (Session.turn_log h p limit z)
  clear ht
  induction hchain with
  | refl => exact List.suffix_refl _
  | @tail y z _ hagain ih =>
    have hlog := Session.turn_log h p limit y
    rw [hagain] at hlog
    exact ih.trans hlog

/-! ## Waits -/

variable {α : Type} {pick : Event → Option α}

/-- The report of a fault is a line. -/
theorem Session.fail_record (hline : ∀ text, pick (.line text) = none) (x : Session ω β)
    (f : Fault) : (x.fail h f).session.record pick = x.record pick := by
  rcases hreport : h.appendLine (faultLine f) x.output with ⟨_ | _, output⟩
  · rw [Session.fail_of_error hreport]
    rfl
  · rw [Session.fail_of_ok hreport]
    refine (Session.record_of_cons (x := x) pick rfl).trans ?_
    rw [hline, Option.toList_none, List.append_nil]

theorem Session.goOn_record (hline : ∀ text, pick (.line text) = none) (x : Session ω β)
    (r : Except Fault State) : (x.goOn h r).session.record pick = x.record pick := by
  cases r with
  | error f => exact Session.fail_record hline x f
  | ok s => rfl

/-- While the machine waits for its timer, a sleep is recorded at most. -/
theorem Session.awaitTimer_record (hline : ∀ text, pick (.line text) = none)
    (hsleep : ∀ seconds, pick (.sleep seconds) = none) (x : Session ω β) :
    (x.awaitTimer h p).session.record pick = x.record pick := by
  unfold Session.awaitTimer
  split
  · exact Session.fail_record hline x _
  · rename_i d _
    have hadded (output : ω) :
        ({ x with output, log := .sleep d :: x.log } : Session ω β).record pick =
          x.record pick := by
      refine (Session.record_of_cons (x := x) pick rfl).trans ?_
      rw [hsleep, Option.toList_none, List.append_nil]
    rcases h.sleep d x.output with ⟨(t | u) | _, output⟩
    · exact (Session.fail_record hline _ _).trans (hadded output)
    · exact (Session.goOn_record hline _ _).trans (hadded output)
    · exact hadded output

/-- **While the machine waits for a choice, one prompt is recorded**, whatever comes of it. -/
theorem Session.awaitChoice_record (hline : ∀ text, pick (.line text) = none) (x : Session ω β) :
    (x.awaitChoice h p).session.record pick =
      x.record pick ++ (pick (.prompt x.state.options)).toList := by
  unfold Session.awaitChoice
  have hadded (output : ω) :
      ({ x with output, log := .prompt x.state.options :: x.log } : Session ω β).record pick =
        x.record pick ++ (pick (.prompt x.state.options)).toList :=
    Session.record_of_cons (x := x) pick rfl
  rcases h.choose x.state.options x.output with ⟨(t | index) | _, output⟩
  · exact (Session.fail_record hline _ _).trans (hadded output)
  · exact (Session.goOn_record hline _ _).trans (hadded output)
  · exact hadded output

end Dialogue.Machine
