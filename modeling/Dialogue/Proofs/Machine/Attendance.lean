import Dialogue.Proofs.Machine.Transition

/-!
# Hosts that attend to a run

Whether a call comes back may hang on what has become of the host so far: a prompt that reads typed
lines waits for ever once there are none, unless the input has ended. A host attends to a run if its
calls come back and leave it such that the next ones will.

* `Session.step_output`: a step appends one line at most, and asks neither prompt nor timer;
* `Host.Attends`: where `P` holds of the host, its calls come back, and `P` holds again;
* `Turn.Attended`: so does a turn; **`Host.Attends.turn`** says that every turn does.
-/

namespace Dialogue.Machine

open Text Script

variable {ω β : Type} {h : Host ω β} {p : Program} {limit : Option Int} {x : Session ω β}

/-! ## What a step does to the display -/

theorem Session.say_output (h : Host ω β) (x : Session ω β) (line : Text) :
    (x.say h line).2.output = (h.appendLine line x.output).2 := by
  unfold Session.say
  rcases h.appendLine line x.output with ⟨_ | _, output⟩ <;> rfl

theorem Session.send_output (b : Bridge β) (x : Session ω β) (c : GameCommand) :
    (x.send b c).2.output = x.output := by
  unfold Session.send
  split <;> rfl

theorem Session.check_output (p : Program) (b : Bridge β) (x : Session ω β) (s : Statement)
    (person item : Text) : (x.check p b s person item).2.output = x.output := by
  unfold Session.check
  split
  · rfl
  · split <;> rfl

/-- A request appends one line at most. -/
theorem Session.fulfil_output (h : Host ω β) (p : Program) (x : Session ω β) (s : Statement)
    (r : Request) : (x.fulfil h p s r).2.output = x.output ∨
      ∃ line, (x.fulfil h p s r).2.output = (h.appendLine line x.output).2 := by
  cases r with
  | nothing | jump _ | wait _ => exact .inl rfl
  | say line =>
    refine .inr ⟨line, ?_⟩
    have hsay := Session.say_output h x line
    rw [Session.fulfil]
    rcases heq : x.say h line with ⟨_ | _, y⟩ <;> simpa [heq] using hsay
  | assign name type value | offer offers =>
    rw [Session.fulfil]
    split <;> exact .inl rfl
  | check person item =>
    rw [Session.fulfil]
    split
    · exact .inl rfl
    · exact .inl (Session.check_output p _ x s person item)
  | send c =>
    rw [Session.fulfil]
    split
    · exact .inl rfl
    · rename_i b _
      have hsend := Session.send_output b x c
      rcases heq : x.send b c with ⟨_ | _, y⟩ <;> exact .inl (by simpa [heq] using hsend)

theorem Session.perform_output (h : Host ω β) (p : Program) (x : Session ω β) (s : Statement) :
    (x.perform h p s).2.output = x.output ∨
      ∃ line, (x.perform h p s).2.output = (h.appendLine line x.output).2 := by
  unfold Session.perform
  split
  · exact .inl rfl
  · exact Session.fulfil_output h p x s _

/-- **A step appends one line at most**, and asks neither prompt nor timer. -/
theorem Session.step_output (h : Host ω β) (p : Program) (x : Session ω β) :
    (x.step h p).2.output = x.output ∨
      ∃ line, (x.step h p).2.output = (h.appendLine line x.output).2 := by
  unfold Session.step
  split
  · split
    · exact .inl rfl
    · rename_i s _
      have hperform := Session.perform_output h p x.count s
      rcases heq : x.count.perform h p s with ⟨_ | _, y⟩ <;> rw [heq] at hperform <;>
        exact hperform
  · exact .inl rfl

/-! ## Calls that come back -/

/-- Where `P` holds of the host, its prompt and its timer come back, and after every call `P` holds
of it again. -/
structure Host.Attends (h : Host ω β) (P : ω → Prop) : Prop where
  appendLine : ∀ text output, P output → P (h.appendLine text output).2
  choose : ∀ options output, P output →
    (h.choose options output).1 ≠ .pending ∧ P (h.choose options output).2
  sleep : ∀ d output, P output → (h.sleep d output).1 ≠ .pending ∧ P (h.sleep d output).2

/-- The turn is not held, and `P` holds of the host that it leaves. -/
def Turn.Attended (P : ω → Prop) (t : Turn ω β) : Prop :=
  (∀ z, t ≠ .held z) ∧ P t.session.output

namespace Host.Attends

variable {P : ω → Prop}

theorem step (hh : h.Attends P) (hx : P x.output) : P (x.step h p).2.output := by
  rcases Session.step_output h p x with hsame | ⟨line, hline⟩
  · rw [hsame]
    exact hx
  · rw [hline]
    exact hh.appendLine line _ hx

theorem fail (hh : h.Attends P) (hx : P x.output) (f : Fault) : (x.fail h f).Attended P := by
  have hkept := hh.appendLine (faultLine f) x.output hx
  rcases hline : h.appendLine (faultLine f) x.output with ⟨_ | _, output⟩ <;> rw [hline] at hkept
  · rw [Session.fail_of_error hline]
    exact ⟨nofun, hkept⟩
  · rw [Session.fail_of_ok hline]
    exact ⟨nofun, hkept⟩

theorem goOn (hh : h.Attends P) (hx : P x.output) (r : Except Fault State) :
    (x.goOn h r).Attended P := by
  cases r with
  | error f => exact hh.fail hx f
  | ok s => exact ⟨nofun, hx⟩

theorem awaitTimer (hh : h.Attends P) (hx : P x.output) : (x.awaitTimer h p).Attended P := by
  unfold Session.awaitTimer
  split
  · exact hh.fail hx _
  · rename_i d _
    obtain ⟨hback, hkept⟩ := hh.sleep d x.output hx
    rcases hsleep : h.sleep d x.output with ⟨(t | u) | _, output⟩ <;> rw [hsleep] at hback hkept
    · exact hh.fail (x := { x with output, log := .sleep d :: x.log }) hkept _
    · exact hh.goOn (x := { x with output, log := .sleep d :: x.log }) hkept _
    · exact absurd rfl hback

theorem awaitChoice (hh : h.Attends P) (hx : P x.output) : (x.awaitChoice h p).Attended P := by
  unfold Session.awaitChoice
  obtain ⟨hback, hkept⟩ := hh.choose x.state.options x.output hx
  rcases hchoose : h.choose x.state.options x.output with ⟨(t | index) | _, output⟩ <;>
    rw [hchoose] at hback hkept
  · exact hh.fail (x := { x with output, log := .prompt x.state.options :: x.log }) hkept _
  · exact hh.goOn (x := { x with output, log := .prompt x.state.options :: x.log }) hkept _
  · exact absurd rfl hback

/-- **A turn on a host that attends to it** is not held, and the host attends to the next one
too. -/
theorem turn (hh : h.Attends P) (hx : P x.output) : (x.turn h p limit).Attended P := by
  unfold Session.turn
  split
  · exact ⟨nofun, hx⟩
  · exact hh.awaitTimer hx
  · exact hh.awaitChoice hx
  · unfold Session.advance
    split
    · exact ⟨nofun, hx⟩
    · have hkept := hh.step (p := p) hx
      rcases hstep : x.step h p with ⟨_ | f, y⟩ <;> rw [hstep] at hkept
      · exact ⟨nofun, hkept⟩
      · exact hh.fail hkept f

end Host.Attends

end Dialogue.Machine
