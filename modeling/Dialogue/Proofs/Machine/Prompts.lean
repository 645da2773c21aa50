import Dialogue.Proofs.Machine.Limits
import Dialogue.Proofs.Machine.Record

/-!
# What a prompt is asked

The prompt of a host is asked in the turns in which the machine waits for a choice, and then for the
options that the machine waits with. Of these there is at least one. So where what the prompt gives
fits the options, no run fails because of it.

* `Session.asked`: what the turn of a session asks the prompt; **`Session.turn_prompts`** and
  `Loop.prompts` say that it is what is recorded;
* **`Reachable.prompts_ne_nil`**: no prompt is ever shown without options;
* **`Loop.exists_fault`**: where the prompt fits, a run that fails does so in a turn that asks it
  nothing.
-/

namespace Dialogue.Machine

open Text

variable {ω β : Type} {h : Host ω β} {p : Program} {limit : Option Int} {x y : Session ω β}
  {xs : List (Session ω β)} {t : Turn ω β}

/-! ## What is asked -/

/-- What the turn of a session asks the prompt. -/
def Session.asked (x : Session ω β) : List (List Text) :=
  if x.state.phase = .waitingChoice then [x.state.options] else []

theorem Request.prompts_events (bridged : Bool) (r : Request) :
    (r.events bridged).reverse.filterMap Event.prompt? = [] := by
  cases r with
  | say line | nothing | jump _ | wait _ | assign _ _ _ | offer _ | check _ _ => rfl
  | send c => cases bridged <;> rfl

/-- **A step shows no prompt**, whether it fails or not. -/
theorem Session.step_prompts (h : Host ω β) (p : Program) (x : Session ω β) :
    (x.step h p).2.prompts = x.prompts := by
  rcases Session.step_events h p x with hlog | ⟨r, hlog⟩
  · simp only [Session.prompts, Session.record, hlog]
  · refine (Session.record_of_append Event.prompt? hlog).trans ?_
    rw [r.prompts_events, List.append_nil]
    rfl

/-- **A turn shows the prompt iff the machine waits for a choice**, and then with its options. -/
theorem Session.turn_prompts (h : Host ω β) (p : Program) (limit : Option Int) (x : Session ω β) :
    (x.turn h p limit).session.prompts = x.prompts ++ x.asked := by
  unfold Session.asked
  cases hphase : x.state.phase with
  | halted e =>
    rw [Session.turn_of_halted hphase, if_neg (by simp), List.append_nil]
    rfl
  | waitingTimer =>
    rw [Session.turn, hphase, if_neg (by simp), List.append_nil]
    exact Session.awaitTimer_record (fun _ => rfl) (fun _ => rfl) x
  | waitingChoice =>
    rw [Session.turn, hphase, if_pos rfl]
    exact Session.awaitChoice_record (fun _ => rfl) x
  | running =>
    have hturn : x.turn h p limit = x.advance h p limit := by rw [Session.turn, hphase]
    have hsteps := Session.step_prompts h p x
    rw [if_neg (by simp), List.append_nil, hturn, Session.advance]
    split
    · rfl
    · rcases hstep : x.step h p with ⟨_ | f, y⟩ <;> rw [hstep] at hsteps
      · exact hsteps
      · exact (Session.fail_record (fun _ => rfl) y f).trans hsteps

/-- **A run shows what its turns ask**, in order. -/
theorem Loop.prompts (hl : Loop h p limit x xs t) :
    t.session.prompts = x.prompts ++ xs.flatMap Session.asked := by
  induction hl with
  | halted _ => exact (List.append_nil _).symm
  | @last x _ _ => rw [Session.turn_prompts, List.flatMap_singleton]
  | @round x y _ _ hxy _ ih =>
    have hfirst : y.prompts = x.prompts ++ x.asked := by
      rw [← Session.turn_prompts h p limit x, hxy]
      rfl
    rw [ih, hfirst, List.append_assoc, List.flatMap_cons]

/-! ## What is asked has options -/

/-- A sound machine that waits for a choice has options. -/
theorem State.Sound.options_ne_nil {s : State} (hs : s.Sound p) (hwait : s.phase = .waitingChoice) :
    s.options ≠ [] := by
  obtain ⟨offers, hoffers, hone, -⟩ := hs.offers hwait
  rw [State.options, hoffers, Option.getD_some, ← List.length_pos_iff, List.length_map]
  exact hone

theorem State.Sound.asked_ne_nil (hx : x.state.Sound p) : ∀ options ∈ x.asked, options ≠ [] := by
  intro options hoptions
  rw [Session.asked] at hoptions
  split_ifs at hoptions with hwait
  · obtain rfl := List.mem_singleton.mp hoptions
    exact hx.options_ne_nil hwait
  · cases hoptions

/-- Every prompt that has been shown had options. -/
def Session.Optioned (x : Session ω β) : Prop := ∀ options ∈ x.prompts, options ≠ []

theorem Session.Optioned.turn (hx : x.Optioned) (hsound : x.state.Sound p) :
    (x.turn h p limit).session.Optioned := by
  intro options hoptions
  rw [Session.turn_prompts, List.mem_append] at hoptions
  exact hoptions.elim (hx options) (hsound.asked_ne_nil options)

theorem Session.Optioned.loop (hx : x.Optioned) (hsound : x.state.Sound p)
    (hl : Loop h p limit x xs t) : t.session.Optioned :=
  (hl.keeps (P := fun y => y.Optioned ∧ y.state.Sound p)
    (fun _ hy => ⟨hy.1.turn hy.2, Session.turn_sound hy.2⟩) ⟨hx, hsound⟩).2.1

theorem Session.accept_prompts (x : Session ω β) (r : Except Fault State) :
    (x.accept r).prompts = x.prompts := by
  cases r <;> rfl

/-- **No prompt is shown without options**, whatever operations have been made. -/
theorem Reachable.prompts_ne_nil (hx : Reachable p x) : ∀ options ∈ x.prompts, options ≠ [] := by
  obtain ⟨output, game, hops⟩ := hx
  induction hops with
  | refl => exact nofun
  | @tail y z hops hop ih =>
    have hsound : y.state.Sound p := Reachable.sound ⟨output, game, hops⟩
    cases hop with
    | step h => rwa [Session.step_prompts]
    | resumeTimer | resumeChoice => rwa [Session.accept_prompts]
    | stop | cancel => exact ih
    | turn h limit => exact Session.Optioned.turn ih hsound
    | run ht =>
      obtain ⟨xs, hl⟩ := Session.loop_of_run ht
      exact Session.Optioned.loop ih hsound hl

/-! ## Runs that fail -/

/-- **Where the prompt fits, a run that fails does so in a turn that asks it nothing.** -/
theorem Loop.exists_fault (hh : h.Fitting) (hl : Loop h p limit x xs t) (hx : x.state.Sound p)
    (hnot : x.state.phase ≠ .halted .failed) (hfailed : t.session.state.phase = .halted .failed) :
    ∃ z ∈ xs, ∃ f y, Faults h p limit z f y ∧ z.state.phase ≠ .waitingChoice ∧
      t.session.state.error = some f.report := by
  induction hl with
  | halted _ => exact absurd hfailed hnot
  | @last x hgoes hlast =>
    have ht := Session.turned h p limit x
    generalize x.turn h p limit = t at ht hlast hfailed
    cases ht with
    | limited | stepped | woken | chosen => exact absurd rfl (hlast _)
    | ended he => exact absurd he (hgoes _)
    | held _ => exact absurd hfailed hnot
    | @faulted f y hf =>
      refine ⟨x, List.mem_singleton_self x, f, y, hf, hf.ne_waitingChoice hh hx, ?_⟩
      rcases hline : h.appendLine (faultLine f) y.output with ⟨_ | _, output⟩
      · rw [Session.fail_of_error hline]
        rfl
      · rw [Session.fail_of_ok hline]
        rfl
  | @round x y _ _ hxy _ ih =>
    have hgoes : y.state.phase ≠ .halted .failed := by
      intro he
      rcases hxy.ending hx he with ⟨hend, -⟩ | hend | hend <;> cases hend
    obtain ⟨z, hz, hfault⟩ := ih (hxy.sound hx) hgoes hfailed
    exact ⟨z, List.mem_cons_of_mem x hz, hfault⟩

end Dialogue.Machine
