import Dialogue.CommandLine.Play
import Dialogue.Proofs.Jobs.Alone

/-!
# The step limit of the command line

A run is begun with the step limit that its command line gives, or else with that of the settings,
and the limit goes from there through the scheduler to the machine. A terminal whose input has ended
keeps no run waiting and takes every line, so that the run ends by itself: within the limit, and
stopped if there was more to do. But a limit of zero counts as none that is given, and the run gets
the limit of the settings, or none at all.

* `terminal_attends`, `terminal_not_refuses`: what a run can rely on in a terminal;
* `Play.awaits_of_begin`: what a run is when it has been begun;
* `Play.Exceeds`: without a limit, the run would count more statements;
* `Play.settles`: the limit in force bounds the run, and **`limit_honoured`**: so does every limit
  that is given, except zero (`Play.begin_of_zero`, `limit_zero_ignored`).
-/

namespace Dialogue.CommandLine

open Text Script Console Machine Jobs

variable {β : Type} {o : Office} {d : Desk} {t : Terminal} {path : Text} {r : RunOptions} {p : Play}
  {n : Nat}

/-! ## Terminals -/

/-- A prompt that has nothing more to read comes back when the input has ended. -/
theorem terminal_attends (numbered : Nat → Text → Text) (bridge : Option (Bridge β)) :
    (Host.terminal numbered bridge).Attends fun t => t.ended = true where
  appendLine _ _ ht := ht
  choose options t ht := by
    simp only [Host.terminal, Terminal.choose]
    rcases pick options.length t.readings with ⟨_ | _ | _, shown, left⟩
    · exact ⟨nofun, ht⟩
    · exact ⟨nofun, ht⟩
    · simp only [Terminal.print, ht, if_true]
      exact ⟨nofun, trivial⟩
  sleep _ _ ht := ⟨nofun, ht⟩

theorem terminal_not_refuses (numbered : Nat → Text → Text) (bridge : Option (Bridge β))
    (trouble : Trouble) : ¬ (Host.terminal numbered bridge).Refuses trouble := by
  rintro ⟨f, t, hline⟩
  cases hline

/-! ## The beginning of a run -/

/-- **A run that is begun** is a scheduler with one job, which the worker is about to take. -/
theorem Play.awaits_of_begin (hbegin : Play.begin o d path r t = .ok p) :
    ∃ (d' : Desk) (x : Slot Terminal) (script : List Statement), p.setup = o.setup d' r ∧
      p.scheduler.Awaits x script ∧ x.output = t := by
  obtain ⟨source, -, hbegin⟩ := bind_eq_ok_iff.mp hbegin
  obtain ⟨d', -, hbegin⟩ := bind_eq_ok_iff.mp hbegin
  obtain rfl := pure_eq_ok_iff.mp hbegin
  obtain ⟨x, hx, houtput⟩ := Scheduler.Awaits.submit (c := o.setup d' r)
    (s := { worker := .idle, history := d'.history (o.historyPath? r.historyFile), game := {} })
    rfl rfl rfl rfl source t (some (Path.name path))
  exact ⟨d', x, _, rfl, hx, houtput⟩

/-! ## The limit -/

/-- **A limit of zero is as good as none that is given.** -/
theorem Play.begin_of_zero (o : Office) (d : Desk) (path : Text) (r : RunOptions) (t : Terminal) :
    Play.begin o d path { r with limit := some 0 } t =
      Play.begin o d path { r with limit := none } t := rfl

theorem Office.limit?_of_ne_zero (hn : n ≠ 0) : o.limit? (some (n : Int)) = some (n : Int) :=
  if_neg (Int.natCast_ne_zero.mpr hn)

/-- Without a limit, the run would come to count more than `n` statements. -/
def Play.Exceeds (p : Play) (n : Nat) : Prop := p.scheduler.Exceeds p.setup n

/-- **The limit in force bounds a run**, whatever is typed at its prompts: its job comes to an end
of its own within the limit, and it is stopped iff it would have gone on. -/
theorem Play.settles (hbegin : Play.begin o d path r t = .ok p) (ht : t.ended = true)
    (hforce : o.limit? r.limit = some (n : Int)) :
    ∃ (fuel : Nat) (q : Play) (slot : Slot Terminal) (ending : Ending),
      p.settle fuel = some q ∧ q.scheduler.slots = [slot] ∧ slot.job.status = .ended ending ∧
      slot.job.steps ≤ n ∧ (ending = .stopped ↔ p.Exceeds n) ∧
      (ending = .stopped → slot.job.steps = n) := by
  obtain ⟨d', x, script, hsetup, ha, rfl⟩ := Play.awaits_of_begin hbegin
  have hlimit : p.setup.limit = some (n : Int) := by
    rw [hsetup]
    exact hforce
  have hattends : p.setup.host.Attends fun t => t.ended = true := by
    rw [hsetup]
    exact terminal_attends _ _
  have hline : ∀ trouble, ¬ p.setup.host.Refuses trouble := by
    rw [hsetup]
    exact terminal_not_refuses _ _
  obtain ⟨fuel, s, slot, ending, hsettle, hjob⟩ := ha.settles hlimit hattends hline ht
  exact ⟨fuel, { p with scheduler := s }, slot, ending, by rw [Play.settle, hsettle]; rfl, hjob⟩

/-- **The step limit of the command line is honoured**, unless it is zero. For every script, for
every setting, and whatever is typed at the prompts before the input ends, the run comes to an end
with no more than `n` statements. It is stopped iff it would have begun more than `n` without a
limit, and then after exactly `n`. -/
theorem limit_honoured (hlimit : r.limit = some (n : Int)) (hn : n ≠ 0) (ht : t.ended = true)
    (hbegin : Play.begin o d path r t = .ok p) :
    ∃ (fuel : Nat) (q : Play) (slot : Slot Terminal) (ending : Ending),
      p.settle fuel = some q ∧ q.scheduler.slots = [slot] ∧ slot.job.status = .ended ending ∧
      slot.job.steps ≤ n ∧ (ending = .stopped ↔ p.Exceeds n) ∧
      (ending = .stopped → slot.job.steps = n) := by
  have hforce : o.limit? r.limit = some (n : Int) := by rw [hlimit, Office.limit?_of_ne_zero hn]
  exact Play.settles hbegin ht hforce

/-- An office without settings. -/
def plainOffice : Office where
  clock := Time.Timestamp.ofSeconds
  newId n := List.replicate n 'a'
  numbered _ option := option

/-- A desk with a script. -/
def deskWith (script : String) : Desk where
  files := [(ofString "a", .file (ofString script))]

/-- A script that goes back to its beginning for ever. -/
def endlessScript : String := "Line_Marker [\"again\"]\nJump_To [\"again\"]"

theorem limit_honoured_endless : ∃ (p : Play) (fuel : Nat) (q : Play) (slot : Slot Terminal),
    Play.begin plainOffice (deskWith endlessScript) (ofString "a") { limit := some 2 } {} = .ok p ∧
      p.settle fuel = some q ∧ q.scheduler.slots = [slot] ∧
      slot.job.status = .ended .stopped ∧ slot.job.steps = 2 := by
  have hbegin : ∃ p, Play.begin plainOffice (deskWith endlessScript) (ofString "a")
      { limit := some 2 } {} = .ok p ∧ p.Exceeds 2 := by
    refine ⟨_, rfl, _, _, .tail (.tail (.tail .refl rfl) rfl) rfl, rfl, ?_⟩
    decide
  obtain ⟨p, hp, hexceeds⟩ := hbegin
  obtain ⟨fuel, q, slot, ending, hsettle, hslots, hstatus, -, hstopped, hsteps⟩ :=
    limit_honoured (n := 2) rfl (by decide) rfl hp
  obtain rfl := hstopped.mpr hexceeds
  exact ⟨p, fuel, q, slot, hp, hsettle, hslots, hstatus, hsteps rfl⟩

/-- **A limit of zero is not honoured**: the script would begin a statement, and so it does. -/
theorem limit_zero_ignored : ∃ (p q : Play) (slot : Slot Terminal),
    Play.begin plainOffice (deskWith "Act_Speak [\"hi\"]") (ofString "a") { limit := some 0 } {} =
        .ok p ∧
      p.settle 4 = some q ∧ q.scheduler.slots = [slot] ∧ p.Exceeds 0 ∧
      slot.job.status = .ended .completed ∧ slot.job.steps = 1 := by
  refine ⟨_, _, _, rfl, rfl, rfl, ?_, rfl, rfl⟩
  exact ⟨_, _, .tail .refl rfl, rfl, by decide⟩

end Dialogue.CommandLine
