import Dialogue.Jobs.Crew
import Dialogue.Proofs.Jobs.Stages

/-!
# What can happen to a crew

Scripts are submitted, and workers are started, asked to stop and forgotten, in any order and at any
time. In between, every worker that has not been asked goes on as the worker of a scheduler does; one
that has been asked goes away, and the job that it has is cancelled.

* `Crew.Step`: all single steps, and `Crew.Course`: any number of them in any order;
* `Crew.board`: what a crew shows of its jobs. **`Crew.Step.shift`**: a step changes it in the ways in
  which a scheduler changes what it shows, since one worker does not mind the others;
* **`Crew.Course.ledger`**: so the ledger accounts for every course of a crew;
* `Crew.Course.rests`: a job that is neither executed nor in the queue stays as it is;
* `Crew.Course.not_escaped`: on displays that take every line no job is left with an error.
-/

namespace Dialogue.Jobs

open Text Machine Time Script

variable {ω β : Type} {c : Setup ω β} {newId : Nat → Text} {history : History} {ds es : List Deed}
  {d : Deed}

theorem Worker.slot?_withGame (game : β) (w : Worker ω β) : (w.withGame game).slot? = w.slot? := by
  cases w <;> rfl

theorem Scheduler.current_eq (s : Scheduler ω β) : s.current = s.worker.slot? := by
  unfold current execution? Worker.slot?
  cases s.worker <;> rfl

namespace Crew

variable {k l : Crew ω β} {m : Member ω β} {s : Scheduler ω β} {i n : Nat}

/-! ## Steps -/

/-- A crew to which nothing has been submitted, and without a worker. -/
def fresh (history : History) (game : β) : Crew ω β := { shared := .fresh history game }

/-- One step of a crew. -/
inductive Step (c : Setup ω β) : Crew ω β → Deed → Crew ω β → Prop
  | submit (k : Crew ω β) (source : Text) (output : ω) (name : Option Text) :
      Step c k (.submitted k.shared.slots.length (k.shared.submit c source output name).1)
        { k with shared := (k.shared.submit c source output name).2 }
  | start (k : Crew ω β) : Step c k .quiet k.start
  /-- Somebody wants the worker to stop. -/
  | ask (k : Crew ω β) : Step c k .quiet k.ask
  /-- Somebody has waited for a worker that has gone, and goes on. -/
  | forget {k : Crew ω β} {i : Nat} (hawaited : i ∈ k.awaited) (hgone : k.isAlive i = false) :
      Step c k .quiet (k.forget i)
  /-- The request reaches a worker that executes no job. -/
  | dismiss {k : Crew ω β} {i : Nat} {m : Member ω β} (hm : k.members[i]? = some m)
      (hasked : m.asked = true) (hidle : m.worker = .idle) :
      Step c k .quiet (k.resume i ((k.seenBy m.worker).stop c).2)
  /-- The request reaches a worker in the middle of a job, which may be held. -/
  | cancel {k : Crew ω β} {i : Nat} {m : Member ω β} {e : Execution ω β}
      (hm : k.members[i]? = some m) (hasked : m.asked = true)
      (he : (k.seenBy m.worker).execution? = some e) :
      Step c k (.cancelled e.slot) (k.resume i ((k.seenBy m.worker).stop c).2)
  /-- A worker takes the next job. -/
  | take {k : Crew ω β} {i n : Nat} {m : Member ω β} {rest : List Nat}
      (hm : k.members[i]? = some m) (hasked : m.asked = false) (hidle : m.worker = .idle)
      (hqueue : k.shared.queue = n :: rest) :
      Step c k (.began n) (k.resume i ((k.seenBy m.worker).begin c n rest))
  /-- A worker makes a turn of its job, with the game as the others have left it. -/
  | turn {k : Crew ω β} {i : Nat} {m : Member ω β} {e : Execution ω β}
      (hm : k.members[i]? = some m) (hasked : m.asked = false)
      (hbusy : (k.seenBy m.worker).worker = .busy e) :
      Step c k (deedOf e.slot (e.session.turn c.host e.program c.limit))
        (k.resume i
          ((k.seenBy m.worker).follow c e (e.session.turn c.host e.program c.limit)))
  /-- The prompt or the timer of a job that was held comes back. -/
  | late {k : Crew ω β} {i : Nat} {m : Member ω β} {e : Execution ω β} {turn : Turn ω β}
      (hm : k.members[i]? = some m) (hasked : m.asked = false)
      (hheld : (k.seenBy m.worker).worker = .held e) (hlate : e.session.Late c.host e.program turn) :
      Step c k (deedOf e.slot turn) (k.resume i ((k.seenBy m.worker).follow c e turn))
  /-- Something else happens on the display of a job that is executed. -/
  | display {k : Crew ω β} {i : Nat} {m : Member ω β} {e : Execution ω β}
      (hm : k.members[i]? = some m) (hbusy : (k.seenBy m.worker).worker = .busy e) (f : ω → ω) :
      Step c k .quiet (k.resume i ((k.seenBy m.worker).onDisplay f))

/-- A worker leaves a job that has not ended only when a report is refused. -/
theorem Step.refuses (hstep : Step c k d l) (hd : d = .escaped n) :
    ∃ trouble, c.host.Refuses trouble := by
  cases hstep with
  | turn hm hasked hbusy =>
    obtain ⟨trouble, hrefuses, -⟩ := (Happens.turn hbusy).refuses hd
    exact ⟨trouble, hrefuses⟩
  | late hm hasked hheld hlate =>
    obtain ⟨trouble, hrefuses, -⟩ := (Happens.late hheld hlate).refuses hd
    exact ⟨trouble, hrefuses⟩
  | submit | start | ask | forget | dismiss | cancel | take | display => cases hd

/-- Any number of steps of some kind, with what they did. -/
inductive Course (R : Crew ω β → Deed → Crew ω β → Prop) (k : Crew ω β) :
    List Deed → Crew ω β → Prop
  | refl : Course R k [] k
  | tail {ds : List Deed} {l : Crew ω β} {d : Deed} {j : Crew ω β}
      (hkl : Course R k ds l) (hstep : R l d j) : Course R k (ds ++ [d]) j

theorem Course.trans {R : Crew ω β → Deed → Crew ω β → Prop} {j : Crew ω β}
    (hkl : Course R k ds l) (hlj : Course R l es j) : Course R k (ds ++ es) j := by
  induction hlj with
  | refl => rwa [List.append_nil]
  | tail _ hstep ih =>
    rw [← List.append_assoc]
    exact .tail ih hstep

/-! ## Boards -/

/-- The slots of the jobs that are executed. -/
def current (k : Crew ω β) : List Nat := k.members.filterMap fun m => m.worker.slot?

/-- What a crew shows of its jobs. -/
def board (k : Crew ω β) : Board := { k.shared.board with current := k.current }

/-- What the workers before the one of a number execute. -/
def before (k : Crew ω β) (i : Nat) : List Nat :=
  (k.members.take i).filterMap fun m => m.worker.slot?

/-- What the workers behind the one of a number execute. -/
def behind (k : Crew ω β) (i : Nat) : List Nat :=
  (k.members.drop (i + 1)).filterMap fun m => m.worker.slot?

theorem filterMap_around {α γ : Type} (f : α → Option γ) (xs ys : List α) (x : α) :
    (xs ++ x :: ys).filterMap f = xs.filterMap f ++ (f x).toList ++ ys.filterMap f := by
  rw [List.filterMap_append, List.filterMap_cons, List.append_assoc]
  cases f x <;> rfl

theorem filterMap_modify {α γ : Type} {g : α → Option γ} {f : α → α} (hf : ∀ x, g (f x) = g x)
    (xs : List α) (i : Nat) : (xs.modify i f).filterMap g = xs.filterMap g := by
  induction xs generalizing i with
  | nil => rw [List.modify_nil]
  | cons x xs ih =>
    cases i with
    | zero => rw [List.modify_zero_cons, List.filterMap_cons, List.filterMap_cons, hf]
    | succ i => rw [List.modify_succ_cons, List.filterMap_cons, List.filterMap_cons, ih]

/-- **What a crew shows is what the scheduler shows to a worker**, beside what the others execute. -/
theorem board_of_member (hm : k.members[i]? = some m) :
    k.board = (k.seenBy m.worker).board.beside (k.before i) (k.behind i) := by
  obtain ⟨hlt, rfl⟩ := List.getElem?_eq_some_iff.mp hm
  have hcurrent : k.current =
      k.before i ++ (k.seenBy k.members[i].worker).current.toList ++ k.behind i := by
    have hsplit : k.members = k.members.take i ++ k.members[i] :: k.members.drop (i + 1) := by
      rw [List.getElem_cons_drop, List.take_append_drop]
    rw [Scheduler.current_eq, seenBy, Worker.slot?_withGame, before, behind, ← filterMap_around,
      ← hsplit]
    rfl
  rw [board, hcurrent]
  rfl

theorem board_resume (hm : k.members[i]? = some m) (s : Scheduler ω β) :
    (k.resume i s).board = s.board.beside (k.before i) (k.behind i) := by
  obtain ⟨hlt, rfl⟩ := List.getElem?_eq_some_iff.mp hm
  have hcurrent : (k.resume i s).current =
      k.before i ++ s.current.toList ++ k.behind i := by
    rw [current, resume, List.modify_eq_take_cons_drop hlt, filterMap_around, Scheduler.current_eq,
      before, behind]
  rw [board, hcurrent]
  rfl

/-- A worker that does something changes what the crew shows as it changes what a scheduler shows. -/
theorem shift_resume (hm : k.members[i]? = some m)
    (hstep : Shift newId (k.seenBy m.worker).board d s.board) :
    Shift newId k.board d (k.resume i s).board := by
  rw [board_of_member hm, board_resume hm]
  exact hstep.beside _ _

theorem start_board (k : Crew ω β) : k.start.board = k.board := by
  unfold start
  split
  · rfl
  · simp [board, current, Worker.slot?]

theorem ask_board (k : Crew ω β) : k.ask.board = k.board := by
  unfold ask
  split
  · rfl
  · rename_i i _
    split
    · have hcurrent := filterMap_modify (g := fun m : Member ω β => m.worker.slot?)
        (f := fun m => { m with asked := true }) (fun _ => rfl) k.members i
      rw [board, current, hcurrent]
      rfl
    · rfl

/-- **Every step changes what is shown in one of the ways of `Shift`.** -/
theorem Step.shift (hstep : Step c k d l) : Shift c.newId k.board d l.board := by
  cases hstep with
  | submit source output name =>
    exact (Scheduler.submit_shift c k.shared source output name).elsewhere k.current
  | start =>
    rw [start_board]
    exact .quiet
  | ask =>
    rw [ask_board]
    exact .quiet
  | forget => exact .quiet
  | @dismiss _ m hm _ hidle =>
    have hnone : (k.seenBy m.worker).execution? = none := by
      rw [hidle]
      rfl
    exact shift_resume hm (Happens.dismiss hnone).shift
  | cancel hm _ he => exact shift_resume hm (Happens.cancel he).shift
  | @take _ n m rest hm _ hidle hqueue =>
    have hready : (k.seenBy m.worker).worker = .idle := by
      rw [hidle]
      rfl
    exact shift_resume hm (Happens.take hready hqueue).shift
  | turn hm _ hbusy => exact shift_resume hm (Happens.turn hbusy).shift
  | late hm _ hheld hlate => exact shift_resume hm (Happens.late hheld hlate).shift
  | display hm _ f => exact shift_resume hm (Happens.display _ f).shift

/-! ## Courses -/

theorem ledger_fresh (newId : Nat → Text) (history : History) (game : β) :
    Ledger newId history [] (fresh (ω := ω) history game).board :=
  .fresh (ω := ω) newId history game

/-- **A course is accounted for.** -/
theorem Course.ledger {game : β} (hk : Course (Step c) (.fresh history game) ds k) :
    Ledger c.newId history ds k.board := by
  induction hk with
  | refl => exact ledger_fresh c.newId history game
  | tail _ hstep ih => exact ih.shift hstep.shift

/-- **A job at rest stays as it is, whatever happens**, and is not begun again. -/
theorem Course.rests (hkl : Course (Step c) k es l) (hn : k.board.Rests n) :
    l.board.Rests n ∧ l.board.entries[n]? = k.board.entries[n]? ∧ n ∉ begun es := by
  induction hkl with
  | refl => exact ⟨hn, rfl, List.not_mem_nil⟩
  | tail _ hstep ih =>
    obtain ⟨hrests, hsame, hbegun⟩ := ih
    obtain ⟨hrests', hsame', hbegun'⟩ := hstep.shift.rests hrests
    refine ⟨hrests', hsame'.trans hsame, ?_⟩
    simpa [begun_concat, hbegun] using hbegun'

/-- On displays that take every line no job is left with an error. -/
theorem Course.not_escaped (hline : ∀ trouble, ¬ c.host.Refuses trouble)
    (hkl : Course (Step c) k ds l) (n : Nat) : Deed.escaped n ∉ ds := by
  induction hkl with
  | refl => exact List.not_mem_nil
  | tail _ hstep ih =>
    intro hmem
    rcases List.mem_append.mp hmem with hmem | hmem
    · exact ih hmem
    · obtain ⟨trouble, hrefuses⟩ := hstep.refuses (List.mem_singleton.mp hmem).symm
      exact hline trouble hrefuses

end Crew

end Dialogue.Jobs
