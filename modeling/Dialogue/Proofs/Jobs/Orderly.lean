import Dialogue.Proofs.Jobs.Crew

/-!
# Crews with one worker

A worker is started when the one that is remembered has gone, and a worker is forgotten when another
has gone. So there is never more than one worker if none is started while somebody waits for one to go;
and then a crew is a scheduler, on which to stop is one step.

* `Crew.Orderly`: steps that start no worker while somebody waits;
* `Crew.Single`: no worker is there but the one that is remembered, and nobody waits for another;
  **`Crew.Single.step`**: orderly steps keep it so. `Crew.Single.current_unique`: one job is executed at
  most;
* `Crew.Shows`: the scheduler with the worker that is remembered;
* **`Crew.Course.scheduled`**: an orderly course of a crew is a course of a scheduler.
-/

namespace Dialogue.Jobs

open Text Machine Time Script

variable {ω β : Type} {c : Setup ω β} {history : History} {ds : List Deed} {d : Deed}
  {s t : Scheduler ω β}

/-! ## Workers that are there -/

theorem Worker.isAlive_withGame (game : β) (w : Worker ω β) :
    (w.withGame game).isAlive = w.isAlive := by
  cases w <;> rfl

theorem Worker.isAlive_of_slot? {w : Worker ω β} {n : Nat} (hw : w.slot? = some n) :
    w.isAlive = true := by
  cases w with
  | busy e | held e => rfl
  | absent | idle | dead t => cases hw

theorem Scheduler.stop_worker (c : Setup ω β) (s : Scheduler ω β) : (s.stop c).2.worker = .absent := by
  unfold stop
  split <;> rfl

theorem Scheduler.start_of_alive (hs : s.worker.isAlive = true) : s.start = s := by
  unfold start
  split
  · rename_i habsent
    rw [habsent] at hs
    cases hs
  · rename_i t hdead
    rw [hdead] at hs
    cases hs
  · rfl

theorem Scheduler.start_of_gone (hs : s.worker.isAlive = false) :
    s.start = { s with worker := .idle } := by
  unfold start
  cases hworker : s.worker with
  | absent | dead t => rfl
  | idle | busy e | held e =>
    rw [hworker] at hs
    cases hs

/-- A scheduler without a worker has none to cancel, and forgets the error of a dead one. -/
theorem Scheduler.stop_of_gone (c : Setup ω β) (hs : s.worker.isAlive = false) :
    s.execution? = none ∧ (s.stop c).2 = { s with worker := .absent } := by
  unfold stop execution?
  cases hworker : s.worker with
  | absent | dead t => exact ⟨rfl, rfl⟩
  | idle | busy e | held e =>
    rw [hworker] at hs
    cases hs

theorem Scheduler.isAlive_of_execution? {e : Execution ω β} (he : s.execution? = some e) :
    s.worker.isAlive = true := by
  unfold execution? at he
  split at he
  · rename_i hworker
    rw [hworker]
    rfl
  · rename_i hworker
    rw [hworker]
    rfl
  · cases he

theorem Scheduler.withGame_latestGame (s : Scheduler ω β) :
    s.worker.withGame s.latestGame = s.worker := by
  unfold latestGame
  cases s.worker <;> rfl

theorem Scheduler.latestGame_of_absent (hs : s.worker = .absent) : s.latestGame = s.game := by
  rw [latestGame, hs]

/-- The game that a scheduler has when its worker is not in the middle of a turn. -/
theorem Scheduler.follow_game {e : Execution ω β} {turn : Turn ω β}
    (hidle : ∀ e', (s.follow c e turn).worker ≠ .busy e') :
    (s.follow c e turn).game = (s.follow c e turn).latestGame := by
  cases turn with
  | again x => exact absurd rfl (hidle { e with session := x })
  | ended x | held x | escaped trouble x => rfl

/-- A turn takes the game from its session, and leaves it there if it is not the last. -/
theorem Scheduler.follow_withGame (s : Scheduler ω β) (e : Execution ω β) (turn : Turn ω β)
    (game : β) : ∃ game', follow c { s with game } e turn = { s.follow c e turn with game := game' } ∧
      ((∀ e', (s.follow c e turn).worker ≠ .busy e') → game' = (s.follow c e turn).latestGame) := by
  cases turn with
  | again x => exact ⟨game, rfl, fun hidle => absurd rfl (hidle { e with session := x })⟩
  | ended x => exact ⟨_, rfl, fun hidle => s.follow_game hidle⟩
  | held x => exact ⟨_, rfl, fun hidle => s.follow_game hidle⟩
  | escaped trouble x => exact ⟨_, rfl, fun hidle => s.follow_game hidle⟩

theorem Scheduler.begin_game (c : Setup ω β) (hidle : s.worker = .idle) (n : Nat) (rest : List Nat)
    (hnext : ∀ e, (s.begin c n rest).worker ≠ .busy e) :
    (s.begin c n rest).game = (s.begin c n rest).latestGame := by
  obtain ⟨hmiss, -⟩ | ⟨x, script, -, -, hbegin⟩ := s.begin_cases c n rest
  · rw [hmiss, latestGame, hidle]
  · rw [hbegin] at hnext
    exact absurd rfl (hnext _)

/-- What is submitted has nothing to do with the worker and the game. -/
theorem Scheduler.submit_with (worker : Worker ω β) (game : β) (source : Text) (output : ω)
    (name : Option Text) : submit c { s with worker, game } source output name =
      ((s.submit c source output name).1,
        { (s.submit c source output name).2 with worker, game }) := by
  cases hfull : s.isFull c with
  | true =>
    have hfull' : isFull c { s with worker, game } = true := hfull
    rw [submit_of_full hfull, submit_of_full hfull']
    rfl
  | false =>
    have hfull' : isFull c { s with worker, game } = false := hfull
    rw [submit_of_not_full hfull, submit_of_not_full hfull']
    rfl

theorem Scheduler.submit_game (source : Text) (output : ω) (name : Option Text) :
    (s.submit c source output name).2.game = s.game :=
  congrArg (fun r => r.2.game) (submit_with (c := c) s.worker s.game source output name)

/-- A job that is cancelled gives the game back. -/
theorem Scheduler.stop_withGame {e : Execution ω β} (he : s.execution? = some e) (game : β) :
    stop c { s with game } = s.stop c := by
  obtain ⟨slots, queue, worker, history, game', readings⟩ := s
  cases worker with
  | busy e' | held e' => rfl
  | absent | idle | dead t => cases he

namespace Crew

variable {k l : Crew ω β} {m : Member ω β} {i j n : Nat}

theorem isAlive_iff : k.isAlive i = true ↔ ∃ m, k.members[i]? = some m ∧ m.worker.isAlive = true := by
  rw [isAlive, Option.any_eq_true]

/-- Nobody comes to be there because a worker does something. -/
theorem isAlive_of_resume (hm : k.members[i]? = some m)
    (hs : s.worker.isAlive = true → m.worker.isAlive = true)
    (hj : (k.resume i s).isAlive j = true) : k.isAlive j = true := by
  obtain ⟨m', hm', halive⟩ := isAlive_iff.mp hj
  rw [resume, List.getElem?_modify] at hm'
  obtain ⟨m'', hm'', rfl⟩ := Option.map_eq_some_iff.mp hm'
  split at halive
  · rename_i hij
    subst hij
    exact isAlive_iff.mpr ⟨m, hm, hs halive⟩
  · exact isAlive_iff.mpr ⟨m'', hm'', halive⟩

theorem start_cases (k : Crew ω β) :
    (k.start = k ∧ ∃ i, k.remembered = some i ∧ k.isAlive i = true) ∨
      (k.start = { k with members := k.members ++ [{}], remembered := some k.members.length } ∧
        ∀ i, k.remembered = some i → k.isAlive i = false) := by
  unfold start
  split
  · rename_i hany
    exact .inl ⟨rfl, Option.any_eq_true _ _ |>.mp hany⟩
  · rename_i hany
    refine .inr ⟨rfl, fun i hi => ?_⟩
    rw [hi, Option.any_some, Bool.not_eq_true] at hany
    exact hany

theorem ask_cases (k : Crew ω β) :
    (∃ i, k.remembered = some i ∧ k.isAlive i = true ∧
      k.ask = { k with
        members := k.members.modify i fun m => { m with asked := true }
        awaited := i :: k.awaited }) ∨
      (k.ask = { k with remembered := none } ∧
        ∀ i, k.remembered = some i → k.isAlive i = false) := by
  unfold ask
  split
  · rename_i hremembered
    refine .inr ⟨?_, fun i hi => ?_⟩
    · rw [← hremembered]
    · rw [hremembered] at hi
      cases hi
  · rename_i i hremembered
    split
    · rename_i halive
      exact .inl ⟨i, hremembered, halive, rfl⟩
    · rename_i hgone
      refine .inr ⟨rfl, fun j hj => ?_⟩
      obtain rfl := Option.some.inj (hremembered.symm.trans hj)
      exact Bool.not_eq_true _ ▸ hgone

/-- Nobody comes to be there with a new worker but that worker. -/
theorem isAlive_of_concat {remembered : Option Nat}
    (hj : isAlive { k with members := k.members ++ [{}], remembered } j = true) :
    k.isAlive j = true ∨ j = k.members.length := by
  obtain ⟨m, hm, halive⟩ := isAlive_iff.mp hj
  rw [List.getElem?_append] at hm
  split at hm
  · exact .inl (isAlive_iff.mpr ⟨m, hm, halive⟩)
  · rw [List.getElem?_singleton] at hm
    split at hm
    · exact .inr (by omega)
    · cases hm

/-- Who is asked is there as before. -/
theorem isAlive_asked (k : Crew ω β) (i j : Nat) (awaited : List Nat) :
    isAlive { k with
      members := k.members.modify i fun m => { m with asked := true }, awaited } j =
      k.isAlive j := by
  simp only [isAlive, List.getElem?_modify]
  cases k.members[j]? with
  | none => rfl
  | some m => by_cases hij : i = j <;> simp [hij]

/-! ## Orderly steps -/

/-- A step that starts no worker while somebody waits for one to go. -/
def Orderly (c : Setup ω β) (k : Crew ω β) (d : Deed) (l : Crew ω β) : Prop :=
  Step c k d l ∧ (k.awaited ≠ [] → l.members.length = k.members.length)

/-- No worker is there but the one that is remembered, and nobody waits for another one. -/
structure Single (k : Crew ω β) : Prop where
  remembered : ∀ i, k.isAlive i = true → k.remembered = some i
  awaited : ∀ i, k.isAlive i = true → ∀ j ∈ k.awaited, j = i

namespace Single

theorem of_isAlive_eq_false (hk : ∀ j, k.isAlive j = false) : k.Single where
  remembered i hi := by
    rw [hk i] at hi
    cases hi
  awaited i hi := by
    rw [hk i] at hi
    cases hi

theorem resume (hk : k.Single) (hm : k.members[i]? = some m)
    (hs : s.worker.isAlive = true → m.worker.isAlive = true) : (k.resume i s).Single where
  remembered j hj := hk.remembered j (isAlive_of_resume hm hs hj)
  awaited j hj := hk.awaited j (isAlive_of_resume hm hs hj)

/-- There is nobody when the worker that is remembered has gone. -/
theorem isAlive_eq_false (hk : k.Single) (hgone : ∀ i, k.remembered = some i → k.isAlive i = false)
    (j : Nat) : k.isAlive j = false := by
  cases hj : k.isAlive j with
  | false => rfl
  | true => exact hj.symm.trans (hgone j (hk.remembered j hj))

theorem start (hk : k.Single)
    (horderly : k.awaited ≠ [] → k.start.members.length = k.members.length) : k.start.Single := by
  obtain ⟨hsame, -⟩ | ⟨hnew, hgone⟩ := k.start_cases
  · rwa [hsame]
  · have hnobody : k.awaited = [] := by
      by_contra hawaited
      have hlength := horderly hawaited
      rw [hnew] at hlength
      simp at hlength
    refine ⟨fun j hj => ?_, fun j hj i hi => ?_⟩
    · rw [hnew] at hj
      rcases isAlive_of_concat hj with hold | rfl
      · cases hold.symm.trans (hk.isAlive_eq_false hgone j)
      · rw [hnew]
    · rw [hnew] at hi
      cases hnobody ▸ hi

theorem ask (hk : k.Single) : k.ask.Single := by
  obtain ⟨i, hremembered, -, hask⟩ | ⟨hask, hgone⟩ := k.ask_cases
  · have hsame (j : Nat) (hj : k.ask.isAlive j = true) : k.isAlive j = true := by
      rw [hask, isAlive_asked] at hj
      exact hj
    refine ⟨fun j hj => ?_, fun j hj j' hj' => ?_⟩
    · rw [hask]
      exact hk.remembered j (hsame j hj)
    · rw [hask] at hj'
      rcases List.mem_cons.mp hj' with rfl | hj'
      · exact Option.some.inj (hremembered.symm.trans (hk.remembered j (hsame j hj)))
      · exact hk.awaited j (hsame j hj) j' hj'
  · rw [hask]
    exact of_isAlive_eq_false (hk.isAlive_eq_false hgone)

theorem forget (hk : k.Single) (hi : i ∈ k.awaited) (hgone : k.isAlive i = false) :
    (k.forget i).Single := by
  refine of_isAlive_eq_false fun j => ?_
  cases hj : k.isAlive j with
  | false => exact hj
  | true =>
    -- who is there would be the one that has gone
    obtain rfl := hk.awaited j hj i hi
    cases hj.symm.trans hgone

/-- **Orderly steps keep it so.** -/
theorem step (hk : k.Single) (hstep : Orderly c k d l) : l.Single := by
  obtain ⟨hstep, horderly⟩ := hstep
  cases hstep with
  | submit source output name => exact ⟨hk.remembered, hk.awaited⟩
  | start => exact hk.start horderly
  | ask => exact hk.ask
  | forget hawaited hgone => exact hk.forget hawaited hgone
  | dismiss hm | cancel hm =>
    refine hk.resume hm fun halive => ?_
    rw [Scheduler.stop_worker] at halive
    cases halive
  | take hm _ hidle => exact hk.resume hm fun _ => by rw [hidle]; rfl
  | turn hm _ hworker | late hm _ hworker | display hm hworker =>
    refine hk.resume hm fun _ => ?_
    rw [← Worker.isAlive_withGame k.shared.game]
    exact congrArg Worker.isAlive hworker

end Single

theorem Course.single {game : β} (hk : Course (Orderly c) (.fresh history game) ds k) :
    k.Single := by
  induction hk with
  | refl => exact .of_isAlive_eq_false fun _ => rfl
  | tail _ hstep ih => exact ih.step hstep

/-- Orderly courses are courses. -/
theorem Course.of_orderly (hkl : Course (Orderly c) k ds l) : Course (Step c) k ds l := by
  induction hkl with
  | refl => exact .refl
  | tail _ hstep ih => exact ih.tail hstep.1

theorem exists_member_of_current (hn : n ∈ k.current) :
    ∃ (i : Nat) (m : Member ω β), k.members[i]? = some m ∧ m.worker.slot? = some n := by
  obtain ⟨m, hm, hslot⟩ := List.mem_filterMap.mp hn
  obtain ⟨i, hi⟩ := List.getElem?_of_mem hm
  exact ⟨i, m, hi, hslot⟩

/-- **One job is executed at most.** -/
theorem Single.current_unique (hk : k.Single) {n' : Nat} (hn : n ∈ k.current)
    (hn' : n' ∈ k.current) : n = n' := by
  obtain ⟨i, m, hm, hslot⟩ := exists_member_of_current hn
  obtain ⟨i', m', hm', hslot'⟩ := exists_member_of_current hn'
  have hi := hk.remembered i (isAlive_iff.mpr ⟨m, hm, Worker.isAlive_of_slot? hslot⟩)
  have hi' := hk.remembered i' (isAlive_iff.mpr ⟨m', hm', Worker.isAlive_of_slot? hslot'⟩)
  obtain rfl := Option.some.inj (hi.symm.trans hi')
  obtain rfl := Option.some.inj (hm.symm.trans hm')
  exact Option.some.inj (hslot.symm.trans hslot')

/-! ## Schedulers -/

/-- What the worker that is remembered is about. -/
def worker (k : Crew ω β) : Worker ω β :=
  (k.remembered.bind fun i => k.members[i]?).elim .absent fun m => m.worker.withGame k.shared.game

/-- The crew shows itself as a scheduler whose worker is the one that is remembered. In the middle of a
turn the scheduler has not yet got the game back. -/
structure Shows (k : Crew ω β) (s : Scheduler ω β) : Prop where
  slots : s.slots = k.shared.slots
  queue : s.queue = k.shared.queue
  worker : s.worker = k.worker
  history : s.history = k.shared.history
  game : (∀ e, s.worker ≠ .busy e) → s.game = k.shared.game
  readings : s.readings = k.shared.readings

theorem worker_of_gone (hgone : ∀ i, k.remembered = some i → k.isAlive i = false) :
    k.worker.isAlive = false := by
  unfold worker
  cases hremembered : k.remembered with
  | none => rfl
  | some i =>
    have hi := hgone i hremembered
    rw [isAlive] at hi
    rw [Option.bind_some]
    cases hm : k.members[i]? with
    | none => rfl
    | some m =>
      rw [hm, Option.any_some] at hi
      exact (Worker.isAlive_withGame _ _).trans hi

theorem worker_of_member (hremembered : k.remembered = some i) (hm : k.members[i]? = some m) :
    k.worker = m.worker.withGame k.shared.game := by
  rw [worker, hremembered, Option.bind_some, hm]
  rfl

/-- The scheduler has its own worker and game, and all else from what the workers share. -/
theorem Shows.eq_shared (hs : k.Shows s) :
    s = { k.shared with worker := s.worker, game := s.game } := by
  obtain ⟨slots, queue, worker, history, game, readings⟩ := s
  obtain rfl : slots = _ := hs.slots
  obtain rfl : queue = _ := hs.queue
  obtain rfl : history = _ := hs.history
  obtain rfl : readings = _ := hs.readings
  rfl

/-- A worker that is there sees the scheduler that the crew shows itself as. -/
theorem Shows.eq_seenBy (hs : k.Shows s) (hremembered : k.remembered = some i)
    (hm : k.members[i]? = some m) : s = { k.seenBy m.worker with game := s.game } := by
  have hworker := hs.worker.trans (worker_of_member hremembered hm)
  calc
    s = { k.shared with worker := s.worker, game := s.game } := hs.eq_shared
    _ = { k.seenBy m.worker with game := s.game } := by rw [hworker]; rfl

/-- Where nobody is there, another worker makes another scheduler of what the workers share. -/
theorem Shows.replace (hs : k.Shows s) (hgone : s.worker.isAlive = false)
    (hshared : l.shared = k.shared) {w : Worker ω β} (hw : l.worker = w) :
    l.Shows { s with worker := w } where
  slots := hshared ▸ hs.slots
  queue := hshared ▸ hs.queue
  worker := hw.symm
  history := hshared ▸ hs.history
  game _ := by
    rw [hshared]
    refine hs.game fun e he => ?_
    rw [he] at hgone
    cases hgone
  readings := hshared ▸ hs.readings

/-- What a worker has done to what it has seen, it has done to the scheduler. -/
theorem Shows.resume (hremembered : k.remembered = some i) (hm : k.members[i]? = some m)
    {game : β} (hgame : (∀ e, t.worker ≠ .busy e) → game = t.latestGame) :
    (k.resume i t).Shows { t with game } where
  slots := rfl
  queue := rfl
  worker := by
    have hm' : (k.resume i t).members[i]? = some { m with worker := t.worker } := by
      rw [Crew.resume, List.getElem?_modify, hm]
      simp
    rw [worker_of_member (k := k.resume i t) hremembered hm']
    exact t.withGame_latestGame.symm
  history := rfl
  game := hgame
  readings := rfl

/-- A worker that is not in the middle of a turn sees just the scheduler. -/
theorem Shows.eq_seenBy_of_not_busy (hs : k.Shows s) (hremembered : k.remembered = some i)
    (hm : k.members[i]? = some m) (hidle : ∀ e, (k.seenBy m.worker).worker ≠ .busy e) :
    s = k.seenBy m.worker := by
  have hsame := hs.eq_seenBy hremembered hm
  have hworker : s.worker = (k.seenBy m.worker).worker := by rw [hsame]
  have hgame : s.game = k.shared.game := hs.game fun e he => hidle e (hworker.symm.trans he)
  rw [hsame, hgame]
  rfl

theorem Shows.submit (hs : k.Shows s) (source : Text) (output : ω) (name : Option Text) :
    (s.submit c source output name).1 = (k.shared.submit c source output name).1 ∧
      Shows { k with shared := (k.shared.submit c source output name).2 }
        (s.submit c source output name).2 := by
  have hgame := k.shared.submit_game (c := c) source output name
  rw [hs.eq_shared, Scheduler.submit_with]
  refine ⟨rfl, rfl, rfl, ?_, rfl, ?_, rfl⟩
  · rw [hs.worker, Crew.worker, Crew.worker, hgame]
  · rw [hgame]
    exact hs.game

theorem Shows.start (hs : k.Shows s) : k.start.Shows s.start := by
  obtain ⟨hsame, i, hremembered, halive⟩ | ⟨hnew, hgone⟩ := k.start_cases
  · obtain ⟨m, hm, halive⟩ := isAlive_iff.mp halive
    have hworker : s.worker.isAlive = true := by
      rw [hs.worker, worker_of_member hremembered hm, Worker.isAlive_withGame]
      exact halive
    rw [hsame, Scheduler.start_of_alive hworker]
    exact hs
  · have hworker : s.worker.isAlive = false := by
      rw [hs.worker]
      exact worker_of_gone hgone
    have hidle : k.start.worker = .idle := by
      rw [hnew, Crew.worker, Option.bind_some, List.getElem?_concat_length]
      rfl
    rw [Scheduler.start_of_gone hworker]
    exact hs.replace hworker (by rw [hnew]) hidle

/-- A crew that forgets a worker that has gone is a scheduler that stops it. -/
theorem Shows.forgets (c : Setup ω β) (hs : k.Shows s)
    (hgone : ∀ i, k.remembered = some i → k.isAlive i = false) (hnone : l.remembered = none)
    (hshared : l.shared = k.shared) : Happens c s .quiet (s.stop c).2 ∧ l.Shows (s.stop c).2 := by
  have hworker : s.worker.isAlive = false := by
    rw [hs.worker]
    exact worker_of_gone hgone
  obtain ⟨hexecution, hstop⟩ := Scheduler.stop_of_gone c hworker
  have habsent : l.worker = .absent := by
    rw [Crew.worker, hnone]
    rfl
  refine ⟨.dismiss hexecution, ?_⟩
  rw [hstop]
  exact hs.replace hworker hshared habsent

theorem worker_asked (k : Crew ω β) (i : Nat) (awaited : List Nat) :
    worker { k with
      members := k.members.modify i fun m => { m with asked := true }, awaited } = k.worker := by
  simp only [worker]
  cases k.remembered with
  | none => rfl
  | some j =>
    simp only [Option.bind_some, List.getElem?_modify]
    cases k.members[j]? with
    | none => rfl
    | some m => by_cases hij : i = j <;> simp [hij]

/-- Nothing happens to a scheduler. -/
theorem happens_nothing (c : Setup ω β) (s : Scheduler ω β) : Happens c s .quiet s := by
  have hsame : s.onDisplay id = s := by
    unfold Scheduler.onDisplay
    split
    · rename_i e hbusy
      obtain ⟨slots, queue, worker, history, game, readings⟩ := s
      obtain rfl : worker = _ := hbusy
      rfl
    · rfl
  have hdisplay := Happens.display (c := c) s id
  rwa [hsame] at hdisplay

/-- **A step of an orderly crew is a step of the scheduler that it shows itself as.** -/
theorem Shows.step (hk : k.Single) (hs : k.Shows s) (hstep : Step c k d l) :
    ∃ t, Happens c s d t ∧ l.Shows t := by
  have hnumber {i : Nat} {m : Member ω β} (hm : k.members[i]? = some m)
      (halive : (k.seenBy m.worker).worker.isAlive = true) : k.remembered = some i :=
    hk.remembered i (isAlive_iff.mpr ⟨m, hm, (Worker.isAlive_withGame _ _).symm.trans halive⟩)
  cases hstep with
  | submit source output name =>
    obtain ⟨hreply, hsubmitted⟩ := hs.submit (c := c) source output name
    rw [← hreply, ← hs.slots]
    exact ⟨_, .submit s source output name, hsubmitted⟩
  | start => exact ⟨_, .start s, hs.start⟩
  | ask =>
    obtain ⟨i, -, -, hask⟩ | ⟨hask, hgone⟩ := k.ask_cases
    · rw [hask]
      refine ⟨s, happens_nothing c s, hs.slots, hs.queue, ?_, hs.history, hs.game, hs.readings⟩
      rw [worker_asked]
      exact hs.worker
    · rw [hask]
      exact ⟨_, hs.forgets c hgone rfl rfl⟩
  | @forget i hawaited hgone =>
    refine ⟨_, hs.forgets c (fun j _ => ?_) rfl rfl⟩
    cases hj : k.isAlive j with
    | false => rfl
    | true =>
      obtain rfl := hk.awaited j hj i hawaited
      cases hj.symm.trans hgone
  | @dismiss i m hm _ hidle =>
    have hremembered := hnumber hm (by rw [hidle]; rfl)
    have hsame := hs.eq_seenBy_of_not_busy hremembered hm (by rw [hidle]; nofun)
    have hnone : s.execution? = none := by
      rw [hsame, hidle]
      rfl
    refine ⟨_, .dismiss hnone, ?_⟩
    rw [hsame]
    exact .resume hremembered hm fun _ =>
      (Scheduler.latestGame_of_absent (Scheduler.stop_worker c _)).symm
  | @cancel i m e hm _ he =>
    have hremembered := hnumber hm (Scheduler.isAlive_of_execution? he)
    have hsame := hs.eq_seenBy hremembered hm
    have hstop : s.stop c = (k.seenBy m.worker).stop c := by
      rw [hsame]
      exact Scheduler.stop_withGame he s.game
    have he' : s.execution? = some e := by
      rw [hsame]
      exact he
    refine ⟨_, .cancel he', ?_⟩
    rw [hstop]
    exact .resume hremembered hm fun _ =>
      (Scheduler.latestGame_of_absent (Scheduler.stop_worker c _)).symm
  | @take i n m rest hm _ hidle hqueue =>
    have hready : (k.seenBy m.worker).worker = .idle := by rw [hidle]; rfl
    have hremembered := hnumber hm (by rw [hready]; rfl)
    have hsame := hs.eq_seenBy_of_not_busy hremembered hm (by rw [hready]; nofun)
    rw [hsame]
    exact ⟨_, .take hready hqueue, .resume hremembered hm (Scheduler.begin_game c hready n rest)⟩
  | @turn i m e hm _ hbusy =>
    have hremembered := hnumber hm (by rw [hbusy]; rfl)
    have hsame := hs.eq_seenBy hremembered hm
    obtain ⟨game, hfollow, hgame⟩ := (k.seenBy m.worker).follow_withGame (c := c) e
      (e.session.turn c.host e.program c.limit) s.game
    have hbusy' : s.worker = .busy e := by
      rw [hsame]
      exact hbusy
    refine ⟨_, .turn hbusy', ?_⟩
    rw [hsame, hfollow]
    exact .resume hremembered hm hgame
  | @late i m e turn hm _ hheld hlate =>
    have hremembered := hnumber hm (by rw [hheld]; rfl)
    have hsame := hs.eq_seenBy_of_not_busy hremembered hm (by rw [hheld]; nofun)
    rw [hsame]
    exact ⟨_, .late hheld hlate, .resume hremembered hm Scheduler.follow_game⟩
  | @display i m e hm hbusy f =>
    have hremembered := hnumber hm (by rw [hbusy]; rfl)
    have hsame := hs.eq_seenBy hremembered hm
    have hdisplay : s.onDisplay f = { (k.seenBy m.worker).onDisplay f with game := s.game } := by
      rw [hsame]
      unfold Scheduler.onDisplay
      rw [hbusy]
    refine ⟨_, .display s f, ?_⟩
    rw [hdisplay]
    refine .resume hremembered hm fun hidle => ?_
    unfold Scheduler.onDisplay at hidle
    rw [hbusy] at hidle
    exact absurd rfl (hidle _)

/-- **An orderly course of a crew is a course of a scheduler**, on which to stop is one step. -/
theorem Course.scheduled {game : β} (hk : Course (Orderly c) (.fresh history game) ds k) :
    ∃ s, Jobs.Course c (.fresh history game) ds s ∧ k.Shows s := by
  induction hk with
  | refl => exact ⟨_, .refl, rfl, rfl, rfl, rfl, fun _ => rfl, rfl⟩
  | tail hkl hstep ih =>
    obtain ⟨s, hs, hshows⟩ := ih
    obtain ⟨t, hst, ht⟩ := hshows.step hkl.single hstep.1
    exact ⟨t, hs.tail hst, ht⟩

end Crew

end Dialogue.Jobs
