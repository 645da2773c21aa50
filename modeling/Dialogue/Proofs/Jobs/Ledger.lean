import Dialogue.Proofs.Jobs.Board

/-!
# Where every job stands

The deeds of a course tell where each job stands. The jobs that were accepted are, in order of
submission, those that were begun and the queue; and those that were begun are the ones that are done
with and the ones that are executed. What a job shows follows from whether it was begun and whether it
was finished, and the history has had the records of the finished ones, one after the other.

* `Entry.Waits`, `Entry.Runs`, `Entry.Ended`: what a job shows; `Stands`: what it shows by the deeds;
* `History.enter`, `recordsOf`: what the history has had;
* `Ledger`: all of the above; **`Ledger.shift`**: every change of a board keeps it;
* **`Course.ledger`**: it holds after every course of a fresh scheduler;
* `Board.Rests`, **`Shift.rests`**: a job that is neither executed nor in the queue stays as it is.
-/

namespace Dialogue.Jobs

open Text Machine Time Script

variable {ω β : Type} {c : Setup ω β} {s t : Scheduler ω β} {newId : Nat → Text}
  {history : History} {ds es : List Deed} {d : Deed} {b b' : Board} {n : Nat} {x : Entry}

/-! ## What a job shows -/

/-- The job is to be executed. -/
structure Entry.Waits (x : Entry) : Prop where
  status : x.job.status = .queued
  script : x.script.isSome
  finished : x.job.finished = none

/-- The job has been taken to be executed. -/
structure Entry.Runs (x : Entry) : Prop where
  status : x.job.status = .running
  script : x.script = none
  finished : x.job.finished = none

/-- The job has been executed. -/
structure Entry.Ended (x : Entry) : Prop where
  status : ∃ ending, x.job.status = .ended ending
  script : x.script = none
  finished : x.job.finished.isSome

/-- What the job in slot `n` shows by what was done about it. -/
inductive Stands (ds : List Deed) (n : Nat) (x : Entry) : Prop
  | waits (hbegun : n ∉ begun ds) (hx : x.Waits)
  | runs (hbegun : n ∈ begun ds) (hfinished : n ∉ finished ds) (hx : x.Runs)
  | ended (hfinished : n ∈ finished ds) (hx : x.Ended)

/-- Deeds about other jobs change nothing for a job. -/
theorem Stands.concat (hx : Stands ds n x) (hbegun : d.begun? ≠ some n)
    (hfinished : d.finished? ≠ some n) : Stands (ds ++ [d]) n x := by
  have hb : n ∈ begun (ds ++ [d]) ↔ n ∈ begun ds := by simp [begun_concat, hbegun]
  have hf : n ∈ finished (ds ++ [d]) ↔ n ∈ finished ds := by simp [finished_concat, hfinished]
  cases hx with
  | waits h hx => exact .waits (mt hb.mp h) hx
  | runs h h' hx => exact .runs (hb.mpr h) (mt hf.mp h') hx
  | ended h hx => exact .ended (hf.mpr h) hx

/-! ## What the history has had -/

/-- Enters records, one after the other. -/
def History.enter (h : History) (rs : List Record) : History := rs.foldl (fun h r => h.append r) h

theorem History.enter_concat (h : History) (rs : List Record) (r : Record) :
    h.enter (rs ++ [r]) = (h.enter rs).append r :=
  List.foldl_concat ..

/-- The records of some jobs. -/
def recordsOf (entries : List Entry) (ns : List Nat) : List Record :=
  ns.filterMap fun n => entries[n]?.map fun x => x.job.record

theorem recordsOf_congr {entries entries' : List Entry} {ns : List Nat}
    (h : ∀ n ∈ ns, entries'[n]? = entries[n]?) : recordsOf entries' ns = recordsOf entries ns :=
  List.filterMap_congr fun n hn => by rw [h n hn]

theorem recordsOf_concat {entries : List Entry} {ns : List Nat} (hx : entries[n]? = some x) :
    recordsOf entries (ns ++ [n]) = recordsOf entries ns ++ [x.job.record] := by
  simp [recordsOf, hx]

/-! ## Entries of a changed list -/

theorem entry_of_concat {entries : List Entry} {y : Entry} (hx : (entries ++ [y])[n]? = some x) :
    entries[n]? = some x ∨ n = entries.length ∧ x = y := by
  rcases Nat.lt_or_ge n entries.length with hlt | hge
  · rw [List.getElem?_append_left hlt] at hx
    exact .inl hx
  · rw [List.getElem?_append_right hge, List.getElem?_singleton] at hx
    split at hx
    · rename_i hn
      exact .inr ⟨by omega, (Option.some.inj hx).symm⟩
    · cases hx

theorem entry_of_set {entries : List Entry} {m : Nat} {y : Entry}
    (hx : (entries.set m y)[n]? = some x) : n = m ∧ x = y ∨ n ≠ m ∧ entries[n]? = some x := by
  rw [List.getElem?_set] at hx
  split at hx
  · rename_i hmn
    split at hx
    · exact .inl ⟨hmn.symm, (Option.some.inj hx).symm⟩
    · cases hx
  · rename_i hmn
    exact .inr ⟨fun h => hmn h.symm, hx⟩

/-! ## The ledger -/

/-- What a board shows by the deeds that led to it. -/
structure Ledger (newId : Nat → Text) (history : History) (ds : List Deed) (b : Board) : Prop where
  /-- Those that were begun, and those that wait. -/
  order : accepted ds = begun ds ++ b.queue
  /-- Those that are done with, and those that are executed. -/
  begun_perm : (begun ds).Perm (left ds ++ b.current)
  ascending : (accepted ds).Pairwise (· < ·)
  bounded : ∀ n ∈ accepted ds, n < b.entries.length
  stands : ∀ n x, b.entries[n]? = some x → Stands ds n x
  ids : ∀ n x, b.entries[n]? = some x → x.job.id = newId n
  replies : ∀ n id, .submitted n (.ok id) ∈ ds → id = newId n
  history_eq : b.history = history.enter (recordsOf b.entries (finished ds))

namespace Ledger

theorem nodup (hb : Ledger newId history ds b) : (begun ds ++ b.queue).Nodup :=
  hb.order ▸ hb.ascending.imp fun h => Nat.ne_of_lt h

/-- No job is begun twice. -/
theorem begun_nodup (hb : Ledger newId history ds b) : (begun ds).Nodup :=
  (List.nodup_append.mp hb.nodup).1

theorem left_append_nodup (hb : Ledger newId history ds b) : (left ds ++ b.current).Nodup :=
  hb.begun_perm.nodup_iff.mp hb.begun_nodup

/-- No job is done with twice. -/
theorem left_nodup (hb : Ledger newId history ds b) : (left ds).Nodup :=
  (List.nodup_append.mp hb.left_append_nodup).1

theorem finished_nodup (hb : Ledger newId history ds b) : (finished ds).Nodup :=
  (finished_sublist_left ds).nodup hb.left_nodup

/-- No job is executed twice. -/
theorem current_nodup (hb : Ledger newId history ds b) : b.current.Nodup :=
  (List.nodup_append.mp hb.left_append_nodup).2.1

theorem accepted_of_mem_begun (hb : Ledger newId history ds b) (hn : n ∈ begun ds) :
    n ∈ accepted ds := by
  rw [hb.order]
  exact List.mem_append_left _ hn

/-- What was begun is done with or executed. -/
theorem mem_begun_iff (hb : Ledger newId history ds b) :
    n ∈ begun ds ↔ n ∈ left ds ∨ n ∈ b.current :=
  hb.begun_perm.mem_iff.trans List.mem_append

theorem begun_of_mem_finished (hb : Ledger newId history ds b) (hn : n ∈ finished ds) :
    n ∈ begun ds :=
  hb.mem_begun_iff.mpr (.inl ((finished_sublist_left ds).subset hn))

theorem begun_of_current (hb : Ledger newId history ds b) (hn : n ∈ b.current) : n ∈ begun ds :=
  hb.mem_begun_iff.mpr (.inr hn)

theorem not_left_of_current (hb : Ledger newId history ds b) (hn : n ∈ b.current) :
    n ∉ left ds :=
  fun hleft => (List.nodup_append.mp hb.left_append_nodup).2.2 n hleft n hn rfl

theorem not_finished_of_current (hb : Ledger newId history ds b) (hn : n ∈ b.current) :
    n ∉ finished ds :=
  fun h => hb.not_left_of_current hn ((finished_sublist_left ds).subset h)

theorem not_begun_of_mem_queue (hb : Ledger newId history ds b) (hn : n ∈ b.queue) :
    n ∉ begun ds :=
  fun hbegun => (List.nodup_append.mp hb.nodup).2.2 n hbegun n hn rfl

/-- An accepted job is there. -/
theorem exists_entry (hb : Ledger newId history ds b) (hn : n ∈ accepted ds) :
    ∃ x, b.entries[n]? = some x ∧ Stands ds n x := by
  have hget := List.getElem?_eq_getElem (hb.bounded n hn)
  exact ⟨_, hget, hb.stands n _ hget⟩

/-- **The script of a job in the queue is there.** -/
theorem waits_of_mem_queue (hb : Ledger newId history ds b) (hn : n ∈ b.queue) :
    ∃ x, b.entries[n]? = some x ∧ x.Waits := by
  have hnot := hb.not_begun_of_mem_queue hn
  obtain ⟨x, hx, hstands⟩ := hb.exists_entry (n := n) (hb.order ▸ List.mem_append_right _ hn)
  cases hstands with
  | waits _ hwaits => exact ⟨x, hx, hwaits⟩
  | runs hbegun _ _ => exact absurd hbegun hnot
  | ended hfinished _ => exact absurd (hb.begun_of_mem_finished hfinished) hnot

theorem runs_of_mem_begun (hb : Ledger newId history ds b) (hn : n ∈ begun ds)
    (hnot : n ∉ finished ds) : ∃ x, b.entries[n]? = some x ∧ x.Runs := by
  obtain ⟨x, hx, hstands⟩ := hb.exists_entry (hb.accepted_of_mem_begun hn)
  cases hstands with
  | waits hunbegun _ => exact absurd hn hunbegun
  | runs _ _ hruns => exact ⟨x, hx, hruns⟩
  | ended hfinished _ => exact absurd hfinished hnot

/-- A job that is executed is there. -/
theorem runs_of_current (hb : Ledger newId history ds b) (hn : n ∈ b.current) :
    ∃ x, b.entries[n]? = some x ∧ x.Runs :=
  hb.runs_of_mem_begun (hb.begun_of_current hn) (hb.not_finished_of_current hn)

/-- **A job that was left with an error goes on running**, with nobody who executes it. -/
theorem runs_of_escaped (hb : Ledger newId history ds b) (hn : Deed.escaped n ∈ ds) :
    ∃ x, b.entries[n]? = some x ∧ x.Runs :=
  hb.runs_of_mem_begun (hb.mem_begun_iff.mpr (.inl (mem_left_iff.mpr (.inr hn))))
    (not_finished_of_escaped hb.left_nodup hn)

theorem ended_of_mem_finished (hb : Ledger newId history ds b) (hn : n ∈ finished ds) :
    ∃ x, b.entries[n]? = some x ∧ x.Ended := by
  have hbegun := hb.begun_of_mem_finished hn
  obtain ⟨x, hx, hstands⟩ := hb.exists_entry (hb.accepted_of_mem_begun hbegun)
  cases hstands with
  | waits hunbegun _ => exact absurd hbegun hunbegun
  | runs _ hnot _ => exact absurd hn hnot
  | ended _ hended => exact ⟨x, hx, hended⟩

/-- The worker finds every job that it takes. -/
theorem not_miss (hb : Ledger newId history ds b) {rest : List Nat} (hqueue : b.queue = n :: rest)
    (hentry : ∀ job script, b.entries[n]? ≠ some ⟨job, some script⟩) : False := by
  obtain ⟨⟨job, script⟩, hx, hwaits⟩ := hb.waits_of_mem_queue (n := n) (by simp [hqueue])
  obtain ⟨script, rfl⟩ := Option.isSome_iff_exists.mp hwaits.script
  exact hentry job script hx

/-- The worker finds the job that it executes. -/
theorem not_lose (hb : Ledger newId history ds b) (hn : n ∈ b.current)
    (hentry : b.entries[n]? = none) : False := by
  obtain ⟨x, hx, -⟩ := hb.runs_of_current hn
  rw [hentry] at hx
  cases hx

/-! ## Every change keeps it -/

theorem order_shift (hb : Ledger newId history ds b) (hstep : Shift newId b d b') :
    accepted (ds ++ [d]) = begun (ds ++ [d]) ++ b'.queue := by
  rw [accepted_concat, begun_concat, hb.order]
  cases hstep with
  | accept | refuse | quiet | escape => simp [Deed.accepted?, Deed.begun?]
  | take _ hqueue _ | miss hqueue _ => simp [Deed.accepted?, Deed.begun?, hqueue]
  | finish hd _ _ | lose hd _ _ => rcases hd with rfl | rfl <;> simp [Deed.accepted?, Deed.begun?]

/-- A job that is executed is done with. -/
theorem begun_perm_of_left (hb : Ledger newId history ds b) {current : List Nat}
    (hcurrent : b.current.Perm (n :: current)) (hbegun : d.begun? = none)
    (hleft : d.left? = some n) : (begun (ds ++ [d])).Perm (left (ds ++ [d]) ++ current) := by
  rw [begun_concat, left_concat, hbegun, hleft, Option.toList_none, Option.toList_some,
    List.append_nil, List.append_assoc]
  exact hb.begun_perm.trans (hcurrent.append_left _)

theorem begun_perm_shift (hb : Ledger newId history ds b) (hstep : Shift newId b d b') :
    (begun (ds ++ [d])).Perm (left (ds ++ [d]) ++ b'.current) := by
  cases hstep with
  | accept | refuse | quiet =>
    simpa [begun_concat, left_concat, Deed.begun?, Deed.left?] using hb.begun_perm
  | @take n rest current job script hcurrent hqueue hentry =>
    have hleft : left (ds ++ [.began n]) = left ds := by rw [left_concat]; exact List.append_nil _
    rw [begun_concat, hleft]
    -- the job is the last one that was begun, and one of those that are executed
    refine (List.perm_append_singleton n _).trans ((hb.begun_perm.cons n).trans ?_)
    refine List.perm_middle.symm.trans ?_
    exact hcurrent.symm.append_left _
  | miss hqueue hentry => exact (hb.not_miss hqueue hentry).elim
  | finish hd hcurrent _ | lose hd hcurrent _ =>
    rcases hd with rfl | rfl <;> exact hb.begun_perm_of_left hcurrent rfl rfl
  | escape hcurrent => exact hb.begun_perm_of_left hcurrent rfl rfl

theorem ascending_shift (hb : Ledger newId history ds b) (hstep : Shift newId b d b') :
    (accepted (ds ++ [d])).Pairwise (· < ·) ∧ ∀ n ∈ accepted (ds ++ [d]), n < b'.entries.length := by
  rw [accepted_concat]
  cases hstep with
  | accept =>
    refine ⟨List.pairwise_append.mpr ⟨hb.ascending, List.pairwise_singleton _ _, ?_⟩, ?_⟩
    · intro m hm n hn
      rw [List.mem_singleton.mp hn]
      exact hb.bounded m hm
    · intro n hn
      rw [List.length_append, List.length_singleton]
      rcases List.mem_append.mp hn with hn | hn
      · exact Nat.lt_succ_of_lt (hb.bounded n hn)
      · rw [List.mem_singleton.mp hn]
        exact Nat.lt_succ_self _
  | refuse =>
    simp only [Deed.accepted?, Option.toList_none, List.append_nil, List.length_append]
    exact ⟨hb.ascending, fun n hn => Nat.lt_add_right _ (hb.bounded n hn)⟩
  | take | miss | quiet | escape =>
    simp only [Deed.accepted?, Option.toList_none, List.append_nil, List.length_set]
    exact ⟨hb.ascending, hb.bounded⟩
  | finish hd _ _ | lose hd _ _ =>
    rcases hd with rfl | rfl
    all_goals
      simp only [Deed.accepted?, Option.toList_none, List.append_nil, List.length_set]
      exact ⟨hb.ascending, hb.bounded⟩

theorem stands_shift (hb : Ledger newId history ds b) (hstep : Shift newId b d b') :
    ∀ n x, b'.entries[n]? = some x → Stands (ds ++ [d]) n x := by
  intro n x hx
  cases hstep with
  | accept _ hstatus hunfinished | refuse _ hstatus hunfinished =>
    rcases entry_of_concat hx with hx | ⟨rfl, rfl⟩
    · exact (hb.stands n x hx).concat (by simp [Deed.begun?]) (by simp [Deed.finished?])
    · -- nothing has been done about the new job, since its slot was not there
      refine Stands.concat (.waits (fun hbegun => ?_) ⟨hstatus, rfl, hunfinished⟩)
        (by simp [Deed.begun?]) (by simp [Deed.finished?])
      exact Nat.lt_irrefl _ (hb.bounded _ (hb.accepted_of_mem_begun hbegun))
  | quiet | escape =>
    exact (hb.stands n x hx).concat (by simp [Deed.begun?]) (by simp [Deed.finished?])
  | @take m rest _ job script _ hqueue hentry =>
    rcases entry_of_set hx with ⟨rfl, rfl⟩ | ⟨hnm, hx⟩
    · -- the job was in the queue, so that it has not been begun before
      have hmem : n ∈ b.queue := by simp [hqueue]
      obtain ⟨y, hy, hwaits⟩ := hb.waits_of_mem_queue hmem
      obtain rfl := Option.some.inj (hentry.symm.trans hy)
      refine .runs ?_ ?_ ⟨rfl, rfl, hwaits.finished⟩
      · simp [begun_concat, Deed.begun?]
      · have hnot := mt hb.begun_of_mem_finished (hb.not_begun_of_mem_queue hmem)
        simpa [finished_concat, Deed.finished?] using hnot
    · exact (hb.stands n x hx).concat (by simpa [Deed.begun?] using hnm.symm)
        (by simp [Deed.finished?])
  | miss hqueue hentry => exact (hb.not_miss hqueue hentry).elim
  | @finish _ m _ job script ending steps error now hd hcurrent hentry =>
    rcases entry_of_set hx with ⟨rfl, rfl⟩ | ⟨hnm, hx⟩
    · obtain ⟨y, hy, hruns⟩ := hb.runs_of_current (hcurrent.mem_iff.mpr List.mem_cons_self)
      obtain rfl := Option.some.inj (hentry.symm.trans hy)
      refine .ended ?_ ⟨⟨ending, rfl⟩, hruns.script, rfl⟩
      rcases hd with rfl | rfl <;> simp [finished_concat, Deed.finished?]
    · refine (hb.stands n x hx).concat ?_ ?_
      all_goals rcases hd with rfl | rfl <;> simp [Deed.begun?, Deed.finished?, hnm.symm]
  | lose _ hcurrent hentry =>
    exact (hb.not_lose (hcurrent.mem_iff.mpr List.mem_cons_self) hentry).elim

theorem ids_shift (hb : Ledger newId history ds b) (hstep : Shift newId b d b') :
    ∀ n x, b'.entries[n]? = some x → x.job.id = newId n := by
  intro n x hx
  cases hstep with
  | accept hid _ _ | refuse hid _ _ =>
    rcases entry_of_concat hx with hx | ⟨rfl, rfl⟩
    · exact hb.ids n x hx
    · exact hid
  | quiet | escape | miss | lose => exact hb.ids n x hx
  | take _ _ hentry | finish _ _ hentry =>
    rcases entry_of_set hx with ⟨rfl, rfl⟩ | ⟨-, hx⟩
    · have hid := hb.ids n _ hentry
      exact hid
    · exact hb.ids n x hx

theorem replies_shift (hb : Ledger newId history ds b) (hstep : Shift newId b d b') :
    ∀ n id, .submitted n (.ok id) ∈ ds ++ [d] → id = newId n := by
  intro n id hmem
  rcases List.mem_append.mp hmem with hmem | hmem
  · exact hb.replies n id hmem
  · obtain rfl := List.mem_singleton.mp hmem
    cases hstep with
    | accept => rfl
    | finish hd _ _ | lose hd _ _ => rcases hd with hd | hd <;> cases hd

/-- The entries of finished jobs stay. -/
theorem entries_of_finished (hb : Ledger newId history ds b) (hstep : Shift newId b d b')
    (hn : n ∈ finished ds) : b'.entries[n]? = b.entries[n]? := by
  have hbegun := hb.begun_of_mem_finished hn
  have hlt := hb.bounded n (hb.accepted_of_mem_begun hbegun)
  cases hstep with
  | accept | refuse => exact List.getElem?_append_left hlt
  | quiet | escape | miss | lose => rfl
  | @take m rest _ job script _ hqueue _ =>
    refine List.getElem?_set_ne fun hmn => ?_
    subst hmn
    exact hb.not_begun_of_mem_queue (by simp [hqueue]) hbegun
  | @finish _ m _ job script ending steps error now _ hcurrent _ =>
    refine List.getElem?_set_ne fun hmn => ?_
    subst hmn
    exact hb.not_finished_of_current (hcurrent.mem_iff.mpr List.mem_cons_self) hn

/-- **A record is entered when its job is finished, and at no other time.** -/
theorem history_step (hb : Ledger newId history ds b) (hstep : Shift newId b d b') :
    (d.finished? = none ∧ b'.history = b.history) ∨
      ∃ n x, d.finished? = some n ∧ n ∉ finished ds ∧ b'.entries[n]? = some x ∧
        b'.history = b.history.append x.job.record := by
  cases hstep with
  | accept | refuse | quiet | take | miss | escape => exact .inl ⟨rfl, rfl⟩
  | @finish _ m _ job script ending steps error now hd hcurrent hentry =>
    have hlt := (List.getElem?_eq_some_iff.mp hentry).1
    have hm : d.finished? = some m := by rcases hd with rfl | rfl <;> rfl
    have hnot := hb.not_finished_of_current (hcurrent.mem_iff.mpr List.mem_cons_self)
    exact .inr ⟨m, _, hm, hnot, List.getElem?_set_self hlt, rfl⟩
  | lose _ hcurrent hentry =>
    exact (hb.not_lose (hcurrent.mem_iff.mpr List.mem_cons_self) hentry).elim

/-- The history has had the records of the finished jobs; earlier ones do not change. -/
theorem history_shift (hb : Ledger newId history ds b) (hstep : Shift newId b d b') :
    b'.history = history.enter (recordsOf b'.entries (finished (ds ++ [d]))) := by
  have hsame : recordsOf b'.entries (finished ds) = recordsOf b.entries (finished ds) :=
    recordsOf_congr fun n hn => hb.entries_of_finished hstep hn
  rw [finished_concat]
  rcases hb.history_step hstep with ⟨hd, hhistory⟩ | ⟨n, x, hd, -, hx, hhistory⟩
  · rw [hd, Option.toList_none, List.append_nil, hsame, hhistory, hb.history_eq]
  · rw [hd, Option.toList_some, recordsOf_concat hx, hsame, History.enter_concat,
      ← hb.history_eq, hhistory]

/-- **Every change of a board keeps the ledger.** -/
theorem shift (hb : Ledger newId history ds b) (hstep : Shift newId b d b') :
    Ledger newId history (ds ++ [d]) b' where
  order := hb.order_shift hstep
  begun_perm := hb.begun_perm_shift hstep
  ascending := (hb.ascending_shift hstep).1
  bounded := (hb.ascending_shift hstep).2
  stands := hb.stands_shift hstep
  ids := hb.ids_shift hstep
  replies := hb.replies_shift hstep
  history_eq := hb.history_shift hstep

end Ledger

/-! ## Courses -/

/-- A scheduler to which nothing has been submitted yet. -/
def Scheduler.fresh (history : History) (game : β) : Scheduler ω β := { history, game }

theorem Ledger.fresh (newId : Nat → Text) (history : History) (game : β) :
    Ledger newId history [] (Scheduler.fresh (ω := ω) history game).board where
  order := rfl
  begun_perm := .refl _
  ascending := .nil
  bounded := nofun
  stands n x hx := absurd hx (by simp [Scheduler.board, Scheduler.fresh])
  ids n x hx := absurd hx (by simp [Scheduler.board, Scheduler.fresh])
  replies n id hmem := absurd hmem List.not_mem_nil
  history_eq := rfl

/-- **A course is accounted for.** -/
theorem Course.ledger {game : β} (hs : Course c (Scheduler.fresh history game) ds s) :
    Ledger c.newId history ds s.board := by
  induction hs with
  | refl => exact .fresh c.newId history game
  | tail _ hstep ih => exact ih.shift hstep.shift

/-! ## Jobs at rest -/

/-- The job in slot `n` is not executed, and it is not going to be. -/
structure Board.Rests (b : Board) (n : Nat) : Prop where
  exists_entry : n < b.entries.length
  not_current : n ∉ b.current
  not_queued : n ∉ b.queue

/-- **No change concerns a job at rest.** -/
theorem Shift.rests (hstep : Shift newId b d b') (hn : b.Rests n) :
    b'.Rests n ∧ b'.entries[n]? = b.entries[n]? ∧ d.begun? ≠ some n := by
  obtain ⟨hlt, hcurrent, hqueue⟩ := hn
  have hgone {m : Nat} {current : List Nat} (h : b.current.Perm (m :: current)) :
      m ≠ n ∧ n ∉ current := by
    rw [h.mem_iff, List.mem_cons, not_or] at hcurrent
    exact ⟨fun hmn => hcurrent.1 hmn.symm, hcurrent.2⟩
  cases hstep with
  | accept =>
    have hnot : n ∉ b.queue ++ [b.entries.length] := by
      simpa [hqueue] using Nat.ne_of_lt hlt
    refine ⟨⟨?_, hcurrent, hnot⟩, List.getElem?_append_left hlt, nofun⟩
    simpa using Nat.lt_succ_of_lt hlt
  | refuse =>
    refine ⟨⟨?_, hcurrent, hqueue⟩, List.getElem?_append_left hlt, nofun⟩
    simpa using Nat.lt_succ_of_lt hlt
  | quiet => exact ⟨⟨hlt, hcurrent, hqueue⟩, rfl, nofun⟩
  | @take m rest current job script hperm hq _ =>
    rw [hq, List.mem_cons, not_or] at hqueue
    have hmn : m ≠ n := fun h => hqueue.1 h.symm
    have hnot : n ∉ current := by
      rw [hperm.mem_iff, List.mem_cons, not_or]
      exact ⟨hqueue.1, hcurrent⟩
    refine ⟨⟨?_, hnot, hqueue.2⟩, List.getElem?_set_ne hmn, fun h => hmn (Option.some.inj h)⟩
    simpa using hlt
  | @miss m rest hq _ =>
    rw [hq, List.mem_cons, not_or] at hqueue
    exact ⟨⟨hlt, hcurrent, hqueue.2⟩, rfl, fun h => hqueue.1 (Option.some.inj h).symm⟩
  | finish hd hperm _ =>
    refine ⟨⟨?_, (hgone hperm).2, hqueue⟩, List.getElem?_set_ne (hgone hperm).1, ?_⟩
    · simpa using hlt
    · rcases hd with rfl | rfl <;> exact nofun
  | lose hd hperm _ =>
    refine ⟨⟨hlt, (hgone hperm).2, hqueue⟩, rfl, ?_⟩
    rcases hd with rfl | rfl <;> exact nofun
  | escape hperm => exact ⟨⟨hlt, (hgone hperm).2, hqueue⟩, rfl, nofun⟩

/-- What is done with is at rest. -/
theorem Ledger.rests_of_left (hb : Ledger newId history ds b) (hn : n ∈ left ds) :
    b.Rests n := by
  have hbegun := hb.mem_begun_iff.mpr (.inl hn)
  exact {
    exists_entry := hb.bounded n (hb.accepted_of_mem_begun hbegun)
    not_current := fun h => hb.not_left_of_current h hn
    not_queued := fun h => hb.not_begun_of_mem_queue h hbegun }

end Dialogue.Jobs
