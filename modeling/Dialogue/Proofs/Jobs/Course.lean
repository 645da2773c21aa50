import Dialogue.Jobs.Scheduler
import Dialogue.Proofs.Machine.Late
import Mathlib.Data.List.Basic

/-!
# What can happen to a scheduler

Whatever a scheduler is in the middle of, scripts can be submitted to it and its worker can be
started and stopped. In between, the worker takes jobs and makes turns of them, and a job whose
prompt or timer keeps it waiting is held until the call comes back, if it does. Stopping is one step:
the worker is gone, and the job that it had is cancelled. Where others may act while it is waited for,
it takes several (`Crew.Step`), and they come to this one as long as no worker is started meanwhile
(`Crew.Course.scheduled`).

* `Deed`: what a step does about the jobs; `accepted`, `begun`, `finished`, `left`: the jobs of a list
  of deeds, by the numbers of their slots;
* `mem_left_iff`, `finished_eq_left`: the worker is done with a job when it is finished or has been
  left with an error;
* `Happens`: all single steps, and `Course`: any number of them in any order;
* `Scheduler.tick?_cases`: what happens by itself; `Happens.of_tick`: it is among them;
* `Happens.refuses`: the worker leaves a job that has not ended only when its display refuses the
  line that reports a fault; `Course.not_escaped`: on other displays it leaves none;
* `Setup.plain`: a setup for courses that are written out.
-/

namespace Dialogue.Jobs

open Text Machine Time

/-! ## Deeds -/

/-- What a step of a scheduler does about a job, which is named by the number of its slot. -/
inductive Deed where
  /-- A script was submitted, with this reply. -/
  | submitted (n : Nat) (reply : Except QueueFull Text)
  /-- The worker took the job out of the queue. -/
  | began (n : Nat)
  /-- The job came to its end, and the worker is done with it. -/
  | ended (n : Nat)
  /-- The job was cancelled, and its worker dismissed. -/
  | cancelled (n : Nat)
  /-- The worker left the job with an error that could not be reported. -/
  | escaped (n : Nat)
  | quiet

namespace Deed

/-- The job that was submitted and may wait. -/
def accepted? : Deed → Option Nat
  | submitted n (.ok _) => some n
  | _ => none

/-- The job that was begun. -/
def begun? : Deed → Option Nat
  | began n => some n
  | _ => none

/-- The job that has an ending now. -/
def finished? : Deed → Option Nat
  | ended n | cancelled n => some n
  | _ => none

/-- The job that the worker is done with, whatever became of it. -/
def left? : Deed → Option Nat
  | ended n | cancelled n | escaped n => some n
  | _ => none

end Deed

/-- The jobs that were accepted, in order of submission. -/
def accepted (ds : List Deed) : List Nat := ds.filterMap Deed.accepted?

/-- The jobs that were begun, in that order. -/
def begun (ds : List Deed) : List Nat := ds.filterMap Deed.begun?

/-- The jobs that were finished, in that order. -/
def finished (ds : List Deed) : List Nat := ds.filterMap Deed.finished?

/-- The jobs that the worker is done with, in that order. -/
def left (ds : List Deed) : List Nat := ds.filterMap Deed.left?

theorem accepted_concat (ds : List Deed) (d : Deed) :
    accepted (ds ++ [d]) = accepted ds ++ d.accepted?.toList := by
  cases h : d.accepted? <;> simp [accepted, h]

theorem begun_concat (ds : List Deed) (d : Deed) :
    begun (ds ++ [d]) = begun ds ++ d.begun?.toList := by
  cases h : d.begun? <;> simp [begun, h]

theorem finished_concat (ds : List Deed) (d : Deed) :
    finished (ds ++ [d]) = finished ds ++ d.finished?.toList := by
  cases h : d.finished? <;> simp [finished, h]

theorem finished_append (ds es : List Deed) : finished (ds ++ es) = finished ds ++ finished es :=
  List.filterMap_append

theorem left_concat (ds : List Deed) (d : Deed) :
    left (ds ++ [d]) = left ds ++ d.left?.toList := by
  cases h : d.left? <;> simp [left, h]

theorem finished_sublist_left (ds : List Deed) : (finished ds).Sublist (left ds) := by
  induction ds with
  | nil => exact .slnil
  | cons d ds ih =>
    cases d with
    | ended n | cancelled n => exact ih.cons_cons n
    | escaped n => exact ih.cons n
    | submitted n reply | began n | quiet => exact ih

theorem Deed.left?_eq_some_iff {d : Deed} {n : Nat} :
    d.left? = some n ↔ d.finished? = some n ∨ d = .escaped n := by
  cases d <;> simp [left?, finished?]

/-- The worker is done with a job when it is finished or has been left with an error. -/
theorem mem_left_iff {ds : List Deed} {n : Nat} :
    n ∈ left ds ↔ n ∈ finished ds ∨ Deed.escaped n ∈ ds := by
  simp [left, finished, Deed.left?_eq_some_iff, and_or_left, exists_or]

/-- Where no job was left with an error, all that the worker is done with is finished. -/
theorem finished_eq_left {ds : List Deed} (h : ∀ n, Deed.escaped n ∉ ds) : finished ds = left ds :=
  List.filterMap_congr fun d hd => by
    cases d with
    | escaped n => exact absurd hd (h n)
    | submitted | began | ended | cancelled | quiet => rfl

/-- A job that was left with an error is not finished, unless the worker is done with it twice. -/
theorem not_finished_of_escaped {ds : List Deed} {n : Nat} (hnodup : (left ds).Nodup)
    (hn : Deed.escaped n ∈ ds) : n ∉ finished ds := by
  induction ds with
  | nil => cases hn
  | cons d ds ih =>
    cases d with
    | escaped m =>
      obtain ⟨hm, hrest⟩ := List.nodup_cons.mp hnodup
      rcases List.mem_cons.mp hn with hn | hn
      · cases hn
        exact fun h => hm ((finished_sublist_left ds).subset h)
      · exact ih hrest hn
    | ended m | cancelled m =>
      obtain ⟨hm, hrest⟩ := List.nodup_cons.mp hnodup
      have hmem := (List.mem_cons.mp hn).resolve_left nofun
      intro h
      rcases List.mem_cons.mp h with rfl | h
      · exact hm (mem_left_iff.mpr (.inr hmem))
      · exact ih hrest hmem h
    | submitted | began | quiet => exact ih hnodup ((List.mem_cons.mp hn).resolve_left nofun)

theorem Deed.accepted?_eq_some_iff {d : Deed} {n : Nat} :
    d.accepted? = some n ↔ ∃ id, d = .submitted n (.ok id) := by
  cases d with
  | submitted m reply => cases reply <;> simp [accepted?]
  | began m | ended m | cancelled m | escaped m | quiet => simp [accepted?]

theorem mem_accepted_iff {ds : List Deed} {n : Nat} :
    n ∈ accepted ds ↔ ∃ id, Deed.submitted n (.ok id) ∈ ds := by
  rw [accepted, List.mem_filterMap]
  constructor
  · rintro ⟨d, hd, hn⟩
    obtain ⟨id, rfl⟩ := Deed.accepted?_eq_some_iff.mp hn
    exact ⟨id, hd⟩
  · rintro ⟨id, hd⟩
    exact ⟨_, hd, rfl⟩

/-! ## Steps -/

variable {ω β : Type} {c : Setup ω β} {s t u : Scheduler ω β} {d : Deed} {ds es : List Deed}

/-- What a turn does about the job in slot `n`. -/
def deedOf (n : Nat) : Turn ω β → Deed
  | .again _ | .held _ => .quiet
  | .ended _ => .ended n
  | .escaped _ _ => .escaped n

/-- One step of a scheduler. -/
inductive Happens (c : Setup ω β) : Scheduler ω β → Deed → Scheduler ω β → Prop
  | submit (s : Scheduler ω β) (source : Text) (output : ω) (name : Option Text) :
      Happens c s (.submitted s.slots.length (s.submit c source output name).1)
        (s.submit c source output name).2
  | start (s : Scheduler ω β) : Happens c s .quiet s.start
  /-- A worker that executes no job is stopped. -/
  | dismiss {s : Scheduler ω β} (hs : s.execution? = none) : Happens c s .quiet (s.stop c).2
  /-- The worker is stopped in the middle of a job, which may be held. -/
  | cancel {s : Scheduler ω β} {e : Execution ω β} (he : s.execution? = some e) :
      Happens c s (.cancelled e.slot) (s.stop c).2
  /-- The worker takes the next job. -/
  | take {s : Scheduler ω β} {n : Nat} {rest : List Nat} (hidle : s.worker = .idle)
      (hqueue : s.queue = n :: rest) : Happens c s (.began n) (s.begin c n rest)
  /-- The worker makes a turn of its job. -/
  | turn {s : Scheduler ω β} {e : Execution ω β} (hbusy : s.worker = .busy e) :
      Happens c s (deedOf e.slot (e.session.turn c.host e.program c.limit))
        (s.follow c e (e.session.turn c.host e.program c.limit))
  /-- The prompt or the timer of a job that was held comes back. -/
  | late {s : Scheduler ω β} {e : Execution ω β} {turn : Turn ω β} (hheld : s.worker = .held e)
      (hlate : e.session.Late c.host e.program turn) :
      Happens c s (deedOf e.slot turn) (s.follow c e turn)
  /-- Something else happens on the display of the job that is executed. -/
  | display (s : Scheduler ω β) (f : ω → ω) : Happens c s .quiet (s.onDisplay f)

/-- Any number of steps, with what they did. -/
inductive Course (c : Setup ω β) (s : Scheduler ω β) : List Deed → Scheduler ω β → Prop
  | refl : Course c s [] s
  | tail {ds : List Deed} {t : Scheduler ω β} {d : Deed} {u : Scheduler ω β}
      (hst : Course c s ds t) (htu : Happens c t d u) : Course c s (ds ++ [d]) u

/-- The last step of a course. -/
theorem Course.last (hsu : Course c s (ds ++ [d]) u) : ∃ t, Course c s ds t ∧ Happens c t d u := by
  generalize hes : ds ++ [d] = es at hsu
  cases hsu with
  | refl => simp at hes
  | tail hst hstep =>
    obtain ⟨rfl, hd⟩ := List.append_inj' hes rfl
    obtain rfl := List.singleton_inj.mp hd
    exact ⟨_, hst, hstep⟩

/-- What happens by itself: an idle worker takes the next job, and a busy one makes a turn. -/
theorem Scheduler.tick?_cases (ht : s.tick? c = some t) :
    (∃ n rest, s.worker = .idle ∧ s.queue = n :: rest ∧ t = s.begin c n rest) ∨
      ∃ e, s.worker = .busy e ∧ t = s.follow c e (e.session.turn c.host e.program c.limit) := by
  unfold Scheduler.tick? at ht
  split at ht
  · rename_i n rest hidle hqueue
    exact .inl ⟨n, rest, hidle, hqueue, (Option.some.inj ht).symm⟩
  · rename_i e hbusy
    exact .inr ⟨e, hbusy, (Option.some.inj ht).symm⟩
  · cases ht

/-- **What happens by itself is a step.** -/
theorem Happens.of_tick (ht : s.tick? c = some t) : ∃ d, Happens c s d t := by
  obtain ⟨n, rest, hidle, hqueue, rfl⟩ | ⟨e, hbusy, rfl⟩ := Scheduler.tick?_cases ht
  · exact ⟨_, .take hidle hqueue⟩
  · exact ⟨_, .turn hbusy⟩

theorem follow_escaped {n : Nat} {e : Execution ω β} {turn : Turn ω β}
    (hturn : deedOf e.slot turn = .escaped n) :
    ∃ trouble x, turn = .escaped trouble x ∧ (s.follow c e turn).worker = .dead trouble := by
  cases turn with
  | again x | ended x | held x => cases hturn
  | escaped trouble x => exact ⟨trouble, x, rfl, rfl⟩

/-- **The worker leaves a job that has not ended only when a report is refused**, and it dies of
that. -/
theorem Happens.refuses {n : Nat} (hstep : Happens c s d t) (hd : d = .escaped n) :
    ∃ trouble, c.host.Refuses trouble ∧ t.worker = .dead trouble := by
  cases hstep with
  | turn hbusy =>
    obtain ⟨trouble, x, hturn, hdead⟩ := follow_escaped (c := c) (s := s) hd
    exact ⟨trouble, Session.refuses_of_turn hturn, hdead⟩
  | late hheld hlate =>
    obtain ⟨trouble, x, hturn, hdead⟩ := follow_escaped (c := c) (s := s) hd
    exact ⟨trouble, Session.refuses_of_late hlate hturn, hdead⟩
  | submit | start | dismiss | cancel | take | display => cases hd

/-- On displays that take every line no job is left. -/
theorem Course.not_escaped (hline : ∀ trouble, ¬ c.host.Refuses trouble) (hst : Course c s ds t)
    (n : Nat) : Deed.escaped n ∉ ds := by
  induction hst with
  | refl => exact List.not_mem_nil
  | tail _ hstep ih =>
    intro hmem
    rcases List.mem_append.mp hmem with hmem | hmem
    · exact ih hmem
    · obtain ⟨trouble, hrefuses, -⟩ := hstep.refuses (List.mem_singleton.mp hmem).symm
      exact hline trouble hrefuses

/-! ## A plain setup -/

/-- A setup without commands, with identifiers by length and a second between two readings of the
clock. -/
def Setup.plain (host : Host ω β) (capacity : Int) : Setup ω β where
  host := host
  catalog := { table := [], aliases := [] }
  capacity := capacity
  clock := Timestamp.ofSeconds
  newId n := List.replicate n 'a'

end Dialogue.Jobs
