import Dialogue.Console.Terminal
import Dialogue.Proofs.Machine.Prompts

/-!
# The prompt of a terminal

A terminal asks for the number of an option until it reads one. The numbers of options count from
one and those that the machine takes from zero; so what the prompt gives is one less than what it has
read, and it always fits the machine, which waits with one option at least.

* `Reading.Misses`: a number that no option has; `pick_append`: the prompt asks again after each;
* `Answers`: what a prompt reads and gives. **`answers_iff`** says that this is what the terminal does;
* `terminal_fitting`: what it gives is an option that there is, or none;
* `Prompted`: the turn in which a machine asks the terminal, and can go on with what it gives;
* **`terminal_satisfies`**: every turn that asks is such a one, there is no prompt without options,
  and no run fails because of what is typed.
-/

namespace Dialogue.Console

open Text Machine

variable {count : Nat} {wrong rs left : List Reading} {numbered : Nat → Text → Text} {t : Terminal}
  {options : List Text} {reply : Awaited (Option Int)}

/-! ## Reading a number -/

/-- A number is read, and it is that of no option. -/
def Reading.Misses (count : Nat) (r : Reading) : Prop :=
  ∃ n, r.number = some n ∧ ¬ (1 ≤ n ∧ n ≤ count)

/-- **After a number that no option has, the prompt asks again**, and says which numbers there are. -/
theorem pick_append (hwrong : ∀ w ∈ wrong, w.Misses count) (rs : List Reading) :
    pick count (wrong ++ rs) = ((pick count rs).1,
      wrong.flatMap (fun w => w.shown ++ refusal count) ++ (pick count rs).2.1,
      (pick count rs).2.2) := by
  induction wrong with
  | nil => rfl
  | cons w wrong ih =>
    obtain ⟨⟨n, hn, hmiss⟩, hwrong⟩ := List.forall_mem_cons.mp hwrong
    rw [List.cons_append, pick, hn]
    simp only [if_neg hmiss, ih hwrong, List.flatMap_cons, List.append_assoc]

/-- What is read first and is not refused: the number of an option, or that the prompt is dismissed. -/
theorem exists_first (count : Nat) (rs : List Reading) :
    (∀ w ∈ rs, w.Misses count) ∨ ∃ wrong r rest, rs = wrong ++ r :: rest ∧
      (∀ w ∈ wrong, w.Misses count) ∧ ¬ r.Misses count := by
  induction rs with
  | nil => exact .inl nofun
  | cons r rest ih =>
    by_cases hr : r.Misses count
    · rcases ih with hall | ⟨wrong, s, left, rfl, hwrong, hs⟩
      · exact .inl (List.forall_mem_cons.mpr ⟨hr, hall⟩)
      · exact .inr ⟨r :: wrong, s, left, rfl, List.forall_mem_cons.mpr ⟨hr, hwrong⟩, hs⟩
    · exact .inr ⟨[], r, rest, rfl, nofun, hr⟩

/-- What a prompt for one of `count` options reads of what the terminal has, and what it gives; the
last list is what it leaves. -/
inductive Answers (count : Nat) (t : Terminal) : Awaited (Option Int) → List Reading → Prop
  /-- The first number that an option has: options are counted from one, and given from zero. -/
  | chosen {wrong rest : List Reading} {r : Reading} {n : Int}
      (hreadings : t.readings = wrong ++ r :: rest) (hwrong : ∀ w ∈ wrong, w.Misses count)
      (hr : r.number = some n) (hone : 1 ≤ n) (hcount : n ≤ count) :
      Answers count t (.back (.ok (some (n - 1)))) rest
  /-- It is dismissed before such a number is read. -/
  | dismissed {wrong rest : List Reading} {r : Reading}
      (hreadings : t.readings = wrong ++ r :: rest) (hwrong : ∀ w ∈ wrong, w.Misses count)
      (hr : r.number = none) : Answers count t (.back (.ok none)) rest
  /-- The input ends before such a number is read. -/
  | ended (hwrong : ∀ w ∈ t.readings, w.Misses count) (hended : t.ended = true) :
      Answers count t (.back (.ok none)) []
  /-- Such a number is yet to be typed. -/
  | awaiting (hwrong : ∀ w ∈ t.readings, w.Misses count) (hended : t.ended = false) :
      Answers count t .pending []

/-! ## Asking for an option -/

theorem choose_readings (numbered : Nat → Text → Text) (options : List Text) (t : Terminal) :
    (t.choose numbered options).2.readings = (pick options.length t.readings).2.2 := by
  rw [Terminal.choose]
  rcases pick options.length t.readings with ⟨_ | _ | _, shown, left⟩ <;> rfl

theorem choose_reply (numbered : Nat → Text → Text) (options : List Text) (t : Terminal) :
    (t.choose numbered options).1 = match (pick options.length t.readings).1 with
      | .chosen i => .back (.ok (some (i : Int)))
      | .dismissed => .back (.ok none)
      | .unanswered => if t.ended then .back (.ok none) else .pending := by
  rw [Terminal.choose]
  rcases pick options.length t.readings with ⟨_ | _ | _, shown, left⟩ <;> rfl

/-- The prompt of a terminal reads and gives that. -/
theorem Answers.choose (h : Answers options.length t reply left) :
    (t.choose numbered options).1 = reply ∧ (t.choose numbered options).2.readings = left := by
  rw [choose_reply, choose_readings]
  cases h with
  | @chosen wrong rest r n hreadings hwrong hr hone hcount =>
    have hnat : ((n - 1).toNat : Int) = n - 1 := Int.toNat_of_nonneg (by omega)
    rw [hreadings, pick_append hwrong, pick, hr]
    simp only [if_pos (And.intro hone hcount), hnat, and_self]
  | dismissed hreadings hwrong hr =>
    rw [hreadings, pick_append hwrong, pick, hr]
    exact ⟨rfl, rfl⟩
  | ended hwrong hended =>
    rw [← List.append_nil t.readings, pick_append hwrong, hended]
    exact ⟨rfl, rfl⟩
  | awaiting hwrong hended =>
    rw [← List.append_nil t.readings, pick_append hwrong, hended]
    exact ⟨rfl, rfl⟩

theorem exists_answers (count : Nat) (t : Terminal) : ∃ reply left, Answers count t reply left := by
  rcases exists_first count t.readings with hwrong | ⟨wrong, r, rest, hreadings, hwrong, hr⟩
  · cases hended : t.ended with
    | true => exact ⟨_, _, .ended hwrong hended⟩
    | false => exact ⟨_, _, .awaiting hwrong hended⟩
  · cases hnumber : r.number with
    | none => exact ⟨_, _, .dismissed hreadings hwrong hnumber⟩
    | some n =>
      have hrange : 1 ≤ n ∧ n ≤ count :=
        Decidable.byContradiction fun hmiss => hr ⟨n, hnumber, hmiss⟩
      exact ⟨_, _, .chosen hreadings hwrong hnumber hrange.1 hrange.2⟩

/-- **What the prompt of a terminal reads and gives**: the first number that an option has, less one,
or nothing if it is dismissed before that. -/
theorem answers_iff (numbered : Nat → Text → Text) : Answers options.length t reply left ↔
    (t.choose numbered options).1 = reply ∧ (t.choose numbered options).2.readings = left := by
  refine ⟨Answers.choose, ?_⟩
  rintro ⟨rfl, rfl⟩
  -- something is read and given, and it can only be what the terminal does
  obtain ⟨reply, left, h⟩ := exists_answers options.length t
  obtain ⟨hreply, hleft⟩ := h.choose
  rwa [hreply, hleft]

/-! ## Machines that ask -/

variable {β : Type} {p : Program} {x : Session Terminal β}

/-- **What the prompt of a terminal gives fits.** -/
theorem terminal_fitting (numbered : Nat → Text → Text) (bridge : Option (Bridge β)) :
    (Host.terminal numbered bridge).Fitting := by
  intro options output answer hanswer
  obtain ⟨reply, left, h⟩ := exists_answers options.length output
  have hreply : reply = .back answer := h.choose.1.symm.trans hanswer
  cases h with
  | chosen _ _ _ hone hcount =>
    cases hreply
    exact ⟨_, rfl, fun i hi => by obtain rfl := Option.some.inj hi; omega⟩
  | dismissed | ended =>
    cases hreply
    exact ⟨none, rfl, nofun⟩
  | awaiting => cases hreply

/-- The turn of a machine that waits for a choice, on a terminal. -/
structure Prompted (numbered : Nat → Text → Text) (bridge : Option (Bridge β)) (p : Program)
    (limit : Option Int) (x : Session Terminal β) : Prop where
  /-- There is an option to choose. -/
  options_ne_nil : x.state.options ≠ []
  /-- The prompt reads up to the first number that an option has, and gives it less one, or nothing;
  and once it has given something, this is taken and the run goes on. -/
  answered : ∃ reply output, x.output.choose numbered x.state.options = (reply, output) ∧
    Answers x.state.options.length x.output reply output.readings ∧
    ((∃ index s, reply = .back (.ok index) ∧ x.state.resumeChoice p index = .ok s ∧
        x.turn (Host.terminal numbered bridge) p limit =
          .again { x with state := s, output, log := .prompt x.state.options :: x.log }) ∨
      (reply = .pending ∧ x.turn (Host.terminal numbered bridge) p limit =
        .held { x with output, log := .prompt x.state.options :: x.log }))

/-- **The prompt of a terminal fits a machine that waits for a choice.** -/
theorem prompted_of_waits (numbered : Nat → Text → Text) (bridge : Option (Bridge β))
    (limit : Option Int) (hx : x.state.Sound p) (hwait : x.state.phase = .waitingChoice) :
    Prompted numbered bridge p limit x where
  options_ne_nil := hx.options_ne_nil hwait
  answered := by
    rcases (terminal_fitting numbered bridge).turn hx hwait limit with
      ⟨index, s, output, hchoose, hs, hturn⟩ | ⟨output, hchoose, hturn⟩
    · have hcall : x.output.choose numbered x.state.options = (.back (.ok index), output) :=
        hchoose
      refine ⟨_, _, hcall, (answers_iff numbered).mpr ?_, .inl ⟨index, s, rfl, hs, hturn⟩⟩
      rw [hcall]
      exact ⟨rfl, rfl⟩
    · have hcall : x.output.choose numbered x.state.options = (.pending, output) := hchoose
      refine ⟨_, _, hcall, (answers_iff numbered).mpr ?_, .inr ⟨rfl, hturn⟩⟩
      rw [hcall]
      exact ⟨rfl, rfl⟩

/-- **A terminal always satisfies the machine.** On every machine that operations lead to, and in
every run of it: no prompt is shown without options; where the machine waits for a choice, the prompt
skips the numbers that no option has, gives the first other one less one, or nothing if it is
dismissed first, and that is taken. So a run that fails does not fail in a turn that asks the
prompt. -/
theorem terminal_satisfies (hx : Reachable p x) (numbered : Nat → Text → Text)
    (bridge : Option (Bridge β)) (limit : Option Int) :
    (∀ options ∈ x.prompts, options ≠ []) ∧
    (x.state.phase = .waitingChoice → Prompted numbered bridge p limit x) ∧
    ∀ fuel t, x.run (Host.terminal numbered bridge) p limit fuel = some t →
      ∃ xs, Loop (Host.terminal numbered bridge) p limit x xs t ∧
        t.session.prompts = x.prompts ++ xs.flatMap Session.asked ∧
        (∀ options ∈ t.session.prompts, options ≠ []) ∧
        (∀ z ∈ xs, z.state.phase = .waitingChoice → Prompted numbered bridge p limit z) ∧
        (x.state.phase ≠ .halted .failed → t.session.state.phase = .halted .failed →
          ∃ z ∈ xs, ∃ f y, Faults (Host.terminal numbered bridge) p limit z f y ∧
            z.state.phase ≠ .waitingChoice ∧ t.session.state.error = some f.report) := by
  refine ⟨hx.prompts_ne_nil, prompted_of_waits numbered bridge limit hx.sound, fun fuel t ht => ?_⟩
  obtain ⟨xs, hl⟩ := Session.loop_of_run ht
  have hsound := (hl.keeps (P := fun y => y.state.Sound p) (fun _ => Session.turn_sound) hx.sound).1
  refine ⟨xs, hl, hl.prompts, ?_, fun z hz => prompted_of_waits numbered bridge limit (hsound z hz),
    hl.exists_fault (terminal_fitting numbered bridge) hx.sound⟩
  exact Session.Optioned.loop hx.prompts_ne_nil hx.sound hl

/-- The number of no option twice, then that of the first one, and another one that is not needed. -/
def typed : List Reading :=
  [{ number := some 0 }, { number := some 5 }, { number := some 1 }, { number := some 7 }]

/-- An option behind its number. -/
def plainly (number : Nat) (option : Text) : Text := decimal number ++ ' ' :: option

/-- The machine that has shown the menu on a terminal. -/
def menuOffered : Session Terminal Unit :=
  ((Session.fresh Machine.menu { readings := typed } ()).step (Host.terminal plainly none)
    Machine.menu).2

theorem terminal_satisfies_menu :
    Reachable Machine.menu menuOffered ∧ Prompted plainly none Machine.menu none menuOffered ∧
      Answers menuOffered.state.options.length menuOffered.output (.back (.ok (some 0)))
        [{ number := some 7 }] ∧
      ∃ t, menuOffered.run (Host.terminal plainly none) Machine.menu none 2 = some t ∧
        t.session.prompts = [[ofString "Go"]] ∧ (∀ options ∈ t.session.prompts, options ≠ []) ∧
        t.session.state.phase = .halted .completed := by
  have hx : Reachable Machine.menu menuOffered := ⟨_, (), .single (.step _ _)⟩
  obtain ⟨-, hprompted, hruns⟩ := terminal_satisfies hx plainly none none
  obtain ⟨t, ht, hshown, hphase⟩ :
      ∃ t, menuOffered.run (Host.terminal plainly none) Machine.menu none 2 = some t ∧
        t.session.prompts = [[ofString "Go"]] ∧ t.session.state.phase = .halted .completed :=
    ⟨_, rfl, rfl, rfl⟩
  obtain ⟨-, -, -, hoptions, -⟩ := hruns 2 t ht
  exact ⟨hx, hprompted rfl, (answers_iff plainly).mpr ⟨rfl, rfl⟩, t, ht, hshown, hoptions, hphase⟩

end Dialogue.Console
