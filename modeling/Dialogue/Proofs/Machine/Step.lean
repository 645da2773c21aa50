import Dialogue.Machine.Step
import Dialogue.Proofs.Outcome

/-!
# What a step does to a machine

A step has two halves, reading a statement and fulfilling the request that it makes. Of the second
half the state sees little: the host decides whether the request is fulfilled and which way a
question is answered, all else is a function of state and request.

* `Requested`: all that a statement can ask for; **`requested`** says that it asks for nothing else,
  and `Request.Sound` is what holds of every request (`request_sound`);
* `State.fulfil`: the state after a request, without the host (`Session.fulfil_state`);
* `Unfulfilled`: why a request fails (`Session.unfulfilled`), and `Request.LeadsTo`: the markers that
  one may lead to (`Session.fulfil_leadsTo`);
* `Session.failed_of_step`, `Session.fulfilled_of_step`: a step that fails, and one that does not, opened;
  `Session.fault_of_step` and `Session.moved_of_step` say what they make of the state;
* `Stepped`: all that a step can do to a state. **`Session.stepped`** says that it does nothing else;
  the invariants of machines are read off it.
-/

namespace Dialogue.Machine

open Text Script

/-! ## Requests -/

/-- An option that is shown has a text, and a marker only if that has one. -/
def Offer.Sound (o : Offer) : Prop := o.text ≠ [] ∧ o.marker ≠ some []

/-- What holds of every request that a statement makes. Only a declaring command assigns, with the
type that it declares and to the name that its first positional parameter gives. -/
def Request.Sound (vars : Table Variable) (s : Statement) : Request → Prop
  | .assign name type value =>
    valueType value = type ∧ s.verb?.bind Verb.declares = some type ∧ argument vars s 0 = .ok name
  | .wait ms => 0 ≤ ms
  | .offer offers => offers.length ≤ 3 ∧ ∀ o ∈ offers, o.Sound
  | _ => True

/-- No more options are offered than there are parameters, and each of them is sound. -/
theorem offersFrom_sound {vars : Table Variable} {s : Statement} :
    ∀ {params : List Param} {slot : Nat} {offers : List Offer},
      offersFrom vars s slot params = .ok offers →
        offers.length ≤ params.length ∧ ∀ o ∈ offers, o.Sound
  | [], slot, offers, h => by
    simp only [offersFrom, Except.ok.injEq] at h
    subst h
    simp
  | p :: ps, slot, offers, h => by
    obtain ⟨text, -, h⟩ := bind_eq_ok_iff.mp h
    split at h
    · obtain ⟨hlen, hsound⟩ := offersFrom_sound h
      exact ⟨Nat.le_succ_of_le hlen, hsound⟩
    · rename_i htext
      obtain ⟨marker, -, h⟩ := bind_eq_ok_iff.mp h
      obtain ⟨later, hlater, h⟩ := bind_eq_ok_iff.mp h
      obtain rfl := pure_eq_ok_iff.mp h
      obtain ⟨hlen, hsound⟩ := offersFrom_sound hlater
      refine ⟨Nat.succ_le_succ hlen, fun o ho => ?_⟩
      rcases List.mem_cons.mp ho with rfl | ho
      · refine ⟨by simpa using htext, ?_⟩
        show (if marker.isEmpty then none else some marker) ≠ some []
        split
        · simp
        · rename_i hmarker
          simpa using hmarker
      · exact hsound o ho

/-- What the statement `s` asks for, by the verb that it is. -/
inductive Requested (p : Program) (bridged : Bool) (vars : Table Variable) (s : Statement) :
    Request → Prop
  | speak {line : Text} (hverb : s.verb? = some .speak) (hline : argument vars s 0 = .ok line) :
      Requested p bridged vars s (.say line)
  | silent (hverb : s.verb? = some .mark ∨ s.verb? = some .header) :
      Requested p bridged vars s .nothing
  | jump {marker : Text} (hverb : s.verb? = some .jump)
      (hmarker : argument vars s 0 = .ok marker) : Requested p bridged vars s (.jump marker)
  | setInt {name text : Text} {i : Int} (hverb : s.verb? = some .setInt)
      (hname : argument vars s 0 = .ok name) (htext : argument vars s 1 = .ok text)
      (hi : leadingInteger text = .ok i) :
      Requested p bridged vars s (.assign name .int (.int i))
  | setBool {name text : Text} (hverb : s.verb? = some .setBool)
      (hname : argument vars s 0 = .ok name) (htext : argument vars s 1 = .ok text) :
      Requested p bridged vars s (.assign name .bool (.bool (truth text)))
  | setString {name text : Text} (hverb : s.verb? = some .setString)
      (hname : argument vars s 0 = .ok name) (htext : argument vars s 1 = .ok text) :
      Requested p bridged vars s (.assign name .string (.text text))
  | wait {text : Text} {ms : Int} (hverb : s.verb? = some .wait)
      (htext : argument vars s 0 = .ok text) (hms : leadingInteger text = .ok ms) :
      Requested p bridged vars s (.wait (max 0 ms))
  | offer {offers : List Offer} (hverb : s.verb? = some .offer)
      (hoffers : offersFrom vars s 1 (s.positional.take 3) = .ok offers) :
      Requested p bridged vars s (.offer offers)
  | check {person item : Text} (hverb : s.verb? = some .check) (hbridged : bridged = true)
      (hperson : argument vars s 0 = .ok person) (hitem : argument vars s 1 = .ok item) :
      Requested p bridged vars s (.check person item)
  /-- A command that nobody carries out. -/
  | unhandled (hverb : s.verb? = none ∨ s.verb? = some .check ∧ bridged = false)
      (hnobody : p.catalog.find? s.command = none ∨ bridged = false) :
      Requested p bridged vars s (.say (unhandledLine s))
  | sent {c : Contract} {command : GameCommand} (hverb : s.verb? = none) (hbridged : bridged = true)
      (hfind : p.catalog.find? s.command = some c) (hcommand : gameCommand vars c s = .ok command) :
      Requested p bridged vars s (.send command)

section Requests

variable {p : Program} {bridged : Bool} {vars : Table Variable} {s : Statement} {r : Request}

theorem requested_of_forward (h : forward p bridged vars s = .ok r)
    (hverb : s.verb? = none ∨ s.verb? = some .check ∧ bridged = false) :
    Requested p bridged vars s r := by
  unfold forward at h
  cases hfind : p.catalog.find? s.command with
  | none =>
    rw [hfind] at h
    cases h
    exact .unhandled hverb (.inl hfind)
  | some c =>
    rw [hfind] at h
    cases bridged with
    | false =>
      cases h
      exact .unhandled hverb (.inr rfl)
    | true =>
      obtain ⟨command, hcommand, rfl⟩ := map_eq_ok_iff.mp h
      exact .sent (hverb.resolve_right fun hcheck => nomatch hcheck.2) rfl hfind hcommand

/-- **A statement asks for nothing but what `Requested` says.** -/
theorem requested (h : request p bridged vars s = .ok r) : Requested p bridged vars s r := by
  unfold request at h
  split at h
  case h_1 hverb => -- speak
    obtain ⟨line, hline, rfl⟩ := map_eq_ok_iff.mp h
    exact .speak hverb hline
  case h_2 hverb => -- mark
    cases h
    exact .silent (.inl hverb)
  case h_3 hverb => -- header
    cases h
    exact .silent (.inr hverb)
  case h_4 hverb => -- jump
    obtain ⟨marker, hmarker, rfl⟩ := map_eq_ok_iff.mp h
    exact .jump hverb hmarker
  case h_5 hverb => -- setInt
    obtain ⟨text, htext, h⟩ := bind_eq_ok_iff.mp h
    obtain ⟨i, hi, h⟩ := bind_eq_ok_iff.mp h
    obtain ⟨name, hname, h⟩ := bind_eq_ok_iff.mp h
    obtain rfl := pure_eq_ok_iff.mp h
    exact .setInt hverb hname htext hi
  case h_6 hverb => -- setBool
    obtain ⟨text, htext, h⟩ := bind_eq_ok_iff.mp h
    obtain ⟨name, hname, h⟩ := bind_eq_ok_iff.mp h
    obtain rfl := pure_eq_ok_iff.mp h
    exact .setBool hverb hname htext
  case h_7 hverb => -- setString
    obtain ⟨text, htext, h⟩ := bind_eq_ok_iff.mp h
    obtain ⟨name, hname, h⟩ := bind_eq_ok_iff.mp h
    obtain rfl := pure_eq_ok_iff.mp h
    exact .setString hverb hname htext
  case h_8 hverb => -- wait
    obtain ⟨text, htext, h⟩ := bind_eq_ok_iff.mp h
    obtain ⟨ms, hms, h⟩ := bind_eq_ok_iff.mp h
    obtain rfl := pure_eq_ok_iff.mp h
    exact .wait hverb htext hms
  case h_9 hverb => -- offer
    obtain ⟨offers, hoffers, rfl⟩ := map_eq_ok_iff.mp h
    exact .offer hverb hoffers
  case h_10 hverb => -- check
    split at h
    · rename_i hbridged
      obtain ⟨person, hperson, h⟩ := bind_eq_ok_iff.mp h
      obtain ⟨item, hitem, h⟩ := bind_eq_ok_iff.mp h
      obtain rfl := pure_eq_ok_iff.mp h
      exact .check hverb hbridged hperson hitem
    · rename_i hbridged
      exact requested_of_forward h (.inr ⟨hverb, by simpa using hbridged⟩)
  case h_11 hverb => exact requested_of_forward h (.inl hverb) -- no command of the machine

/-- **Every request is sound**: values have the type they are assigned as, which is the one that
the command declares; waits are not negative; and at most three options are offered, all of them
sound. -/
theorem request_sound (h : request p bridged vars s = .ok r) : r.Sound vars s := by
  cases requested h with
  | speak | silent | jump | check | unhandled | sent => trivial
  | setInt hverb hname | setBool hverb hname | setString hverb hname =>
    exact ⟨rfl, by rw [hverb]; rfl, hname⟩
  | @wait _ ms => exact Int.le_max_left 0 ms
  | offer _ hoffers =>
    obtain ⟨hlen, hsound⟩ := offersFrom_sound hoffers
    exact ⟨Nat.le_trans hlen (List.length_take_le 3 s.positional), hsound⟩

end Requests

/-! ## The state after a request -/

/-- The state after the request of a statement on line `line` has been fulfilled, `pc` not yet
moved. -/
def State.fulfil (line : Int) (s : State) : Request → State
  | .assign name type value =>
    if name.isEmpty then s else { s with vars := s.vars.put name { name, type, value, line } }
  | .wait ms => { s with waitMs := ms, phase := .waitingTimer }
  | .offer offers =>
    if offers.isEmpty then s else { s with offers := some offers, phase := .waitingChoice }
  | _ => s

variable {ω β : Type}

theorem Session.say_state (h : Host ω β) (x : Session ω β) (line : Text) :
    (x.say h line).2.state = x.state := by
  unfold Session.say
  split <;> rfl

theorem Session.send_state (b : Bridge β) (x : Session ω β) (c : GameCommand) :
    (x.send b c).2.state = x.state := by
  unfold Session.send
  split <;> rfl

theorem Session.check_state (p : Program) (b : Bridge β) (x : Session ω β) (s : Statement)
    (person item : Text) : (x.check p b s person item).2.state = x.state := by
  unfold Session.check
  split
  · rfl
  · split <;> rfl

/-- **The state after a request does not depend on the host**, nor on whether the host fulfilled
it: what can fail leaves the state alone. -/
theorem Session.fulfil_state (h : Host ω β) (p : Program) (x : Session ω β) (s : Statement)
    (r : Request) : (x.fulfil h p s r).2.state = x.state.fulfil s.line r := by
  cases r with
  | nothing => rfl
  | jump marker => rfl
  | wait ms => rfl
  | say line =>
    have hsay := Session.say_state h x line
    simp only [Session.fulfil]
    split <;> rename_i heq <;> simpa [heq, State.fulfil] using hsay
  | assign name type value =>
    simp only [Session.fulfil, State.fulfil]
    split <;> simp [*]
  | offer offers =>
    simp only [Session.fulfil, State.fulfil]
    split <;> simp [*]
  | check person item =>
    simp only [Session.fulfil, State.fulfil]
    split
    · rfl
    · exact Session.check_state p _ x s person item
  | send c =>
    simp only [Session.fulfil, State.fulfil]
    split
    · rfl
    · rename_i b _
      have hsend := Session.send_state b x c
      split <;> rename_i heq <;> simpa [heq] using hsend

/-- Why a request of the statement `s` is not fulfilled: a call to the host failed, or the marker that
the answer to a question leads to could not be read. -/
inductive Unfulfilled (h : Host ω β) (x : Session ω β) (s : Statement) : Request → Fault → Prop
  | line {line : Text} {t : Trouble} {output : ω}
      (hline : h.appendLine line x.output = (.error t, output)) :
      Unfulfilled h x s (.say line) (.trouble t)
  | question {b : Bridge β} {person item : Text} {t : Trouble} {game : β} (hb : h.bridge = some b)
      (hcheck : b.checkHas person item x.game = (.error t, game)) :
      Unfulfilled h x s (.check person item) (.trouble t)
  | marker {person item : Text} {e : TooManyDigits} (passed : Bool)
      (hmarker : argument x.state.vars s (if passed then 2 else 3) = .error e) :
      Unfulfilled h x s (.check person item) (.number e)
  | command {b : Bridge β} {c : GameCommand} {t : Trouble} {game : β} (hb : h.bridge = some b)
      (hsend : b.send c x.game = (.error t, game)) : Unfulfilled h x s (.send c) (.trouble t)

/-- **A request fails for nothing but what `Unfulfilled` says.** -/
theorem Session.unfulfilled {h : Host ω β} {p : Program} {x : Session ω β} {s : Statement}
    {r : Request} {f : Fault} (hf : (x.fulfil h p s r).1 = .error f) : Unfulfilled h x s r f := by
  cases r with
  | nothing | jump _ | wait _ => simp [Session.fulfil] at hf
  | say line =>
    simp only [Session.fulfil, Session.say] at hf
    rcases hline : h.appendLine line x.output with ⟨t | _, output⟩
    · simp only [hline, Except.error.injEq] at hf
      exact hf ▸ .line hline
    · simp [hline] at hf
  | assign name type value =>
    simp only [Session.fulfil] at hf
    split at hf <;> simp at hf
  | offer offers =>
    simp only [Session.fulfil] at hf
    split at hf <;> simp at hf
  | check person item =>
    simp only [Session.fulfil] at hf
    split at hf
    · simp at hf
    · rename_i b hb
      unfold Session.check at hf
      split at hf
      · rename_i t game hcheck
        obtain rfl := Except.error.inj hf
        exact .question hb hcheck
      · rename_i passed _ _
        split at hf
        · rename_i e hmarker
          obtain rfl := Except.error.inj hf
          exact .marker passed hmarker
        · cases hf
  | send c =>
    simp only [Session.fulfil] at hf
    split at hf
    · simp at hf
    · rename_i b hb
      unfold Session.send at hf
      rcases hsend : b.send c x.game with ⟨t | response, game⟩
      · simp only [hsend, Except.error.injEq] at hf
        exact hf ▸ .command hb hsend
      · simp [hsend] at hf

/-- A request that fails leaves the state alone. -/
theorem Unfulfilled.fulfil_state {h : Host ω β} {x : Session ω β} {s : Statement} {r : Request}
    {f : Fault} (hr : Unfulfilled h x s r f) : x.state.fulfil s.line r = x.state := by
  cases hr with
  | line _ | question _ _ | marker _ _ | command _ _ => rfl

/-- The markers that a request of the statement `s` may lead to: the one that it names, or one of
the two that the answer to its question decides between. -/
inductive Request.LeadsTo (vars : Table Variable) (s : Statement) : Request → Text → Prop
  | jump (marker : Text) : LeadsTo vars s (.jump marker) marker
  | check {person item marker : Text} (passed : Bool)
      (hmarker : argument vars s (if passed then 2 else 3) = .ok marker) :
      LeadsTo vars s (.check person item) marker

/-- **A request leads to the next statement or to a marker of its own.** -/
theorem Session.fulfil_leadsTo {h : Host ω β} {p : Program} {x : Session ω β} {s : Statement}
    {r : Request} {i : Nat} (hi : (x.fulfil h p s r).1 = .ok (some i)) :
    ∃ m, r.LeadsTo x.state.vars s m ∧ p.labels.get? m = some i := by
  cases r with
  | nothing => simp [Session.fulfil] at hi
  | wait ms => simp [Session.fulfil] at hi
  | jump marker => exact ⟨marker, .jump marker, by simpa [Session.fulfil] using hi⟩
  | say line =>
    simp only [Session.fulfil] at hi
    split at hi <;> simp at hi
  | assign name type value =>
    simp only [Session.fulfil] at hi
    split at hi <;> simp at hi
  | offer offers =>
    simp only [Session.fulfil] at hi
    split at hi <;> simp at hi
  | check person item =>
    simp only [Session.fulfil] at hi
    split at hi
    · simp at hi
    · unfold Session.check at hi
      split at hi
      · simp at hi
      · rename_i passed _ _
        split at hi
        · simp at hi
        · rename_i marker hmarker
          exact ⟨marker, .check passed hmarker, by simpa using hi⟩
  | send c =>
    simp only [Session.fulfil] at hi
    split at hi
    · simp at hi
    · split at hi <;> simp at hi

/-! ### Frames -/

section Frames

variable (p : Program) (line : Int) (s : State) (r : Request)

@[simp] theorem State.fulfil_pc : (s.fulfil line r).pc = s.pc := by
  unfold State.fulfil
  repeat' split
  all_goals rfl

@[simp] theorem State.fulfil_steps : (s.fulfil line r).steps = s.steps := by
  unfold State.fulfil
  repeat' split
  all_goals rfl

@[simp] theorem State.fulfil_error : (s.fulfil line r).error = s.error := by
  unfold State.fulfil
  repeat' split
  all_goals rfl

@[simp] theorem State.settle_pc : (settle p s).pc = s.pc := by
  unfold settle
  split <;> rfl

@[simp] theorem State.settle_steps : (settle p s).steps = s.steps := by
  unfold settle
  split <;> rfl

@[simp] theorem State.settle_error : (settle p s).error = s.error := by
  unfold settle
  split <;> rfl

@[simp] theorem State.settle_vars : (settle p s).vars = s.vars := by
  unfold settle
  split <;> rfl

end Frames

/-- A machine that has halted when it is settled has completed, or it had halted before. -/
theorem State.settle_halted {p : Program} {s : State} {e : Ending}
    (hs : (settle p s).phase = .halted e) : e = .completed ∨ s.phase = .halted e := by
  unfold settle at hs
  split at hs
  · obtain rfl := Phase.halted.inj hs
    exact .inl rfl
  · exact .inr hs

/-- A request does not end a machine. -/
theorem State.fulfil_not_halted {line : Int} {s : State} {r : Request} (hs : s.phase = .running)
    (e : Ending) : (s.fulfil line r).phase ≠ .halted e := by
  unfold State.fulfil
  split
  · split <;> simp [hs]
  · simp
  · split <;> simp [hs]
  · simp [hs]

/-! ## A step that is begun -/

section Begun

variable {h : Host ω β} {p : Program} {x y : Session ω β} {st : Statement}

theorem Session.step_of_error {f : Fault} (hrun : x.state.phase = .running)
    (hst : p.script[x.state.pc]? = some st) (hperform : x.count.perform h p st = (.error f, y)) :
    x.step h p = (some f, y) := by
  simp only [Session.step, if_pos hrun, hst, hperform]

theorem Session.step_of_ok {target : Option Nat} (hrun : x.state.phase = .running)
    (hst : p.script[x.state.pc]? = some st) (hperform : x.count.perform h p st = (.ok target, y)) :
    x.step h p = (none, y.goto p (target.getD (y.state.pc + 1))) := by
  simp only [Session.step, if_pos hrun, hst, hperform]

theorem Session.perform_of_error {e : TooManyDigits}
    (hr : request p h.bridge.isSome x.state.vars st = .error e) :
    x.perform h p st = (.error (.number e), x) := by
  rw [Session.perform, hr]

theorem Session.perform_of_ok {r : Request}
    (hr : request p h.bridge.isSome x.state.vars st = .ok r) :
    x.perform h p st = x.fulfil h p st r := by
  rw [Session.perform, hr]

/-- A step that fails: the statement could not be read, or what it asked for could not be fulfilled. -/
theorem Session.failed_of_step {f : Fault} (hstep : x.step h p = (some f, y)) :
    x.state.phase = .running ∧ ∃ st, p.script[x.state.pc]? = some st ∧
      ((∃ e, request p h.bridge.isSome x.state.vars st = .error e ∧ f = .number e ∧
          y = x.count) ∨
        ∃ r, request p h.bridge.isSome x.state.vars st = .ok r ∧
          x.count.fulfil h p st r = (.error f, y)) := by
  by_cases hrun : x.state.phase = .running
  · refine ⟨hrun, ?_⟩
    cases hst : p.script[x.state.pc]? with
    | none =>
      rw [Session.step, if_pos hrun, hst] at hstep
      cases hstep
    | some st =>
      refine ⟨st, rfl, ?_⟩
      cases hr : request p h.bridge.isSome x.state.vars st with
      | error e =>
        rw [Session.step_of_error hrun hst (Session.perform_of_error hr)] at hstep
        cases hstep
        exact .inl ⟨e, rfl, rfl, rfl⟩
      | ok r =>
        have hperform := Session.perform_of_ok (x := x.count) hr
        rcases hfulfil : x.count.fulfil h p st r with ⟨g | target, z⟩
        · rw [Session.step_of_error hrun hst (hperform.trans hfulfil)] at hstep
          cases hstep
          exact .inr ⟨r, rfl, hfulfil⟩
        · rw [Session.step_of_ok hrun hst (hperform.trans hfulfil)] at hstep
          cases hstep
  · rw [Session.step, if_neg hrun] at hstep
    cases hstep

/-- A step that does not fail: what the statement asked for has been fulfilled. -/
theorem Session.fulfilled_of_step (hrun : x.state.phase = .running)
    (hst : p.script[x.state.pc]? = some st) (hstep : x.step h p = (none, y)) :
    ∃ r target z, request p h.bridge.isSome x.state.vars st = .ok r ∧
      x.count.fulfil h p st r = (.ok target, z) ∧
      y = z.goto p (target.getD (z.state.pc + 1)) := by
  cases hr : request p h.bridge.isSome x.state.vars st with
  | error e =>
    rw [Session.step_of_error hrun hst (Session.perform_of_error hr)] at hstep
    cases hstep
  | ok r =>
    have hperform := Session.perform_of_ok (x := x.count) hr
    rcases hfulfil : x.count.fulfil h p st r with ⟨g | target, z⟩
    · rw [Session.step_of_error hrun hst (hperform.trans hfulfil)] at hstep
      cases hstep
    · rw [Session.step_of_ok hrun hst (hperform.trans hfulfil)] at hstep
      cases hstep
      exact ⟨r, target, z, rfl, hfulfil, rfl⟩

/-- **A step that fails** could not read its statement, or its request was not fulfilled. It has been
counted and has done nothing else. -/
theorem Session.fault_of_step {f : Fault} (hst : p.script[x.state.pc]? = some st)
    (hstep : x.step h p = (some f, y)) :
    y.state = x.count.state ∧
      ((∃ e, request p h.bridge.isSome x.state.vars st = .error e ∧ f = .number e) ∨
        ∃ r, Unfulfilled h x.count st r f) := by
  obtain ⟨-, st', hst', hfailed⟩ := Session.failed_of_step hstep
  obtain rfl := Option.some.inj (hst'.symm.trans hst)
  rcases hfailed with ⟨e, he, rfl, rfl⟩ | ⟨r, -, hfulfil⟩
  · exact ⟨rfl, .inl ⟨e, he, rfl⟩⟩
  · have hstate := Session.fulfil_state h p x.count st' r
    rw [hfulfil] at hstate
    have hfailed : Unfulfilled h x.count st' r f :=
      Session.unfulfilled (p := p) (by rw [hfulfil])
    exact ⟨hstate.trans hfailed.fulfil_state, .inr ⟨r, hfailed⟩⟩

/-- **A step that does not fail** has fulfilled the request of its statement and goes on at the next
one or at a marker of that request. -/
theorem Session.moved_of_step (hrun : x.state.phase = .running)
    (hst : p.script[x.state.pc]? = some st) (hstep : x.step h p = (none, y)) :
    ∃ r target, request p h.bridge.isSome x.state.vars st = .ok r ∧
      (∀ i, target = some i → ∃ m, r.LeadsTo x.state.vars st m ∧ p.labels.get? m = some i) ∧
      y.state = State.settle p { x.count.state.fulfil st.line r with
        pc := target.getD (x.state.pc + 1) } := by
  obtain ⟨r, target, z, hr, hfulfil, rfl⟩ := Session.fulfilled_of_step hrun hst hstep
  have hstate := Session.fulfil_state h p x.count st r
  rw [hfulfil] at hstate
  have hpc : z.state.pc = x.state.pc := by
    rw [hstate, State.fulfil_pc]
    rfl
  refine ⟨r, target, hr, fun i hi => ?_, ?_⟩
  · exact Session.fulfil_leadsTo (h := h) (x := x.count) (by rw [hfulfil, hi])
  · rw [Session.goto, hpc, hstate]

end Begun

/-! ## The state after a step -/

/-- What a step does to the state `s`: the fault that it ends with, and the state after it. -/
inductive Stepped (p : Program) (s : State) : Option Fault → State → Prop
  /-- A machine that is not running, or has no statement left, stays as it is. -/
  | idle (hs : s.phase ≠ .running ∨ p.script.length ≤ s.pc) : Stepped p s none s
  /-- A step that fails has been counted and has done nothing else. -/
  | failed {st : Statement} {f : Fault} (hrun : s.phase = .running)
      (hst : p.script[s.pc]? = some st) :
      Stepped p s (some f) { s with steps := s.steps + 1 }
  /-- A request has been fulfilled, and the machine is at the next statement or at a marker. -/
  | moved {st : Statement} {bridged : Bool} {r : Request} {target : Option Nat}
      (hrun : s.phase = .running) (hst : p.script[s.pc]? = some st)
      (hr : request p bridged s.vars st = .ok r)
      (htarget : ∀ i, target = some i → ∃ m, p.labels.get? m = some i) :
      Stepped p s none (State.settle p
        { ({ s with steps := s.steps + 1 } : State).fulfil st.line r with
          pc := target.getD (s.pc + 1) })

theorem Stepped.state_of_failed {p : Program} {s t : State} {f : Fault}
    (h : Stepped p s (some f) t) : t = { s with steps := s.steps + 1 } := by
  cases h
  rfl

/-- **A step does nothing but what `Stepped` says**, whatever the host. -/
theorem Session.stepped (h : Host ω β) (p : Program) (x : Session ω β) :
    Stepped p x.state (x.step h p).1 (x.step h p).2.state := by
  by_cases hrun : x.state.phase = .running
  · cases hst : p.script[x.state.pc]? with
    | none =>
      rw [Session.step, if_pos hrun, hst]
      exact .idle (Or.inr (List.getElem?_eq_none_iff.mp hst))
    | some st =>
      rcases hstep : x.step h p with ⟨_ | f, y⟩
      · obtain ⟨r, target, hr, htarget, hy⟩ := Session.moved_of_step hrun hst hstep
        change Stepped p x.state none y.state
        rw [hy]
        refine .moved hrun hst hr fun i hi => ?_
        obtain ⟨m, -, hm⟩ := htarget i hi
        exact ⟨m, hm⟩
      · obtain ⟨hy, -⟩ := Session.fault_of_step hst hstep
        change Stepped p x.state (some f) y.state
        rw [hy]
        exact .failed hrun hst
  · rw [Session.step, if_neg hrun]
    exact .idle (Or.inl hrun)

end Dialogue.Machine
