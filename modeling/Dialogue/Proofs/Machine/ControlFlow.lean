import Dialogue.Proofs.Machine.Forward
import Dialogue.Proofs.Text.Numeral

/-!
# Where control goes

A machine carries out its statements one after the other, and leaves that order in three places
only: a jump, a question to the game, and an option that has been chosen. Each goes to a label, and
the marker that it looks up there is settled when it goes.

* `Aims`: the marker that a statement leads to, with the answer of the game if it asks one;
  `Aims.unique`, and `Session.aims_of_fulfil` for a request that has been fulfilled;
* `step_pc`: where a step goes;
* `resumeChoice_some_pc`, `resumeChoice_none_pc`, `resumeTimer_pc`: where a machine goes on that has
  waited;
* `marks_of_literal`: a literal names the marker that is declared by the same text;
* **`control_flow`**: all of it together, for every state that a machine can reach.
-/

namespace Dialogue.Machine

open Text Script

variable {ω β : Type} {h : Host ω β} {p : Program} {x y : Session ω β} {st : Statement}

/-! ## Markers that statements lead to -/

/-- The statement may lead elsewhere than to the next one: it is a jump, or a question and the game
is there. -/
def Directs (h : Host ω β) (st : Statement) : Prop :=
  st.verb? = some .jump ∨ st.verb? = some .check ∧ h.bridge.isSome

/-- The statement, carried out now, leads to the marker `m`, if that is declared. -/
inductive Aims (h : Host ω β) (x : Session ω β) (st : Statement) (m : Text) : Prop
  | jump (hverb : st.verb? = some .jump) (hm : argument x.state.vars st 0 = .ok m)
  /-- The answer of the game decides between two parameters. -/
  | check {b : Bridge β} {person item : Text} {passed : Bool} {game : β}
      (hverb : st.verb? = some .check) (hb : h.bridge = some b)
      (hperson : argument x.state.vars st 0 = .ok person)
      (hitem : argument x.state.vars st 1 = .ok item)
      (hanswer : b.checkHas person item x.game = (.ok passed, game))
      (hm : argument x.state.vars st (if passed then 2 else 3) = .ok m)

/-- A statement leads to one marker at a time. -/
theorem Aims.unique {m n : Text} (hm : Aims h x st m) (hn : Aims h x st n) : n = m := by
  cases hm with
  | jump hverb hm =>
    cases hn with
    | jump _ hn => exact Except.ok.inj (hn.symm.trans hm)
    | check hverb' => exact nomatch hverb.symm.trans hverb'
  | check hverb hb hperson hitem hanswer hm =>
    cases hn with
    | jump hverb' => exact nomatch hverb.symm.trans hverb'
    | check _ hb' hperson' hitem' hanswer' hn =>
      obtain rfl := Option.some.inj (hb.symm.trans hb')
      obtain rfl := Except.ok.inj (hperson.symm.trans hperson')
      obtain rfl := Except.ok.inj (hitem.symm.trans hitem')
      obtain ⟨hpassed, -⟩ := Prod.mk.inj (hanswer.symm.trans hanswer')
      obtain rfl := Except.ok.inj hpassed
      exact Except.ok.inj (hn.symm.trans hm)

/-- Only a statement that directs asks for something that leads to a marker. -/
theorem Request.LeadsTo.directs {r : Request} {m : Text}
    (hr : request p h.bridge.isSome x.state.vars st = .ok r) (hm : r.LeadsTo x.state.vars st m) :
    Directs h st := by
  have hreq := requested hr
  cases hm with
  | jump marker =>
    cases hreq with
    | jump hverb _ => exact .inl hverb
  | check passed _ =>
    cases hreq with
    | check hverb hbridged _ _ => exact .inr ⟨hverb, hbridged⟩

/-- **A request that has been fulfilled goes to the label of the marker that its statement aims
at.** -/
theorem Session.aims_of_fulfil {r : Request} {target : Option Nat} (hst : Directs h st)
    (hr : request p h.bridge.isSome x.state.vars st = .ok r)
    (hfulfil : (x.fulfil h p st r).1 = .ok target) :
    ∃ m, Aims h x st m ∧ target = p.labels.get? m := by
  rcases hst with hverb | ⟨hverb, hbridged⟩
  · simp only [request, hverb] at hr
    obtain ⟨m, hm, rfl⟩ := map_eq_ok_iff.mp hr
    exact ⟨m, .jump hverb hm, (Except.ok.inj hfulfil).symm⟩
  · simp only [request, hverb, hbridged, if_true] at hr
    obtain ⟨person, hperson, hr⟩ := bind_eq_ok_iff.mp hr
    obtain ⟨item, hitem, hr⟩ := bind_eq_ok_iff.mp hr
    obtain rfl := pure_eq_ok_iff.mp hr
    obtain ⟨b, hb⟩ := Option.isSome_iff_exists.mp hbridged
    simp only [Session.fulfil, hb, Session.check] at hfulfil
    split at hfulfil
    · cases hfulfil
    · rename_i passed game hanswer
      split at hfulfil
      · cases hfulfil
      · rename_i m hm
        exact ⟨m, .check hverb hb hperson hitem hanswer hm, (Except.ok.inj hfulfil).symm⟩

/-! ## Where a step goes -/

/-- **A step goes to the next statement**, or to the label of the marker that its statement aims
at. -/
theorem step_pc (hrun : x.state.phase = .running) (hst : p.script[x.state.pc]? = some st)
    (hstep : x.step h p = (none, y)) :
    (Directs h st → ∃ m, (∀ n, Aims h x st n ↔ n = m) ∧
      y.state.pc = (p.labels.get? m).getD (x.state.pc + 1)) ∧
    (¬ Directs h st → y.state.pc = x.state.pc + 1) := by
  obtain ⟨r, target, z, hr, hfulfil, rfl⟩ := Session.fulfilled_of_step hrun hst hstep
  have htarget : (x.count.fulfil h p st r).1 = .ok target := by rw [hfulfil]
  have hz : z.state.pc = x.state.pc := by
    have hstate := Session.fulfil_state h p x.count st r
    rw [hfulfil] at hstate
    rw [hstate, State.fulfil_pc]
    rfl
  have hpc : (z.goto p (target.getD (z.state.pc + 1))).state.pc =
      target.getD (x.state.pc + 1) := by
    rw [Session.goto, State.settle_pc, hz]
  rw [hpc]
  constructor
  · intro hdirects
    obtain ⟨m, hm, rfl⟩ := Session.aims_of_fulfil (x := x.count) hdirects hr htarget
    have haims : Aims h x st m := by
      cases hm with
      | jump hverb hm => exact .jump hverb hm
      | check hverb hb hperson hitem hanswer hm => exact .check hverb hb hperson hitem hanswer hm
    exact ⟨m, fun n => ⟨haims.unique, fun hn => hn ▸ haims⟩, rfl⟩
  · intro hplain
    cases target with
    | none => rfl
    | some i =>
      obtain ⟨m, hm, -⟩ := Session.fulfil_leadsTo htarget
      exact absurd (hm.directs (x := x.count) hr) hplain

/-- A machine that is not running does not step. -/
theorem step_of_not_running (hx : x.state.phase ≠ .running) : x.step h p = (none, x) :=
  if_neg hx

/-! ## Where a machine goes on that has waited -/

variable {s t : State}

theorem resumeTimer_pc (ht : s.resumeTimer p = .ok t) : t.pc = s.pc := by
  unfold State.resumeTimer at ht
  split_ifs at ht
  rw [← Except.ok.inj ht, State.settle_pc]

/-- A prompt that is dismissed leaves the machine where it is. -/
theorem resumeChoice_none_pc (ht : s.resumeChoice p none = .ok t) : t.pc = s.pc := by
  unfold State.resumeChoice at ht
  split at ht
  · rw [← Except.ok.inj ht]
    rfl
  · cases ht

/-- **A choice goes to the label of the option that was chosen.** -/
theorem resumeChoice_some_pc (hs : s.Sound p) {k : Int} (ht : s.resumeChoice p (some k) = .ok t) :
    ∃ offers o, s.offers = some offers ∧ 0 ≤ k ∧ offers[k.toNat]? = some o ∧
      o.marker ≠ some [] ∧ t.pc = (o.marker.bind p.labels.get?).getD s.pc := by
  unfold State.resumeChoice at ht
  split at ht
  · rename_i offers hwait hoffers
    simp only at ht
    split_ifs at ht with hk
    split at ht
    · cases ht
    · rename_i o ho
      obtain ⟨offers', hoffers', -, -, hsound⟩ := hs.offers hwait
      obtain rfl := Option.some.inj (hoffers.symm.trans hoffers')
      have hmarker := (hsound o (List.mem_of_getElem? ho)).2
      refine ⟨offers, o, hoffers, Int.not_lt.mp hk, ho, hmarker, ?_⟩
      rw [← Except.ok.inj ht, State.settle_pc]
      change s.target p o = _
      unfold State.target
      cases o.marker <;> rfl
  · cases ht

/-! ## Literals -/

/-- **A literal names the marker that is declared by the same text.** Whatever the variables are, it
stands for the value under which a line marker with that text is declared. -/
theorem marks_of_literal {q : Param} (hq : q.Read) (hraw : q.raw.head? ≠ some '$')
    (hlong : ¬ Overlong q.raw) :
    (∀ vars, resolve vars q = .ok q.value) ∧
      ∀ d : Statement, d.key = ofString "line_marker" →
        ∀ first, d.params.head? = some first → first.Read → first.raw = q.raw →
          d.Marks q.value := by
  constructor
  · intro vars
    rw [resolve_eq_of_read hq hraw]
    split_ifs with hint
    · obtain ⟨i, hi⟩ := integer_of_not_overlong hint hlong
      rw [hi]
      rfl
    · rfl
  · intro d hkey first hfirst hread hsame
    exact ⟨hkey, first, hfirst, by rw [hread.value, hq.value, hsame]⟩

/-! ## Reachable states -/

/-- **Control-flow integrity.** In every state that a machine can reach:

* a running machine whose step does not fail goes to the next statement, unless the statement there
  directs; then it aims at exactly one marker, and the machine goes to the label of that one if
  there is such a label. A machine that is not running does not move;
* a choice that is accepted goes to the label of the marker of the option with its number, if the
  option has a marker and there is such a label; else, and after a wait, the machine goes on where
  it is;
* a label is the first statement of the whole script that declares its marker;
* in a script that has been parsed, a literal stands, in every store of variables, for its value
  without quotes, and a line marker with the same text declares just that. -/
theorem control_flow (hx : Reachable p x) :
    (∀ (h : Host ω β) y, x.step h p = (none, y) →
      (x.state.phase ≠ .running → y = x) ∧
      (x.state.phase = .running → ∃ st, p.script[x.state.pc]? = some st ∧
        (Directs h st → ∃ m, (∀ n, Aims h x st n ↔ n = m) ∧
          y.state.pc = (p.labels.get? m).getD (x.state.pc + 1)) ∧
        (¬ Directs h st → y.state.pc = x.state.pc + 1))) ∧
    (∀ k t, x.state.resumeChoice p (some k) = .ok t →
      ∃ offers o, x.state.offers = some offers ∧ 0 ≤ k ∧ offers[k.toNat]? = some o ∧
        o.marker ≠ some [] ∧ t.pc = (o.marker.bind p.labels.get?).getD x.state.pc) ∧
    (∀ t, x.state.resumeChoice p none = .ok t → t.pc = x.state.pc) ∧
    (∀ t, x.state.resumeTimer p = .ok t → t.pc = x.state.pc) ∧
    (∀ m i, p.labels.get? m = some i ↔ FirstMark p.script m i) ∧
    (∀ marks source, p.script = parse marks source → ∀ st ∈ p.script, ∀ q ∈ st.positional,
      q.raw.head? ≠ some '$' → ¬ Overlong q.raw →
        q.value = stripQuotes q.raw ∧ (∀ vars, resolve vars q = .ok q.value) ∧
        ∀ d ∈ p.script, d.key = ofString "line_marker" →
          d.params.head?.map Param.raw = some q.raw → d.Marks q.value) := by
  refine ⟨fun h y hstep => ⟨fun hidle => ?_, fun hrun => ?_⟩, fun k t ht => ?_, fun t ht => ?_,
    fun t ht => resumeTimer_pc ht, fun m i => ?_, fun marks source hp st hst q hq hraw hlong => ?_⟩
  · rw [step_of_not_running hidle] at hstep
    cases hstep
    rfl
  · obtain ⟨st, hst⟩ := hx.sound.exists_statement hrun
    exact ⟨st, hst, step_pc hrun hst hstep⟩
  · exact resumeChoice_some_pc hx.sound ht
  · exact resumeChoice_none_pc ht
  · rw [p.labels_eq]
    exact get?_labels_iff p.script m i
  · rw [hp] at hst
    have hread := read_of_mem_parse hst (List.mem_filter.mp hq).1
    obtain ⟨hresolve, hmarks⟩ := marks_of_literal hread hraw hlong
    refine ⟨hread.value, hresolve, fun d hd hkey hfirst => ?_⟩
    obtain ⟨first, hhead, hsame⟩ := Option.map_eq_some_iff.mp hfirst
    have hmem := List.mem_of_mem_head? hhead
    exact hmarks d hkey first hhead (read_of_mem_parse (hp ▸ hd) hmem) hsame

/-- A script that goes round. -/
def circle : Program where
  script := parse defaultMarks (ofString "Line_Marker [top]\nJump_To [\"top\"]")
  catalog := { table := [], aliases := [] }

/-- The machine that has come to the jump. -/
def atJump : Session Rehearsal Unit :=
  ((Session.fresh circle {} ()).step (Host.rehearsed none) circle).2

theorem control_flow_circle : Reachable circle atJump ∧ atJump.state.pc = 1 ∧
    (atJump.step (Host.rehearsed none) circle).2.state.pc = 0 := by
  have hx : Reachable circle atJump := ⟨{}, (), .single (.step _ _)⟩
  have hstep : atJump.step (Host.rehearsed none) circle =
      (none, (atJump.step (Host.rehearsed none) circle).2) := by rfl
  obtain ⟨st, hst, hdirects, -⟩ := ((control_flow hx).1 _ _ hstep).2 rfl
  obtain rfl := Option.some.inj hst
  obtain ⟨m, hm, hpc⟩ := hdirects (.inl rfl)
  obtain rfl : ofString "top" = m := (hm _).mp (.jump rfl rfl)
  exact ⟨hx, rfl, hpc⟩

end Dialogue.Machine
