import Dialogue.Proofs.Machine.Record
import Dialogue.Proofs.Machine.StepLimit

/-!
# A larger step limit only extends a run

Two runs of one session on one host, under limits of which one is smaller, go together for as long as
neither limit is reached. The smaller one is reached first, if at all: there its run stops, and the
other goes on from there. Whatever it does then is added to what both have recorded.

* `limitReached_of_lt`: where the larger limit is reached, so is the smaller one;
* `Loop.of_not_stopped`: a run that its limit does not stop is the run under the larger limit;
* `Loop.cut`: the run under the smaller limit is the one under the larger, or a beginning of it;
* **`run_extends`**: what the two runs have in common.
-/

namespace Dialogue.Machine

open Text

variable {ω β : Type} {h : Host ω β} {p : Program} {limit : Option Int} {x y : Session ω β}
  {xs : List (Session ω β)} {t t' : Turn ω β} {m : Int}

/-! ## Two limits -/

/-- Where a larger limit is reached, so is the smaller one. -/
theorem limitReached_of_lt (hlimit : ∀ m' ∈ limit, m < m') (hx : x.limitReached limit = true) :
    x.limitReached (some m) = true := by
  cases limit with
  | none => cases hx
  | some m' =>
    have hlt := hlimit m' rfl
    simp only [Session.limitReached, decide_eq_true_eq] at hx ⊢
    omega

/-- A turn is the same under both limits unless it is stopped by the smaller one. -/
theorem Session.turn_of_lt (hlimit : ∀ m' ∈ limit, m < m')
    (hx : ¬ (x.state.phase = .running ∧ x.limitReached (some m) = true)) :
    x.turn h p limit = x.turn h p (some m) := by
  have hsmall : x.state.phase = .running → x.limitReached (some m) = false := by
    intro hrun
    simpa [hrun] using hx
  have hlarge : x.state.phase = .running → x.limitReached limit = false := by
    intro hrun
    cases hreached : x.limitReached limit with
    | false => rfl
    | true => exact (limitReached_of_lt hlimit hreached).symm.trans (hsmall hrun)
  rw [Session.turn_unlimited hlarge, Session.turn_unlimited hsmall]

/-- Runs of the same session under the same limit do not differ in their end. -/
theorem Session.run_unique {k n : Nat} (ht : x.run h p limit k = some t)
    (ht' : x.run h p limit n = some t') : t' = t := by
  obtain ⟨y, hchain, rfl, hlast⟩ := Session.run_chain ht
  exact Session.run_eq_of_chain hchain hlast ht'

/-! ## Two runs -/

/-- The run that stops at once. -/
theorem Loop.stopped (hrun : x.state.phase = .running) (hlimit : x.limitReached limit = true) :
    Loop h p limit x [x] (.ended { x with state := x.state.finish .stopped }) :=
  .round (Session.turn_of_limited hrun hlimit) (.halted rfl)

/-- **A run that its limit does not stop** goes the same way under a larger limit. -/
theorem Loop.of_not_stopped (hlimit : ∀ m' ∈ limit, m < m') (hl : Loop h p (some m) x xs t)
    (ht : t.session.state.phase ≠ .halted .stopped) : Loop h p limit x xs t := by
  induction hl with
  | halted hx => exact .halted hx
  | @last x hx hlast =>
    have hnot : ¬ (x.state.phase = .running ∧ x.limitReached (some m) = true) := by
      rintro ⟨hrun, hreached⟩
      exact hlast _ (Session.turn_of_limited hrun hreached)
    have hturn := Session.turn_of_lt (h := h) (p := p) hlimit hnot
    rw [← hturn] at hlast ⊢
    exact .last hx hlast
  | @round x y xs t hxy hrest ih =>
    have hnot : ¬ (x.state.phase = .running ∧ x.limitReached (some m) = true) := by
      rintro ⟨hrun, hreached⟩
      rw [Again, Session.turn_of_limited hrun hreached] at hxy
      cases hxy
      -- the machine has been stopped, and that is how the run ends
      cases hrest with
      | halted _ => exact ht rfl
      | last hphase _ => exact hphase .stopped rfl
      | round hnext _ => rw [Again, Session.turn_of_halted rfl] at hnext; cases hnext
    exact .round ((Session.turn_of_lt hlimit hnot).trans hxy) (ih ht)

/-- **The run under the smaller limit** is the one under the larger limit, or it stops at a session
from which that one goes on. -/
theorem Loop.cut (hlimit : ∀ m' ∈ limit, m < m') (hl : Loop h p limit x xs t) :
    Loop h p (some m) x xs t ∨
      ∃ (z : Session ω β) (zs : List (Session ω β)),
        Loop h p (some m) x zs (.ended { z with state := z.state.finish .stopped }) ∧
          z.log <:+ t.session.log := by
  induction hl with
  | halted hx => exact .inl (.halted hx)
  | @last x hx hlast =>
    by_cases hreached : x.state.phase = .running ∧ x.limitReached (some m) = true
    · exact .inr ⟨x, [x], .stopped hreached.1 hreached.2, Session.turn_log h p limit x⟩
    · have hturn := Session.turn_of_lt (h := h) (p := p) hlimit hreached
      rw [hturn] at hlast ⊢
      exact .inl (.last hx hlast)
  | @round x y xs t hxy hrest ih =>
    by_cases hreached : x.state.phase = .running ∧ x.limitReached (some m) = true
    · have hlog := Session.run_log (Loop.round hxy hrest).run_eq
      exact .inr ⟨x, [x], .stopped hreached.1 hreached.2, hlog⟩
    · have hagain : Again h p (some m) x y := (Session.turn_of_lt hlimit hreached).symm.trans hxy
      rcases ih with hsame | ⟨z, zs, hstopped, hlog⟩
      · exact .inl (.round hagain hsame)
      · exact .inr ⟨z, x :: zs, .round hagain hstopped, hlog⟩

/-- **A larger step limit only extends a run.** Of two runs of a session under the limits `m` and
`limit`, where `limit` is larger or there is none, on the same host, whatever it answers and whichever
calls fail: if both return, then the lines, the prompts, the sleeps and the commands of the first are
the beginnings of those of the second, and unless the first was stopped the two leave the same
session, so that they agree in state and outputs. The second returns if the first does
without being stopped, and the first does if the second does. -/
theorem run_extends (hlimit : ∀ m' ∈ limit, m < m') :
    (∀ k n y y', x.run h p (some m) k = some (.ended y) → x.run h p limit n = some (.ended y') →
      y.lines <+: y'.lines ∧ y.prompts <+: y'.prompts ∧ y.sleeps <+: y'.sleeps ∧
        y.commands <+: y'.commands ∧ (y.state.phase ≠ .halted .stopped → y' = y)) ∧
    (∀ k y, x.run h p (some m) k = some (.ended y) → y.state.phase ≠ .halted .stopped →
      ∃ n, x.run h p limit n = some (.ended y)) ∧
    ∀ n y', x.run h p limit n = some (.ended y') →
      ∃ k y, x.run h p (some m) k = some (.ended y) := by
  have hsame : ∀ k y, x.run h p (some m) k = some (.ended y) →
      y.state.phase ≠ .halted .stopped → ∃ n, x.run h p limit n = some (.ended y) := by
    intro k y hy hnot
    obtain ⟨xs, hl⟩ := Session.loop_of_run hy
    exact ⟨_, (hl.of_not_stopped hlimit hnot).run_eq⟩
  have hcut : ∀ n y', x.run h p limit n = some (.ended y') →
      ∃ k y, x.run h p (some m) k = some (.ended y) ∧ y.log <:+ y'.log := by
    intro n y' hy'
    obtain ⟨xs, hl⟩ := Session.loop_of_run hy'
    rcases hl.cut hlimit with hl | ⟨z, zs, hl, hlog⟩
    · exact ⟨_, y', hl.run_eq, List.suffix_refl _⟩
    · exact ⟨_, _, hl.run_eq, hlog⟩
  refine ⟨fun k n y y' hy hy' => ?_, hsame, fun n y' hy' => ?_⟩
  · obtain ⟨k', z, hz, hlog⟩ := hcut n y' hy'
    obtain rfl : z = y := Turn.ended.inj (Session.run_unique hy hz)
    refine ⟨Session.record_isPrefix _ hlog, Session.record_isPrefix _ hlog,
      Session.record_isPrefix _ hlog, Session.record_isPrefix _ hlog, fun hnot => ?_⟩
    obtain ⟨n', hn⟩ := hsame k z hy hnot
    exact Turn.ended.inj (Session.run_unique hn hy')
  · obtain ⟨k, y, hy, -⟩ := hcut n y' hy'
    exact ⟨k, y, hy⟩

/-- A talk with a question in it. -/
def talk : Program where
  script := [
    { command := ofString "Act_Speak"
      params := [{ value := ofString "hi", raw := ofString "\"hi\"" }] },
    { command := ofString "Show_Options"
      params := [{ value := ofString "Go", raw := ofString "\"Go\"" }] },
    { command := ofString "Act_Speak"
      params := [{ value := ofString "bye", raw := ofString "\"bye\"" }] }]
  catalog := { table := [], aliases := [] }

/-- Under the limit 2 the talk is stopped after its question, under the limit 3 it comes to its end. -/
theorem run_extends_talk : ∃ y y' : Session Unit Unit, (2 : Int) < 3 ∧
    (Session.fresh talk () ()).run Host.eager talk (some 2) 5 = some (.ended y) ∧
    (Session.fresh talk () ()).run Host.eager talk (some 3) 5 = some (.ended y') ∧
    y.state.phase = .halted .stopped ∧ y'.state.phase = .halted .completed ∧
    y.lines <+: y'.lines ∧ y.prompts <+: y'.prompts := by
  have hlimit : ∀ m' ∈ some (3 : Int), (2 : Int) < m' := by simp
  have hy : (Session.fresh talk () ()).run (Host.eager : Host Unit Unit) talk (some 2) 5 =
      some (.ended _) := rfl
  have hy' : (Session.fresh talk () ()).run (Host.eager : Host Unit Unit) talk (some 3) 5 =
      some (.ended _) := rfl
  obtain ⟨hlines, hprompts, -⟩ := (run_extends hlimit).1 5 5 _ _ hy hy'
  exact ⟨_, _, by decide, hy, hy', rfl, rfl, hlines, hprompts⟩

end Dialogue.Machine
