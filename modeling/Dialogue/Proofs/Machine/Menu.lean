import Dialogue.Proofs.Machine.Loop
import Mathlib.Tactic.Common

/-!
# Where the options of a menu lead

The options of a menu are numbered in three ways: by the slots that their texts are given in, by the
names of the parameters with their markers, and by their places among the options that are shown. An
option is known by its slot: its marker is the one that bears the number of the slot, whatever other
options are shown.

* `slots`, `shown`: the slots of a menu, and those whose texts are not empty;
* `offersFrom_eq`: the offers are those of the slots that are shown, in order;
* `AtMenu`: a machine about to show a menu, with the texts and the markers of its slots.
  `exists_atMenu` says that there are such texts, `AtMenu.step_of_none` and `AtMenu.step_of_some`
  are the step, `AtMenu.resumeChoice` is the choice;
* `GoesOn`: where a machine goes on that is led to a marker;
* **`menu_leads`**: each option leads to the marker of its own slot.
-/

namespace Dialogue.Machine

open Text Script

variable {ω β : Type} {p : Program} {x : Session ω β} {st : Statement} {vars : Table Variable}
  {text marker : Nat → Text}

/-! ## Slots -/

/-- The numbers of the slots of a menu. -/
def slots : List Nat := List.range' 1 3

/-- The slots that have a text. -/
def shown (text : Nat → Text) : List Nat := slots.filter fun slot => text slot ≠ []

/-- The offer of a slot with a text and the text of a marker. -/
def offer (text marker : Nat → Text) (slot : Nat) : Offer where
  text := text slot
  marker := if (marker slot).isEmpty then none else some (marker slot)

/-- **The offers are those of the slots that have a text**, in the order of the slots. -/
theorem offersFrom_eq {qs : List Param} {slot : Nat}
    (htexts : ∀ e ∈ qs.zipIdx slot, resolve vars e.1 = .ok (text e.2))
    (hmarkers : ∀ e ∈ qs.zipIdx slot, text e.2 ≠ [] →
      resolve? vars (st.named (some (slotName e.2))) = .ok (marker e.2)) :
    offersFrom vars st slot qs =
      .ok (((List.range' slot qs.length).filter fun s => text s ≠ []).map (offer text marker)) := by
  induction qs generalizing slot with
  | nil => rfl
  | cons q qs ih =>
    rw [List.zipIdx_cons, List.forall_mem_cons] at htexts hmarkers
    obtain ⟨htext, htexts⟩ := htexts
    obtain ⟨hmarker, hmarkers⟩ := hmarkers
    rw [offersFrom, htext, List.length_cons, List.range'_succ]
    by_cases hempty : text slot = []
    · rw [List.filter_cons_of_neg (by simp [hempty]), ← ih htexts hmarkers]
      exact if_pos (by simp [hempty])
    · rw [List.filter_cons_of_pos (by simp [hempty]), List.map_cons]
      refine (if_neg (by simpa using hempty)).trans ?_
      rw [hmarker hempty, ih htexts hmarkers]
      rfl

/-- A slot that has no parameter is not shown. -/
theorem shown_eq (htexts : ∀ slot ∈ slots, argument vars st (slot - 1) = .ok (text slot)) :
    shown text = (List.range' 1 (st.positional.take 3).length).filter fun s => text s ≠ [] := by
  rw [List.length_take]
  generalize hk : min 3 st.positional.length = k
  have hsplit : slots = List.range' 1 k ++ List.range' (1 + k) (3 - k) := by
    rw [List.range'_append_1, Nat.add_sub_cancel' (by omega)]
    rfl
  have hnone : (List.range' (1 + k) (3 - k)).filter (fun s => text s ≠ []) = [] := by
    refine List.filter_eq_nil_iff.mpr fun slot hslot => ?_
    have hmissing : st.positional[slot - 1]? = none := by
      have hrange := List.mem_range'_1.mp hslot
      exact List.getElem?_eq_none_iff.mpr (by omega)
    have htext := htexts slot (hsplit ▸ List.mem_append_right _ hslot)
    rw [argument, hmissing] at htext
    simpa using (Except.ok.inj htext).symm
  rw [shown, hsplit, List.filter_append, hnone, List.append_nil]

/-! ## Menus -/

/-- A machine is about to show a menu, whose slots have these texts and, where there is a text, these
texts of markers. -/
structure AtMenu (p : Program) (x : Session ω β) (st : Statement) (text marker : Nat → Text) :
    Prop where
  running : x.state.phase = .running
  statement : p.script[x.state.pc]? = some st
  verb : st.verb? = some .offer
  texts : ∀ slot ∈ slots, argument x.state.vars st (slot - 1) = .ok (text slot)
  markers : ∀ slot ∈ shown text,
    resolve? x.state.vars (st.named (some (slotName slot))) = .ok (marker slot)

/-- A machine is at a menu when it comes to one with parameters that can all be resolved. -/
theorem exists_atMenu (hrun : x.state.phase = .running) (hst : p.script[x.state.pc]? = some st)
    (hverb : st.verb? = some .offer)
    (hparams : ∀ q ∈ st.params, ∃ t, resolve x.state.vars q = .ok t) :
    ∃ text marker, AtMenu p x st text marker := by
  have hresolve : ∀ q : Option Param, (∀ r, q = some r → r ∈ st.params) →
      ∃ t, resolve? x.state.vars q = .ok t := by
    intro q hq
    cases q with
    | none => exact ⟨[], rfl⟩
    | some r => exact hparams r (hq r rfl)
  choose text htext using fun slot : Nat => hresolve st.positional[slot - 1]? fun r hr =>
    (List.mem_filter.mp (List.mem_of_getElem? hr)).1
  choose marker hmarker using fun slot : Nat => hresolve (st.named (some (slotName slot)))
    fun r hr => List.mem_of_find?_eq_some hr
  exact ⟨text, marker, hrun, hst, hverb, fun slot _ => htext slot, fun slot _ => hmarker slot⟩

/-- A machine that is led to the marker `m` goes on at the statement `i`: the first one that declares
the marker, or the statement `next` if the marker is empty or none declares it. -/
inductive GoesOn (script : List Statement) (m : Text) (next : Nat) : Nat → Prop
  | there {i : Nat} (hm : m ≠ []) (hi : FirstMark script m i) : GoesOn script m next i
  | next (hm : m = [] ∨ ∀ i, ¬ FirstMark script m i) : GoesOn script m next next

namespace AtMenu

variable {h : Host ω β}

/-- **A menu asks for the options of the slots that have a text.** -/
theorem request_eq (hmenu : AtMenu p x st text marker) (bridged : Bool) :
    request p bridged x.state.vars st = .ok (.offer ((shown text).map (offer text marker))) := by
  have hslot : ∀ e ∈ (st.positional.take 3).zipIdx 1,
      e.2 ∈ slots ∧ st.positional[e.2 - 1]? = some e.1 := by
    intro e he
    obtain ⟨hle, hlt, hq⟩ := List.mem_zipIdx he
    rw [List.length_take] at hlt
    refine ⟨List.mem_range'_1.mpr (by omega), ?_⟩
    rw [hq, List.getElem_take, List.getElem?_eq_getElem]
  have htexts : ∀ e ∈ (st.positional.take 3).zipIdx 1,
      resolve x.state.vars e.1 = .ok (text e.2) := by
    intro e he
    obtain ⟨hmem, hq⟩ := hslot e he
    have htext := hmenu.texts e.2 hmem
    rwa [argument, hq] at htext
  have hoffers := offersFrom_eq htexts fun e he htext => hmenu.markers e.2
    (List.mem_filter.mpr ⟨(hslot e he).1, decide_eq_true htext⟩)
  rw [← shown_eq hmenu.texts] at hoffers
  simp only [request, hmenu.verb, hoffers]
  rfl

/-- Where no slot has a text, the machine goes on at the next statement. -/
theorem step_of_none (hmenu : AtMenu p x st text marker) (hnone : shown text = []) :
    x.step h p = (none, { x with state := State.settle p { x.state with
      steps := x.state.steps + 1
      pc := x.state.pc + 1 } }) := by
  have hperform : x.count.perform h p st = (.ok none, x.count) := by
    refine (Session.perform_of_ok (x := x.count) (hmenu.request_eq _)).trans ?_
    rw [hnone]
    rfl
  rw [Session.step_of_ok hmenu.running hmenu.statement hperform]
  rfl

/-- **The options of the slots that have a text are shown**, and the machine waits for a choice. -/
theorem step_of_some (hmenu : AtMenu p x st text marker) (hsome : shown text ≠ []) :
    x.step h p = (none, { x with state := { x.state with
      steps := x.state.steps + 1
      pc := x.state.pc + 1
      phase := .waitingChoice
      offers := some ((shown text).map (offer text marker)) } }) := by
  have hperform : x.count.perform h p st = (.ok none, { x with state := { x.count.state with
      phase := .waitingChoice
      offers := some ((shown text).map (offer text marker)) } }) := by
    refine (Session.perform_of_ok (x := x.count) (hmenu.request_eq _)).trans ?_
    rw [Session.fulfil, if_neg (by simpa using hsome)]
    rfl
  rw [Session.step_of_ok hmenu.running hmenu.statement hperform]
  rfl

end AtMenu

/-! ## Choices -/

namespace GoesOn

variable {script script' : List Statement} {m : Text} {next i j : Nat}

theorem unique (hi : GoesOn script m next i) (hj : GoesOn script m next j) : i = j := by
  cases hi with
  | there hm hi =>
    cases hj with
    | there _ hj =>
      rw [← get?_labels_iff] at hi hj
      exact Option.some.inj (hi.symm.trans hj)
    | next hj => exact absurd hi ((hj.resolve_left hm) i)
  | next hi =>
    cases hj with
    | there hm hj => exact absurd hj ((hi.resolve_left hm) j)
    | next _ => rfl

/-- Of a script only the labels count. -/
theorem of_labels_eq (hi : GoesOn script m next i) (hlabels : labels script = labels script') :
    GoesOn script' m next i := by
  have hfirst : ∀ k, FirstMark script m k ↔ FirstMark script' m k := fun k => by
    rw [← get?_labels_iff, ← get?_labels_iff, hlabels]
  cases hi with
  | there hm hi => exact .there hm ((hfirst i).mp hi)
  | next hi => exact .next (hi.imp_right fun hnone k hk => hnone k ((hfirst k).mpr hk))

end GoesOn

/-- The offer of a slot leads to the marker of the slot. -/
theorem State.goesOn_target (p : Program) (s : State) (text marker : Nat → Text) (slot : Nat) :
    GoesOn p.script (marker slot) s.pc (s.target p (offer text marker slot)) := by
  by_cases hm : marker slot = []
  · have htarget : s.target p (offer text marker slot) = s.pc := by
      simp [State.target, offer, hm]
    exact htarget ▸ .next (.inl hm)
  · have htarget : s.target p (offer text marker slot) =
        ((labels p.script).get? (marker slot)).getD s.pc := by
      simp [State.target, offer, hm, p.labels_eq]
    rw [htarget]
    cases hlabel : (labels p.script).get? (marker slot) with
    | none =>
      refine .next (.inr fun i hi => ?_)
      rw [← get?_labels_iff, hlabel] at hi
      cases hi
    | some i => exact .there hm ((get?_labels_iff ..).mp hlabel)

/-- **The option that is chosen leads to the marker of its slot.** -/
theorem AtMenu.resumeChoice (hmenu : AtMenu p x st text marker) (h : Host ω β) {j slot : Nat}
    (hj : (shown text)[j]? = some slot) : ∃ next,
      GoesOn p.script (marker slot) (x.state.pc + 1) next ∧
      (x.step h p).2.state.resumeChoice p (some j) = .ok (State.settle p
        { (x.step h p).2.state with offers := none, pc := next, phase := .running }) := by
  have hsome : shown text ≠ [] := List.ne_nil_of_mem (List.mem_of_getElem? hj)
  have hoffer : ((shown text).map (offer text marker))[j]? = some (offer text marker slot) := by
    rw [List.getElem?_map, hj]
    rfl
  have hstep := hmenu.step_of_some (h := h) hsome
  have hpc : (x.step h p).2.state.pc = x.state.pc + 1 := by rw [hstep]
  have hphase : (x.step h p).2.state.phase = .waitingChoice := by rw [hstep]
  have hoffers : (x.step h p).2.state.offers = some ((shown text).map (offer text marker)) := by
    rw [hstep]
  generalize (x.step h p).2.state = s at hpc hphase hoffers
  refine ⟨s.target p (offer text marker slot), hpc ▸ s.goesOn_target p text marker slot, ?_⟩
  unfold State.resumeChoice
  rw [hphase, hoffers]
  dsimp only
  rw [if_neg (Int.not_lt.mpr (Int.natCast_nonneg j)), Int.toNat_natCast, hoffer]

/-- Chosen from the menu that the next step shows, the option of the slot leads to the statement `i`. -/
def Leads (h : Host ω β) (p : Program) (x : Session ω β) (text : Nat → Text) (slot i : Nat) : Prop :=
  ∃ (j : Nat) (t : State), (shown text)[j]? = some slot ∧
    (x.step h p).2.state.resumeChoice p (some j) = .ok t ∧ t.pc = i

/-- **Each option of a menu leads to the marker of its own slot.** Where no slot of a menu has a text,
the machine goes on at the next statement. Else it waits, with the texts of the slots that have one as
options, in the order of the slots. Whichever is chosen, the machine goes on where the first parameter
that is named for the slot of this option leads, or behind the menu. That is so whatever the other
slots are: from any other menu at the same place, among the same labels, an option of the same slot
with the same marker leads to the same statement. -/
theorem menu_leads (hmenu : AtMenu p x st text marker) (h : Host ω β) :
    (shown text = [] → x.step h p = (none, { x with state := State.settle p { x.state with
      steps := x.state.steps + 1
      pc := x.state.pc + 1 } })) ∧
    (shown text ≠ [] → (x.step h p).1 = none ∧
      (x.step h p).2.state.phase = .waitingChoice ∧
      (x.step h p).2.state.options = (shown text).map text) ∧
    (∀ (j slot : Nat), (shown text)[j]? = some slot → ∃ next,
      GoesOn p.script (marker slot) (x.state.pc + 1) next ∧
      (x.step h p).2.state.resumeChoice p (some j) = .ok (State.settle p
        { (x.step h p).2.state with offers := none, pc := next, phase := .running })) ∧
    ∀ (p' : Program) (x' : Session ω β) (st' : Statement) (text' marker' : Nat → Text),
      AtMenu p' x' st' text' marker' → p'.labels = p.labels → x'.state.pc = x.state.pc →
      ∀ slot i i', marker' slot = marker slot → Leads h p x text slot i →
        Leads h p' x' text' slot i' → i' = i := by
  refine ⟨hmenu.step_of_none, fun hsome => ?_, fun j slot => hmenu.resumeChoice h, ?_⟩
  · rw [hmenu.step_of_some hsome]
    refine ⟨rfl, rfl, ?_⟩
    simp only [State.options, Option.getD_some, List.map_map]
    rfl
  · rintro p' x' st' text' marker' hmenu' hlabels hpc slot i i' hmarker ⟨j, t, hj, ht, rfl⟩
      ⟨j', t', hj', ht', rfl⟩
    obtain ⟨next, hnext, hresume⟩ := hmenu.resumeChoice h hj
    obtain ⟨next', hnext', hresume'⟩ := hmenu'.resumeChoice h hj'
    obtain rfl := Except.ok.inj (hresume.symm.trans ht)
    obtain rfl := Except.ok.inj (hresume'.symm.trans ht')
    rw [State.settle_pc, State.settle_pc]
    rw [p.labels_eq, p'.labels_eq] at hlabels
    rw [hmarker, hpc] at hnext'
    exact (hnext'.of_labels_eq hlabels).unique hnext

/-- A menu with a slot that is empty, and with markers in another order than its slots. -/
def doors : Statement where
  command := ofString "Show_Options"
  params := ["\"\"", "lm3=\"out\"", "\"Stay\"", "$go", "lm1=\"in\""].map fun token =>
    Param.ofToken (ofString token)

/-- A script with the menu, and with two markers behind it. -/
def hall : Program where
  script := doors :: ["\"in\"", "\"out\""].map fun token =>
    { command := ofString "Line_Marker", params := [Param.ofToken (ofString token)] }
  catalog := { table := [], aliases := [] }

/-- A machine at the menu; the text of the last option is that of a variable. -/
def visitor : Session Unit Unit where
  state := { vars := [(ofString "go", ⟨ofString "go", .string, .text (ofString "Go"), 0⟩)] }
  output := ()
  game := ()

/-- The texts of its slots. -/
def doorText (slot : Nat) : Text :=
  if slot = 2 then ofString "Stay" else if slot = 3 then ofString "Go" else []

/-- The texts of its markers. -/
def doorMarker (slot : Nat) : Text := if slot = 3 then ofString "out" else []

theorem menu_leads_doors : AtMenu hall visitor doors doorText doorMarker ∧
    shown doorText = [2, 3] ∧
    (visitor.step Host.eager hall).2.state.options = [ofString "Stay", ofString "Go"] ∧
    ∃ next, GoesOn hall.script (ofString "out") 1 next ∧
      Leads (Host.eager : Host Unit Unit) hall visitor doorText 3 next := by
  have hmenu : AtMenu hall visitor doors doorText doorMarker :=
    ⟨rfl, rfl, by decide, by decide, by decide⟩
  obtain ⟨-, hshown, hchoice, -⟩ := menu_leads hmenu (Host.eager : Host Unit Unit)
  obtain ⟨next, hnext, hresume⟩ := hchoice 1 3 (by decide)
  refine ⟨hmenu, by decide, (hshown (by decide)).2.2, next, hnext, 1, _, by decide, hresume, ?_⟩
  exact State.settle_pc _ _

end Dialogue.Machine
