import Dialogue.Proofs.Machine.Loop
import Dialogue.Proofs.Machine.Resolve
import Dialogue.Proofs.Script.RoundTrip
import Mathlib.Data.List.Perm.Subperm

/-!
# Scripts that only go forward

A statement can send the machine to the markers that stand in it and to no others. Where these are
literals, and each is declared further on if it is declared at all, no run comes back to a statement:
it ends by itself, within as many statements as there are.

* `Param.Read`: a parameter as parsing leaves it; `resolve_eq_of_read` and `resolve_of_read` say that a
  literal one stands for its value, whatever the variables are;
* `Statement.exits`: the parameters that markers are taken from. `Request.LeadsTo.exit` and
  `exit_of_offered` say that they are taken from nowhere else;
* `ForwardOnly`: every exit is a literal and does not lead back, which can be decided;
* `Heading`: the options that are offered lead forward. `Again.heading` is the step, and with it
  `Again.pc_lt` and `Again.pc_le` say that a run does not go back;
* **`exists_loop_forward`**: how such a script is carried out.
-/

namespace Dialogue

open Text Script

/-! ## Parameters that are read -/

/-- The parameter is as parsing leaves one: trimmed, and its value is what is left without quotes. -/
structure Param.Read (q : Param) : Prop where
  trimmed : Trimmed q.raw
  value : q.value = stripQuotes q.raw

theorem Param.ofToken_read {token : Text} (ht : Trimmed token) : (ofToken token).Read := by
  rcases ofToken_cases token with heq | ⟨a, b, -, -, -, heq⟩
  · rw [heq]
    exact ⟨ht, rfl⟩
  · rw [heq]
    exact ⟨trim_trimmed b, rfl⟩

/-- The parameters of a script were read. -/
theorem Script.read_of_mem_parse {marks : List Text} {source : Text} {s : Statement} {q : Param}
    (hs : s ∈ parse marks source) (hq : q ∈ s.params) : q.Read := by
  obtain ⟨i, raw, -, hline⟩ := mem_parse_iff.mp hs
  obtain ⟨-, command, content, -, rfl⟩ := Statement.ofLine_eq_some_iff.mp hline
  obtain ⟨token, htoken, rfl⟩ := List.mem_map.mp hq
  exact Param.ofToken_read ((splitParams_tokens content).trimmed token htoken)

namespace Machine

variable {vars : Table Variable}

theorem isInteger_of_quoted {t body : Text} (h : quotedBody? t = some body) :
    isInteger t = false := by
  rw [quotedBody?_eq_some_iff.mp h]
  rfl

/-- **A literal is read, if it is not an integer of too many digits**, and then it stands for its
value whatever the variables are. -/
theorem resolve_eq_of_read {q : Param} (hq : q.Read) (hraw : q.raw.head? ≠ some '$') :
    resolve vars q =
      if isInteger q.raw then (integer q.raw).map fun _ => q.value else .ok q.value := by
  have href : referenceName? q.raw = none := by
    cases h : q.raw with
    | nil => rfl
    | cons c r => simp_all [referenceName?]
  have hinter : interpolatedBody? q.raw = none := by
    cases h : q.raw with
    | nil => rfl
    | cons c r => simp_all [interpolatedBody?]
  cases hbody : quotedBody? q.raw with
  | some body =>
    rw [resolve_quoted hbody, isInteger_of_quoted hbody, hq.value, stripQuotes, hbody]
    rfl
  | none =>
    have hvalue : q.value = q.raw := by rw [hq.value, stripQuotes, hbody]
    simp only [resolve, Value.ofToken, hq.trimmed.trim_eq, href, hinter, hbody]
    split_ifs
    · cases integer q.raw <;> rfl
    · rfl
    · rw [hvalue]
      rfl

/-- **A literal stands for its value**, whatever the variables are. -/
theorem resolve_of_read {q : Param} {t : Text} (hq : q.Read) (hraw : q.raw.head? ≠ some '$')
    (ht : resolve vars q = .ok t) : t = q.value := by
  rw [resolve_eq_of_read hq hraw] at ht
  split_ifs at ht
  · obtain ⟨i, -, rfl⟩ := map_eq_ok_iff.mp ht
    rfl
  · exact (Except.ok.inj ht).symm

end Machine

/-! ## Exits -/

/-- The parameters that the markers of a statement are taken from; for one that a jump or a question
lacks, the empty text is looked up. -/
def Statement.exits (s : Statement) : List (Option Param) :=
  match s.verb? with
  | some .jump => [s.positional[0]?]
  | some .check => [s.positional[2]?, s.positional[3]?]
  | some .offer => ([1, 2, 3].filterMap fun slot => s.named (some (Machine.slotName slot))).map some
  | _ => []

/-- The marker that an exit leads to when it is a literal. -/
def exitMarker (exit : Option Param) : Text := (exit.map Param.value).getD []

theorem Statement.mem_params_of_exit {s : Statement} {q : Param} (hq : some q ∈ s.exits) :
    q ∈ s.params := by
  have hpositional : ∀ {i : Nat}, some q = s.positional[i]? → q ∈ s.params := by
    intro i hi
    exact (List.mem_filter.mp (List.mem_of_getElem? hi.symm)).1
  unfold exits at hq
  split at hq
  · exact hpositional (List.mem_singleton.mp hq)
  · rcases List.mem_pair.mp hq with hq | hq
    · exact hpositional hq
    · exact hpositional hq
  · obtain ⟨q', hq', heq⟩ := List.mem_map.mp hq
    obtain ⟨slot, -, hslot⟩ := List.mem_filterMap.mp hq'
    obtain rfl := Option.some.inj heq
    exact List.mem_of_find?_eq_some hslot
  · cases hq

namespace Machine

variable {p : Program} {bridged : Bool} {vars : Table Variable} {s : Statement} {r : Request}
  {m : Text}

/-- **The marker that a request leads to** is taken from an exit of its statement. -/
theorem Request.LeadsTo.exit (hm : r.LeadsTo vars s m) (hr : request p bridged vars s = .ok r) :
    ∃ q ∈ s.exits, resolve? vars q = .ok m := by
  have hreq := requested hr
  cases hm with
  | jump marker =>
    cases hreq with
    | jump hverb hmarker => exact ⟨s.positional[0]?, by simp [Statement.exits, hverb], hmarker⟩
  | check passed hmarker =>
    cases hreq with
    | check hverb _ _ _ =>
      refine ⟨_, ?_, hmarker⟩
      cases passed <;> simp [Statement.exits, hverb]

/-- An option has its marker from the parameter for its slot. -/
theorem marker_of_mem_offers {o : Offer} (hm : o.marker = some m) :
    ∀ {params : List Param} {slot : Nat} {offers : List Offer},
      offersFrom vars s slot params = .ok offers → o ∈ offers →
        ∃ k < params.length, resolve? vars (s.named (some (slotName (slot + k)))) = .ok m ∧ m ≠ []
  | [], slot, offers, h, ho => by
    obtain rfl := Except.ok.inj h
    cases ho
  | q :: ps, slot, offers, h, ho => by
    have hshift : ∀ {later : List Offer}, offersFrom vars s (slot + 1) ps = .ok later → o ∈ later →
        ∃ k < ps.length + 1,
          resolve? vars (s.named (some (slotName (slot + k)))) = .ok m ∧ m ≠ [] := by
      intro later hlater hmem
      obtain ⟨k, hk, hmarker⟩ := marker_of_mem_offers hm hlater hmem
      exact ⟨k + 1, by omega, by rwa [show slot + (k + 1) = slot + 1 + k by omega]⟩
    obtain ⟨text, -, h⟩ := bind_eq_ok_iff.mp h
    split at h
    · exact hshift h ho
    · obtain ⟨marker, hmarker, h⟩ := bind_eq_ok_iff.mp h
      obtain ⟨later, hlater, h⟩ := bind_eq_ok_iff.mp h
      obtain rfl := pure_eq_ok_iff.mp h
      rcases List.mem_cons.mp ho with rfl | ho
      · dsimp only at hm
        split_ifs at hm with hempty
        obtain rfl := Option.some.inj hm
        exact ⟨0, Nat.succ_pos _, hmarker, by simpa using hempty⟩
      · exact hshift hlater ho

/-- **The marker of an option that is offered** is taken from an exit of its statement. -/
theorem exit_of_offered {offers : List Offer} {o : Offer}
    (hr : request p bridged vars s = .ok (.offer offers)) (ho : o ∈ offers)
    (hm : o.marker = some m) : ∃ q ∈ s.exits, resolve? vars q = .ok m := by
  cases requested hr with
  | offer hverb hoffers =>
    obtain ⟨k, hk, hmarker, hne⟩ := marker_of_mem_offers hm hoffers ho
    have hslot : 1 + k ∈ [1, 2, 3] := by
      have hlen := List.length_take_le 3 s.positional
      simp only [List.mem_cons, List.not_mem_nil, or_false]
      omega
    cases hnamed : s.named (some (slotName (1 + k))) with
    | none =>
      rw [hnamed] at hmarker
      exact absurd (Except.ok.inj hmarker).symm hne
    | some q =>
      rw [hnamed] at hmarker
      refine ⟨some q, ?_, hmarker⟩
      simp only [Statement.exits, hverb]
      exact List.mem_map.mpr ⟨q, List.mem_filterMap.mpr ⟨1 + k, hslot, hnamed⟩, rfl⟩

/-! ## Scripts without a way back -/

/-- Every exit of every statement is a literal, and a marker that it leads to is declared further
on. -/
def ForwardOnly (p : Program) : Prop :=
  ∀ i (hi : i < p.script.length), ∀ exit ∈ p.script[i].exits,
    (∀ q ∈ exit, q.raw.head? ≠ some '$') ∧ ∀ j ∈ p.labels.get? (exitMarker exit), i < j

instance (p : Program) : Decidable (ForwardOnly p) :=
  inferInstanceAs (Decidable (∀ i (hi : i < p.script.length), ∀ exit ∈ p.script[i].exits,
    (∀ q ∈ exit, q.raw.head? ≠ some '$') ∧ ∀ j ∈ p.labels.get? (exitMarker exit), i < j))

/-- **What a statement looks up is declared further on**, whatever the variables are. -/
theorem ForwardOnly.lt {marks : List Text} {source : Text} {i j : Nat} {exit : Option Param}
    (hf : ForwardOnly p) (hp : p.script = parse marks source) (hs : p.script[i]? = some s)
    (hexit : exit ∈ s.exits) (hm : resolve? vars exit = .ok m) (hj : p.labels.get? m = some j) :
    i < j := by
  obtain ⟨hi, rfl⟩ := List.getElem?_eq_some_iff.mp hs
  obtain ⟨hliteral, hahead⟩ := hf i hi exit hexit
  have hmarker : m = exitMarker exit := by
    cases exit with
    | none => exact (Except.ok.inj hm).symm
    | some q =>
      have hmem : p.script[i] ∈ parse marks source := hp ▸ List.getElem_mem hi
      exact resolve_of_read (read_of_mem_parse hmem (Statement.mem_params_of_exit hexit))
        (hliteral q rfl) hm
  exact hahead j (hmarker ▸ hj)

/-- Where the machine waits for a choice, no option leads back. -/
def Heading (p : Program) (s : State) : Prop :=
  s.phase = .waitingChoice → ∀ offers, s.offers = some offers →
    ∀ o ∈ offers, ∀ m, o.marker = some m → ∀ j, p.labels.get? m = some j → s.pc ≤ j

theorem heading_of_not_waits {s : State} (hs : ¬ s.phase.Waits) : Heading p s :=
  fun hwait => absurd (.inr hwait) hs

theorem Heading.settle {s : State} (hs : Heading p s) : Heading p (State.settle p s) := by
  unfold State.settle
  split
  · exact heading_of_not_waits (by simp [State.finish, Phase.Waits])
  · exact hs

/-- Only a request that offers options makes a running machine wait for a choice. -/
theorem State.offered_of_waitingChoice {s : State} {line : Int} (hs : s.phase = .running)
    (hwait : (s.fulfil line r).phase = .waitingChoice) :
    ∃ offers, r = .offer offers ∧ (s.fulfil line r).offers = some offers := by
  unfold State.fulfil at hwait ⊢
  split at hwait
  · split at hwait <;> simp [hs] at hwait
  · cases hwait
  · rename_i offers
    split at hwait
    · simp [hs] at hwait
    · rename_i hne
      exact ⟨offers, rfl, by rw [if_neg hne]⟩
  · simp [hs] at hwait

/-! ## Runs -/

section Runs

variable {ω β : Type} {h : Host ω β} {x y : Session ω β} {xs : List (Session ω β)}
  {t : Turn ω β} {marks : List Text} {source : Text}

/-- **A step goes forward**, and offers what leads forward from there. -/
theorem ForwardOnly.step (hf : ForwardOnly p) (hp : p.script = parse marks source)
    (hx : x.state.Sound p) (hrun : x.state.phase = .running) (hstep : x.step h p = (none, y)) :
    x.state.pc < y.state.pc ∧ Heading p y.state := by
  obtain ⟨st, hst⟩ := hx.exists_statement hrun
  obtain ⟨r, target, hr, htarget, hy⟩ := Session.moved_of_step hrun hst hstep
  have hpc : x.state.pc < target.getD (x.state.pc + 1) := by
    cases target with
    | none => exact Nat.lt_succ_self _
    | some i =>
      obtain ⟨m, hm, hi⟩ := htarget i rfl
      obtain ⟨exit, hexit, hmarker⟩ := hm.exit hr
      exact hf.lt hp hst hexit hmarker hi
  rw [hy]
  refine ⟨by rwa [State.settle_pc], Heading.settle ?_⟩
  intro hwait offers hoffers o ho m hm j hj
  obtain ⟨offers', rfl, hoffers'⟩ := State.offered_of_waitingChoice (s := x.count.state) hrun hwait
  obtain rfl := Option.some.inj (hoffers'.symm.trans hoffers)
  obtain ⟨exit, hexit, hmarker⟩ := exit_of_offered hr ho hm
  have hlt := hf.lt hp hst hexit hmarker hj
  cases target with
  | none => exact hlt
  | some i =>
    obtain ⟨_, hlead, -⟩ := htarget i rfl
    cases hlead

theorem Heading.resumeChoice {s s' : State} {index : Option Int} (hs : Heading p s)
    (hindex : s.resumeChoice p index = .ok s') : s.pc ≤ s'.pc := by
  cases State.chosen hindex with
  | dismissed _ => exact Nat.le_refl _
  | @taken offers o hwait hoffers ho =>
    rw [State.settle_pc]
    change s.pc ≤ s.target p o
    unfold State.target
    split
    · exact Nat.le_refl _
    · rename_i m hm
      cases hj : p.labels.get? m with
      | none => exact Nat.le_refl _
      | some j => exact hs hwait offers hoffers o ho m hm j hj

/-- **No turn goes back**, and one that carries out a statement goes on to a later one. -/
theorem Again.forward (hxy : Again h p none x y) (hf : ForwardOnly p)
    (hp : p.script = parse marks source) (hx : x.state.Sound p) (hhead : Heading p x.state) :
    Heading p y.state ∧ x.state.pc ≤ y.state.pc ∧
      (x.state.phase = .running → x.state.pc < y.state.pc) := by
  cases hxy.onward with
  | limited _ hlimit => cases hlimit
  | stepped hrun _ hstep =>
    obtain ⟨hlt, hnext⟩ := hf.step hp hx hrun hstep
    exact ⟨hnext, Nat.le_of_lt hlt, fun _ => hlt⟩
  | woken hwait =>
    refine ⟨heading_of_not_waits (settle_not_waits rfl), ?_, fun hrun => ?_⟩
    · exact Nat.le_of_eq (State.settle_pc p { x.state with waitMs := 0, phase := .running }).symm
    · rw [hwait] at hrun
      cases hrun
  | chosen hwait hindex =>
    refine ⟨heading_of_not_waits (State.resumeChoice_not_waits hindex),
      hhead.resumeChoice hindex, fun hrun => ?_⟩
    rw [hwait] at hrun
    cases hrun

/-- The statements from `pc` on drain away. -/
theorem ForwardOnly.drains (hf : ForwardOnly p) (hp : p.script = parse marks source)
    (h : Host ω β) : Drains h p none (fun x => x.state.Sound p ∧ Heading p x.state)
      fun s => p.script.length - s.pc where
  keeps _ _ hx hxy := ⟨hxy.sound hx.1, (hxy.forward hf hp hx.1 hx.2).1⟩
  statement _ _ hx hxy hrun := by
    have hlt := (hxy.forward hf hp hx.1 hx.2).2.2 hrun
    have hpc := hx.1.pc_lt hrun
    exact .inr (by omega)
  wait _ _ hx hxy _ := by
    have hle := (hxy.forward hf hp hx.1 hx.2).2.1
    omega

/-- **The statements that a run begins** come one after the other in the script. -/
theorem Loop.begun_pairwise (hl : Loop h p none x xs t) (hf : ForwardOnly p)
    (hp : p.script = parse marks source) (hx : x.state.Sound p) (hhead : Heading p x.state) :
    (∀ i ∈ begun none xs, x.state.pc ≤ i) ∧ (begun none xs).Pairwise (· < ·) := by
  induction hl with
  | halted _ => exact ⟨by simp [begun], List.Pairwise.nil⟩
  | last _ _ =>
    rw [begun_cons]
    split
    · exact ⟨by simp [begun], List.pairwise_singleton _ _⟩
    · exact ⟨by simp [begun], List.Pairwise.nil⟩
  | @round x y xs t hxy _ ih =>
    obtain ⟨hhead', hle, hlt⟩ := hxy.forward hf hp hx hhead
    obtain ⟨hfrom, hsorted⟩ := ih (hxy.sound hx) hhead'
    rw [begun_cons]
    split
    · rename_i hbegins
      have hahead : ∀ i ∈ begun none xs, x.state.pc < i := fun i hi =>
        Nat.lt_of_lt_of_le (hlt hbegins.1) (hfrom i hi)
      refine ⟨List.forall_mem_cons.mpr ⟨Nat.le_refl _, fun i hi => ?_⟩,
        List.pairwise_cons.mpr ⟨hahead, hsorted⟩⟩
      exact Nat.le_of_lt (hahead i hi)
    · exact ⟨fun i hi => Nat.le_trans hle (hfrom i hi), hsorted⟩

/-- Only statements of the script are begun. -/
theorem Loop.begun_lt (hl : Loop h p none x xs t) (hx : x.state.Sound p) :
    ∀ i ∈ begun none xs, i < p.script.length := by
  intro i hi
  obtain ⟨y, hy, rfl⟩ := List.mem_map.mp hi
  obtain ⟨hmem, hbegins⟩ := List.mem_filter.mp hy
  have hsound := (hl.keeps (P := fun x => x.state.Sound p) (fun _ => Session.turn_sound) hx).1 y hmem
  exact hsound.pc_lt (of_decide_eq_true hbegins).1

/-- **A script that only goes forward is carried out once.** On a host whose calls come back, whatever
it chooses and answers and whichever calls fail, the run without a step limit comes to an end; the
statements that it begins are in ascending order, each one at most once, and they are all that it
counts. -/
theorem exists_loop_forward (hh : h.Responsive) (hp : p.script = parse marks source)
    (hf : ForwardOnly p) (output : ω) (game : β) :
    ∃ xs t, Loop h p none (Session.fresh p output game) xs t ∧ (∀ y, t ≠ .held y) ∧
      (begun none xs).Pairwise (· < ·) ∧ t.session.state.steps = (begun none xs).length ∧
      t.session.state.steps ≤ p.script.length := by
  have hfresh := fresh_sound p output game
  have hhead : Heading p (Session.fresh p output game).state :=
    heading_of_not_waits (fresh_not_waits p output game)
  obtain ⟨xs, t, hl, -⟩ := (hf.drains hp h).exists_loop ⟨hfresh, hhead⟩
  obtain ⟨-, hsorted⟩ := hl.begun_pairwise hf hp hfresh hhead
  have hsteps : t.session.state.steps = (begun none xs).length := by
    rw [hl.steps_eq hfresh, fresh_steps, Nat.zero_add]
  refine ⟨xs, t, hl, hl.ne_held hh, hsorted, hsteps, ?_⟩
  -- a list of different numbers below the length of the script is no longer than that
  have hsub : begun none xs ⊆ List.range p.script.length := fun i hi =>
    List.mem_range.mpr (hl.begun_lt hfresh i hi)
  have hnodup : (begun none xs).Nodup := hsorted.imp Nat.ne_of_lt
  calc t.session.state.steps = (begun none xs).length := hsteps
    _ ≤ (List.range p.script.length).length := (hnodup.subperm hsub).length_le
    _ = p.script.length := List.length_range

end Runs

/-- A shop that is left at once, or at the end of the talk, or when the key is there. -/
def visit : Text := ofString
  "Show_Options [\"Stay\", \"Go\", lm2=\"out\"]
Check_Has [\"me\", \"key\", \"out\"]
Jump_To [\"out\"]
Line_Marker [\"out\"]"

/-- The visit with a catalog without commands. -/
def visiting : Program where
  script := parse defaultMarks visit
  catalog := { table := [], aliases := [] }

theorem exists_loop_forward_visiting :
    ForwardOnly visiting ∧ ∃ xs t, Loop (Host.eager : Host Unit Unit) visiting none
      (Session.fresh visiting () ()) xs t ∧ (begun none xs).Pairwise (· < ·) ∧
        t.session.state.steps ≤ visiting.script.length := by
  have hf : ForwardOnly visiting := by decide +kernel
  have hp : visiting.script = parse defaultMarks visit := by rw [visiting]
  obtain ⟨xs, t, hl, -, hsorted, -, hsteps⟩ :=
    exists_loop_forward (Host.eager_responsive (β := Unit)) hp hf () ()
  exact ⟨hf, xs, t, hl, hsorted, hsteps⟩

end Machine

end Dialogue
