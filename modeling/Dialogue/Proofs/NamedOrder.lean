import Dialogue.Proofs.Lint.Binding
import Dialogue.Proofs.Lint.Reordered
import Dialogue.Proofs.Machine.Interchange
import Dialogue.Proofs.Machine.Loop
import Dialogue.Proofs.Machine.Options
import Dialogue.Proofs.Machine.Record

/-!
# The order of named parameters does not matter

The named parameters of a command line may stand anywhere behind the required ones. The linter finds
the same on the line, the machine does the same, and the game gets the same command, its options as a
mapping. The one of the machine's own commands that is different is the question for an item where no
game is there to be asked: it is written out with all its values as they stand.

* `Statement.named_reordered`, `Statement.agree_of_reordered`: the statements are read alike;
* `SentAlike`, `request_sentAlike`: what the game is sent;
* **`named_order`**: linter, machine and game. `exists_order_shown` is a question that is written out
  in two ways.
-/

namespace Dialogue

open Text Script Lint

variable {marks : List Text} {r : Nat} {ts ts' : List Text} {s s' : Statement}

/-! ## Statements -/

theorem isPositional_ofToken_eq (t : Text) : (Param.ofToken t).isPositional = isUnnamed t := by
  rw [Bool.eq_iff_iff, isPositional_ofToken, isUnnamed, Option.isNone_iff_eq_none]

/-- The unnamed parameters are those of the unnamed tokens. -/
theorem Statement.positional_eq (hs : s.params = ts.map Param.ofToken) :
    s.positional = (ts.filter isUnnamed).map Param.ofToken := by
  unfold Statement.positional
  rw [hs, List.filter_map]
  congr 2
  funext t
  exact isPositional_ofToken_eq t

/-- The parameter without a name that is found first is the first of the unnamed ones. -/
theorem Statement.named_none (s : Statement) : s.named none = s.positional.head? := by
  unfold Statement.named Statement.positional
  rw [List.head?_filter]
  congr 1
  funext q
  unfold Param.isPositional
  cases q.name <;> rfl

theorem Statement.params_reordered (h : Reordered r ts ts') (hs : s.params = ts.map Param.ofToken)
    (hs' : s'.params = ts'.map Param.ofToken) : s'.params.Perm s.params := by
  rw [hs, hs']
  exact h.tokens_perm.map _

theorem Statement.positional_reordered (h : Reordered r ts ts')
    (hs : s.params = ts.map Param.ofToken) (hs' : s'.params = ts'.map Param.ofToken) :
    s'.positional = s.positional := by
  rw [Statement.positional_eq hs, Statement.positional_eq hs', ← List.take_append_drop r ts,
    ← List.take_append_drop r ts', List.filter_append, List.filter_append, h.required, h.unnamed]

/-- **The same parameter is found under every name**, and without one. -/
theorem Statement.named_reordered (h : Reordered r ts ts') (hs : s.params = ts.map Param.ofToken)
    (hs' : s'.params = ts'.map Param.ofToken) (hnames : (s.params.filterMap Param.name).Nodup)
    (name : Option Text) : s'.named name = s.named name := by
  cases name with
  | none => rw [s.named_none, s'.named_none, Statement.positional_reordered h hs hs']
  | some name => exact Param.find?_name_perm hnames (Statement.params_reordered h hs hs') name

namespace Machine

variable {ω β : Type} {p : Program} {vars : Table Variable}

/-! ## Commands for the game -/

/-- Both requests are refused, or both send a command, of the same name and with the same arguments,
and with the same option under every name. -/
inductive SentAlike : Except TooManyDigits Request → Except TooManyDigits Request → Prop
  | refused (e e' : TooManyDigits) : SentAlike (.error e) (.error e')
  | sent {g g' : GameCommand} (hname : g'.name = g.name) (harguments : g'.arguments = g.arguments)
      (hoptions : ∀ name, g'.options.get? name = g.options.get? name) :
      SentAlike (.ok (.send g)) (.ok (.send g'))

/-- The options of permuted parameters are the same, as a mapping. -/
theorem resolveOptions_perm {options options' : Table Text}
    (hnames : (s.params.filterMap Param.name).Nodup) (hperm : s'.params.Perm s.params)
    (hoptions : resolveOptions vars [] s.params = .ok options)
    (hoptions' : resolveOptions vars [] s'.params = .ok options') (name : Text) :
    options'.get? name = options.get? name := by
  have hlast : s'.lastNamed name = s.lastNamed name := by
    have hnames' := (hperm.filterMap Param.name).nodup_iff.mpr hnames
    rw [← Statement.named_eq_lastNamed hnames, ← Statement.named_eq_lastNamed hnames']
    exact Param.find?_name_perm hnames hperm name
  have hget := get?_resolveOptions hoptions name
  have hget' := get?_resolveOptions hoptions' name
  rw [Table.get?_nil, Option.map_none, Option.or_none] at hget hget'
  refine Option.map_injective (fun _ _ => Except.ok.inj) (hget'.trans (Eq.trans ?_ hget.symm))
  exact congrArg (Option.map (resolve vars)) hlast

/-- **The game is sent the same command**, up to the order of its options. -/
theorem gameCommand_sentAlike (hnames : (s.params.filterMap Param.name).Nodup)
    (hperm : s'.params.Perm s.params) (hpositional : s'.positional = s.positional)
    (vars : Table Variable) (c : Contract) :
    SentAlike ((gameCommand vars c s).map .send) ((gameCommand vars c s').map .send) := by
  have hexists : (∃ options, resolveOptions vars [] s'.params = .ok options) ↔
      ∃ options, resolveOptions vars [] s.params = .ok options := by
    rw [exists_resolveOptions_iff, exists_resolveOptions_iff]
    exact forall_congr' fun q => imp_congr_left hperm.mem_iff
  unfold gameCommand
  rw [hpositional]
  cases resolveAll vars s.positional with
  | error e => exact .refused e e
  | ok arguments =>
    cases hoptions : resolveOptions vars [] s.params with
    | error e =>
      cases hoptions' : resolveOptions vars [] s'.params with
      | error e' => exact .refused e e'
      | ok options' =>
        obtain ⟨options, h⟩ := hexists.mp ⟨options', hoptions'⟩
        cases h.symm.trans hoptions
    | ok options =>
      obtain ⟨options', hoptions'⟩ := hexists.mpr ⟨options, hoptions⟩
      rw [hoptions']
      exact .sent rfl rfl (resolveOptions_perm hnames hperm hoptions hoptions')

theorem request_sentAlike (hagree : s.Agree s') (hnames : (s.params.filterMap Param.name).Nodup)
    (hperm : s'.params.Perm s.params) (hverb : s.verb? = none)
    (hknown : (p.catalog.find? s.command).isSome) :
    SentAlike (request p true vars s) (request p true vars s') := by
  obtain ⟨c, hfind⟩ := Option.isSome_iff_exists.mp hknown
  have hfind' : p.catalog.find? s'.command = some c := (hagree.find? p.catalog).trans hfind
  have hverb' : s'.verb? = none := hagree.verb?.trans hverb
  simp only [request, hverb, hverb', forward, hfind, hfind']
  exact gameCommand_sentAlike hnames hperm hagree.positional vars c

/-- A question is written out where no game is there. -/
theorem request_of_unasked (hverb : s.verb? = some .check) :
    request p false vars s = .ok (.say (unhandledLine s)) := by
  simp only [request, hverb, if_neg Bool.false_ne_true]
  unfold forward
  cases p.catalog.find? s.command <;> rfl

end Machine

open Machine

variable {catalog : Catalog} {raw raw' command command' content content' : Text} {c : Contract}

/-- **The order of named parameters does not matter.** Take two lines of a known command whose tokens
are the same but for the places of the named ones behind the required ones. The linter reports the
same of both. Their statements have the same unnamed parameters in order; and if no name is given
twice, they have the same parameter under every name. Then a machine that carries one of its own
commands out does the same for both, as long as the command is not a question that has no game to go
to; a game that gets the command gets the same name, arguments and option under every name; and a
question without a game is written out, with the same values in their two orders. -/
theorem named_order (hline : commandLine? marks raw = some (command, content))
    (hline' : commandLine? marks raw' = some (command', content'))
    (hcommand : lower command' = lower command) (hfind : catalog.find? command = some c)
    (h : Reordered c.required.length (splitParams content) (splitParams content')) :
    (∀ facts range, lineDiagnostics catalog marks facts range raw' =
      lineDiagnostics catalog marks facts range raw) ∧
    ∀ line : Int, ∃ s s', Statement.ofLine marks line raw = some s ∧
      Statement.ofLine marks line raw' = some s' ∧ s'.positional = s.positional ∧
      ((s.params.filterMap Param.name).Nodup →
        (∀ name : Option Text, s'.named name = s.named name) ∧
        (∀ {ω β : Type} (h : Host ω β) (x : Session ω β), s.CarriedOut h.bridge.isSome →
          (∀ p : Program, x.perform h p s' = x.perform h p s) ∧
          ∀ p p' : Program, p.Parallel p' → p.script[x.state.pc]? = some s →
            p'.script[x.state.pc]? = some s' → x.step h p' = x.step h p) ∧
        (∀ (p : Program) vars, s.verb? = none → (p.catalog.find? s.command).isSome →
          SentAlike (request p true vars s) (request p true vars s')) ∧
        (s.verb? = some .check → (s'.params.map Param.value).Perm (s.params.map Param.value) ∧
          ∀ (p : Program) vars,
            request p false vars s = .ok (.say (unhandledLine s)) ∧
            request p false vars s' = .ok (.say (unhandledLine s')))) := by
  obtain ⟨hskip, hmatch⟩ := commandLine?_eq_some_iff.mp hline
  obtain ⟨hskip', hmatch'⟩ := commandLine?_eq_some_iff.mp hline'
  have hfind' : catalog.find? command' = some c := by
    rw [Catalog.find?, hcommand]
    exact hfind
  refine ⟨lineDiagnostics_reordered hline hline' hfind hfind' h, fun line => ?_⟩
  let s : Statement := { command, params := (splitParams content).map Param.ofToken, line, raw }
  let s' : Statement :=
    { command := command', params := (splitParams content').map Param.ofToken, line, raw := raw' }
  have hpositional : s'.positional = s.positional := Statement.positional_reordered h rfl rfl
  have hperm : s'.params.Perm s.params := Statement.params_reordered h rfl rfl
  refine ⟨s, s', Statement.ofLine_eq_some_iff.mpr ⟨hskip, _, _, hmatch, rfl⟩,
    Statement.ofLine_eq_some_iff.mpr ⟨hskip', _, _, hmatch', rfl⟩, hpositional, fun hnames => ?_⟩
  have hnamed : ∀ name : Option Text, s'.named name = s.named name :=
    Statement.named_reordered h rfl rfl hnames
  have hagree : s.Agree s' := ⟨hcommand, rfl, hpositional, fun name => hnamed (some name)⟩
  refine ⟨hnamed, fun h x hown => ⟨fun p => ?_, fun p p' hp hs hs' => ?_⟩, fun p vars => ?_,
    fun hverb => ⟨hperm.map _, fun p vars => ⟨request_of_unasked hverb, request_of_unasked ?_⟩⟩⟩
  · exact Session.perform_agree (.refl p) hagree (.inl hown)
  · exact Session.step_agree hp hs hs' hagree (.inl hown)
  · exact request_sentAlike hagree hnames hperm
  · exact hagree.verb?.trans hverb

/-- A menu with the markers behind its options, and among them. -/
def menu : Text := ofString "Show_Options [\"Go\", \"Stay\", lm1=\"gone\", lm2=\"there\"]"

def menuMixed : Text := ofString "Show_Options [\"Go\", lm2=\"there\", \"Stay\", lm1=\"gone\"]"

theorem named_order_menu : ∃ content content' c s s',
    commandLine? defaultMarks menu = some (ofString "Show_Options", content) ∧
    commandLine? defaultMarks menuMixed = some (ofString "Show_Options", content') ∧
    lower (ofString "Show_Options") = lower (ofString "Show_Options") ∧
    Catalog.standard.find? (ofString "Show_Options") = some c ∧
    Reordered c.required.length (splitParams content) (splitParams content') ∧
    splitParams content' ≠ splitParams content ∧
    Statement.ofLine defaultMarks 0 menu = some s ∧
    Statement.ofLine defaultMarks 0 menuMixed = some s' ∧
    (s.params.filterMap Param.name).Nodup ∧
    ∀ p : Program, (Session.fresh p () ()).perform (Host.eager : Host Unit Unit) p s' =
      (Session.fresh p () ()).perform Host.eager p s := by
  have hline : commandLine? defaultMarks menu = some (ofString "Show_Options",
      ofString "\"Go\", \"Stay\", lm1=\"gone\", lm2=\"there\"") := by decide
  have hline' : commandLine? defaultMarks menuMixed = some (ofString "Show_Options",
      ofString "\"Go\", lm2=\"there\", \"Stay\", lm1=\"gone\"") := by decide
  obtain ⟨c, hfind, hrequired⟩ : ∃ c, Catalog.standard.find? (ofString "Show_Options") = some c ∧
      c.required.length = 1 := ⟨_, rfl, rfl⟩
  have hreordered : Reordered c.required.length
      (splitParams (ofString "\"Go\", \"Stay\", lm1=\"gone\", lm2=\"there\""))
      (splitParams (ofString "\"Go\", lm2=\"there\", \"Stay\", lm1=\"gone\"")) := by
    rw [hrequired]
    exact ⟨by decide, by decide, by decide⟩
  obtain ⟨-, hstatements⟩ := named_order hline hline' rfl hfind hreordered
  obtain ⟨s, s', hs, hs', -, hsame⟩ := hstatements 0
  have hread : (Statement.ofLine defaultMarks 0 menu).map
      (fun s => (s.verb?, s.params.filterMap Param.name)) =
        some (some .offer, [ofString "lm1", ofString "lm2"]) := by decide
  rw [hs] at hread
  obtain ⟨hverb, hgiven⟩ := Prod.mk.inj (Option.some.inj hread)
  have hnames : (s.params.filterMap Param.name).Nodup := hgiven ▸ by decide
  obtain ⟨-, hown, -⟩ := hsame hnames
  exact ⟨_, _, c, s, s', hline, hline', rfl, hfind, hreordered, by decide, hs, hs', hnames,
    fun p => (hown Host.eager (Session.fresh p () ()) ⟨.offer, hverb, nofun⟩).1 p⟩

/-- A question with two notes, and with the notes in the other order. -/
def asking : Text := ofString "Check_Has [\"Ann\", \"rose\", \"yes\", \"no\", a=1, b=2]"

def askingSwapped : Text := ofString "Check_Has [\"Ann\", \"rose\", \"yes\", \"no\", b=2, a=1]"

/-- **A question without a game shows the order.** Its line lists the values as they stand. -/
theorem exists_order_shown : ∃ content content' c s s',
    commandLine? defaultMarks asking = some (ofString "Check_Has", content) ∧
    commandLine? defaultMarks askingSwapped = some (ofString "Check_Has", content') ∧
    Catalog.standard.find? (ofString "Check_Has") = some c ∧
    Reordered c.required.length (splitParams content) (splitParams content') ∧
    Statement.ofLine defaultMarks 0 asking = some s ∧
    Statement.ofLine defaultMarks 0 askingSwapped = some s' ∧
    (s.params.filterMap Param.name).Nodup ∧ s.verb? = some .check ∧
    ∀ p : Program,
      ((Session.fresh p () ()).perform (Host.eager : Host Unit Unit) p s).2.lines =
        [ofString "(unhandled) Check_Has Ann, rose, yes, no, 1, 2"] ∧
      ((Session.fresh p () ()).perform (Host.eager : Host Unit Unit) p s').2.lines =
        [ofString "(unhandled) Check_Has Ann, rose, yes, no, 2, 1"] ∧
      ((Session.fresh p () ()).perform (Host.eager : Host Unit Unit) p s').2.lines ≠
        ((Session.fresh p () ()).perform (Host.eager : Host Unit Unit) p s).2.lines := by
  have hshown : ∀ (p : Program) (s : Statement), s.verb? = some .check →
      ((Session.fresh p () ()).perform (Host.eager : Host Unit Unit) p s).2.lines =
        [unhandledLine s] := by
    intro p s hverb
    rw [Session.perform_of_ok (request_of_unasked hverb)]
    rfl
  have hdiffer : ∀ {a b : List Text}, a = [ofString "(unhandled) Check_Has Ann, rose, yes, no, 1, 2"] →
      b = [ofString "(unhandled) Check_Has Ann, rose, yes, no, 2, 1"] → b ≠ a := by
    rintro _ _ rfl rfl
    decide
  refine ⟨_, _, _, _, _, rfl, rfl, rfl, ⟨by decide, by decide, by decide⟩, rfl, rfl, by decide, rfl,
    fun p => ⟨?_, ?_, hdiffer ?_ ?_⟩⟩
  · exact (hshown p _ rfl).trans (by decide)
  · exact (hshown p _ rfl).trans (by decide)
  · exact (hshown p _ rfl).trans (by decide)
  · exact (hshown p _ rfl).trans (by decide)

end Dialogue
