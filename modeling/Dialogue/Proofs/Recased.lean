import Dialogue.Proofs.InertLine
import Dialogue.Proofs.Lint.Recased
import Dialogue.Proofs.Machine.Interchange
import Dialogue.Proofs.Machine.Options

/-!
# The letter case of commands does not matter

Commands are looked up by their small letters in the catalog, by the linter, by the editor, by the machine
and for its markers. So a script means the same to all of them in whatever letter case its commands are
written. The one place where it shows is a text that quotes a command as typed; and where a game is there
and the catalog knows all commands, the machine writes none.

* `Statement.Respelled.agree`: the statements are read alike by the machine;
* `Program.parallel_recased`, `Session.step_respelled`: the programs of both scripts;
* **`same_of_recased`**: what linter, editor and machine make of both scripts.
-/

namespace Dialogue

open Text Script Lint

variable {catalog : Catalog} {source source' : Text} {s s' : Statement}

theorem Statement.Respelled.agree (h : s.Respelled s') : s.Agree s' where
  key := h.key
  line := h.line
  positional := by
    unfold Statement.positional
    rw [h.params]
  named name := by
    unfold Statement.named
    rw [h.params]

namespace Machine

variable {ω β : Type} {h : Host ω β} {p p' : Program}

/-- A known command is forwarded alike in any letter case. -/
theorem forward_respelled (hcatalog : p'.catalog = p.catalog) (hs : s.Respelled s')
    (hknown : (p.catalog.find? s.command).isSome) (vars : Table Variable) :
    forward p' true vars s' = forward p true vars s := by
  obtain ⟨c, hfind⟩ := Option.isSome_iff_exists.mp hknown
  have hfind' : p.catalog.find? s'.command = some c := (hs.agree.find? p.catalog).trans hfind
  have hsent : gameCommand vars c s' = gameCommand vars c s := by
    unfold gameCommand
    rw [hs.agree.positional, hs.params]
  simp only [forward, hcatalog, hfind, hfind', hsent]

/-- The programs of both scripts have the same markers. -/
theorem Program.parallel_recased (h : RecasedScript source source') (catalog : Catalog)
    (waitScale : Float) : (Program.ofSource catalog waitScale defaultMarks source).Parallel
      (Program.ofSource catalog waitScale defaultMarks source') where
  length := (parse_recased h).length_eq.symm
  labels := enterLabels_respelled (parse_recased h) 0 []
  catalog := rfl
  waitScale := rfl

/-- **One step**, where the catalog knows all commands and a game is there. -/
theorem Session.step_respelled (hp : p.Parallel p')
    (hscript : List.Forall₂ Statement.Respelled p.script p'.script) (hbridge : h.bridge.isSome = true)
    (hknown : ∀ s ∈ p.script, (p.catalog.find? s.command).isSome) (x : Session ω β) :
    x.step h p' = x.step h p := by
  cases hs : p.script[x.state.pc]? with
  | none =>
    have hs' : p'.script[x.state.pc]? = none := by
      rw [List.getElem?_eq_none_iff] at hs ⊢
      rwa [hp.length]
    unfold Session.step
    simp only [hs, hs']
  | some s =>
    obtain ⟨hlt, rfl⟩ := List.getElem?_eq_some_iff.mp hs
    have hlt' : x.state.pc < p'.script.length := hp.length ▸ hlt
    have hrespelled : Statement.Respelled p.script[x.state.pc] p'.script[x.state.pc] :=
      hscript.get hlt hlt'
    refine Session.step_agree hp hs (List.getElem?_eq_getElem hlt') hrespelled.agree (.inr ?_)
    rw [hbridge]
    exact forward_respelled hp.catalog hrespelled (hknown _ (List.getElem_mem hlt)) x.state.vars

end Machine

open Machine

/-- **The letter case of commands does not matter.** Take two scripts that differ in the ASCII letter
case of commands only, in lines that are command lines. With any catalog the linter refuses both for the
same, or reports the same of both in the same order, but for the commands that two texts quote as typed;
the same names are declared; and the first reading knows the same variables with their types and lines, the
same conflicts, and the same game and release. If the catalog knows all commands and a game is there, then
both are carried out in the same way: on any host, under any limit and for any number of turns, the whole
session is the same. -/
theorem same_of_recased (h : RecasedScript source source') (catalog : Catalog) :
    ((∀ e, validate catalog defaultMarks source' = .error e ↔
        validate catalog defaultMarks source = .error e) ∧
      ∀ ds ds', validate catalog defaultMarks source = .ok ds →
        validate catalog defaultMarks source' = .ok ds' →
          List.Forall₂ Diagnostic.Respelled ds ds') ∧
    symbols defaultMarks source' = symbols defaultMarks source ∧
    (let f := collectFacts defaultMarks source
      let f' := collectFacts defaultMarks source'
      f'.vars.map (fun e => (e.1, e.2.type, e.2.line)) =
          f.vars.map (fun e => (e.1, e.2.type, e.2.line)) ∧
        f'.conflicts = f.conflicts ∧ f'.game = f.game ∧ f'.version = f.version) ∧
    ∀ (waitScale : Float) {ω β : Type} (h : Host ω β) (limit : Option Int) (output : ω) (game : β)
        (fuel : Nat), h.bridge.isSome = true →
      (∀ s ∈ parse defaultMarks source, (catalog.find? s.command).isSome) →
      let p := Program.ofSource catalog waitScale defaultMarks source
      let p' := Program.ofSource catalog waitScale defaultMarks source'
      (Session.fresh p' output game).run h p' limit fuel =
        (Session.fresh p output game).run h p limit fuel := by
  refine ⟨validate_recased h catalog, symbols_recased h, Facts.of_uncased (collectFacts_recased h),
    fun waitScale ω β host limit output game fuel hbridge hknown => ?_⟩
  intro p p'
  have hp : p.Parallel p' := Program.parallel_recased h catalog waitScale
  have hfresh : Session.fresh p' output game = Session.fresh p output game := by
    unfold Session.fresh State.initial
    rw [State.settle_parallel hp]
  rw [hfresh]
  exact Session.run_parallel hp (Session.step_respelled hp (parse_recased h) hbridge hknown) limit
    fuel _

/-- A line made of blanks, a command and what follows it. -/
def typed (before command after : String) : Text :=
  ofString before ++ (ofString command ++ ofString after)

/-- A script with a conflict that gives something away. -/
def giftLines : List Text :=
  [typed "" "Set_IntVar" " [\"n\", 1]", typed "\t" "Set_BoolVar" "[\"n\", true]", typed "" "" "# now",
    typed "  " "Give_Item" " [\"rose\"] "]

/-- The same script in other letter cases. -/
def giftLinesRecased : List Text :=
  [typed "" "SET_INTVAR" " [\"n\", 1]", typed "\t" "set_boolvar" "[\"n\", true]", typed "" "" "# now",
    typed "  " "gIVE_iTEM" " [\"rose\"] "]

theorem splitLines_gift : splitLines (joinWith ['\n'] giftLines) = giftLines :=
  splitLines_joinWith (by decide) (by decide) (by decide)

theorem splitLines_giftRecased :
    splitLines (joinWith ['\n'] giftLinesRecased) = giftLinesRecased :=
  splitLines_joinWith (by decide) (by decide) (by decide)

theorem recasedScript_gift :
    RecasedScript (joinWith ['\n'] giftLines) (joinWith ['\n'] giftLinesRecased) := by
  have hline : ∀ {before command command' after content : String}, Blanks (ofString before) →
      matchCommand (trim (typed before command after)) =
        some (ofString command, ofString content) →
      SameLetters (ofString command) (ofString command') →
      Recased (typed before command after) (typed before command' after) := .command
  unfold RecasedScript
  rw [splitLines_gift, splitLines_giftRecased]
  refine .cons ?_ (.cons ?_ (.cons (.same _) (.cons ?_ .nil)))
  · exact @hline "" _ _ _ "\"n\", 1" (by decide) (by decide) (by decide)
  · exact @hline "\t" _ _ _ "\"n\", true" (by decide) (by decide) (by decide)
  · exact @hline "  " _ _ _ "\"rose\"" (by decide) (by decide) (by decide)

/-- What is reported of the script. -/
def giftReport : Diagnostic :=
  (Problem.redeclared (ofString "n") .bool .int 0 (ofString "Set_IntVar")).diagnostic ⟨1, 1, 23⟩

theorem validate_gift :
    validate .standard defaultMarks (joinWith ['\n'] giftLines) = .ok [giftReport] := by
  have hconflicts : conflictDiagnostics (collectFacts defaultMarks (joinWith ['\n'] giftLines)) =
      [giftReport] := by decide +kernel
  have hlines : checkLines .standard defaultMarks
      (collectFacts defaultMarks (joinWith ['\n'] giftLines)) 0
      (splitLines (joinWith ['\n'] giftLines)) = .ok [] := by decide +kernel
  rw [validate_eq_ok hlines, hconflicts]
  exact congrArg Except.ok (List.mergeSort_singleton _)

/-- The conflict is reported in both, and the game gets the same gift. -/
theorem same_of_recased_gift :
    RecasedScript (joinWith ['\n'] giftLines) (joinWith ['\n'] giftLinesRecased) ∧
    (∃ d, validate .standard defaultMarks (joinWith ['\n'] giftLinesRecased) = .ok [d] ∧
      giftReport.Respelled d) ∧
    Host.echoes.bridge.isSome = true ∧
    (∀ s ∈ parse defaultMarks (joinWith ['\n'] giftLines),
      (Catalog.standard.find? s.command).isSome) ∧
    ∃ p : Program, p.script = parse defaultMarks (joinWith ['\n'] giftLinesRecased) ∧
      ((Session.fresh p () {}).run Host.echoes p none 5).map (fun t => t.session.commands) =
        some [{ name := ofString "Give_Item", arguments := [ofString "rose"] }] := by
  have hknown : ∀ s ∈ parse defaultMarks (joinWith ['\n'] giftLines),
      (Catalog.standard.find? s.command).isSome := by decide +kernel
  obtain ⟨⟨hrefused, hreported⟩, -, -, hrun⟩ := same_of_recased recasedScript_gift .standard
  refine ⟨recasedScript_gift, ?_, rfl, hknown,
    Program.ofSource .standard 1.0 defaultMarks (joinWith ['\n'] giftLinesRecased), rfl, ?_⟩
  · cases hlint : validate .standard defaultMarks (joinWith ['\n'] giftLinesRecased) with
    | error e => cases validate_gift.symm.trans ((hrefused e).mp hlint)
    | ok ds =>
      obtain ⟨d, rest, hd, hrest, rfl⟩ :=
        List.forall₂_cons_left_iff.mp (hreported _ _ validate_gift hlint)
      obtain rfl := List.forall₂_nil_left_iff.mp hrest
      exact ⟨d, rfl, hd⟩
  · have hsame := hrun 1.0 Host.echoes none () {} 5 rfl hknown
    rw [hsame]
    decide +kernel

end Dialogue
