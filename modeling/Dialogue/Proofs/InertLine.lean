import Dialogue.Catalog.Standard
import Dialogue.Proofs.Lint.InertLine
import Dialogue.Proofs.Machine.Loop
import Dialogue.Proofs.Machine.Record
import Dialogue.Proofs.Machine.Relined

/-!
# Blank lines and comments are inert

A script is read by the parser, by the editor, by the linter and by the machine. A line put into it
that is blank or a comment is seen by all four in the same way: nothing changes but the numbers of the
lines from there on.

* **`inert_of_inserted`**: what each of the four makes of the script with that line.
-/

namespace Dialogue

open Text Script Lint Machine

variable {marks : List Text} {k : Nat} {source source' : Text}

/-- The program of a script. -/
def Machine.Program.ofSource (catalog : Catalog) (waitScale : Float) (marks : List Text)
    (source : Text) : Program where
  script := parse marks source
  catalog := catalog
  waitScale := waitScale

/-- **Blank lines and comments are inert.** When a script has one more line, number `k`, that is
blank or a comment, every number of a line from `k` on is raised by one, and nothing else happens.
The statements are the same, and so are the declared names. The diagnostics come in the same order
with the same codes, severities, categories, hints and columns; their lines are raised, and the
declaration lines in their wordings. The script is carried out in the same way on every host, under
every limit and for any number of turns: the host gets the same calls in the same order and the
machine goes through the same states, but for the lines that its variables were set on. -/
theorem inert_of_inserted (hs : Inserted marks k source source') :
    parse marks source' = (parse marks source).map (Statement.relined (raised k)) ∧
    symbols marks source' = (symbols marks source).relined (raised k) ∧
    (∀ catalog : Catalog,
      validate catalog marks source =
        (report catalog marks source).map (List.map Finding.diagnostic) ∧
      validate catalog marks source' = (report catalog marks source).map (List.map fun x =>
        { x.diagnostic with
          message := (x.problem.raised k).message
          range := x.range.raised k })) ∧
    ∀ (catalog : Catalog) (waitScale : Float) {ω β : Type} (h : Host ω β) (limit : Option Int)
        (output : ω) (game : β) (fuel : Nat),
      let p := Program.ofSource catalog waitScale marks source
      let p' := Program.ofSource catalog waitScale marks source'
      (Session.fresh p' output game).run h p' limit fuel =
        ((Session.fresh p output game).run h p limit fuel).map (Turn.relined (raised k)) := by
  have hparse := parse_inserted hs
  refine ⟨hparse, symbols_inserted hs, fun catalog => ⟨validate_eq_report catalog marks source, ?_⟩,
    fun catalog waitScale ω β h limit output game fuel => ?_⟩
  · rw [validate_eq_report, report_inserted hs]
    cases report catalog marks source with
    | error e => rfl
    | ok found =>
      simp only [Except.map, List.map_map, Function.comp_def, Finding.diagnostic_raised]
  · have hp : Relined (raised k) (Program.ofSource catalog waitScale marks source)
        (Program.ofSource catalog waitScale marks source') :=
      { script := hparse, catalog := rfl, waitScale := rfl }
    intro p p'
    rw [Session.fresh_relined hp, Session.run_relined hp]

/-- A script that greets, and declares a number as a truth value as well. -/
def clash : Text :=
  ofString "Act_Speak [\"hi\"]\nSet_IntVar [\"n\", 1]\nSet_BoolVar [\"n\", true]"

/-- The same script with a comment after the greeting. -/
def clashNoted : Text :=
  ofString "Act_Speak [\"hi\"]\n  # a note\nSet_IntVar [\"n\", 1]\nSet_BoolVar [\"n\", true]"

theorem inserted_clash : Inserted defaultMarks 1 clash clashNoted :=
  ⟨[ofString "Act_Speak [\"hi\"]"], ofString "  # a note",
    [ofString "Set_IntVar [\"n\", 1]", ofString "Set_BoolVar [\"n\", true]"],
    rfl, by decide +kernel, by decide +kernel, by decide +kernel⟩

/-- What is found in the script. -/
def clashFound : Finding where
  problem := .redeclared (ofString "n") .bool .int 1 (ofString "Set_IntVar")
  range := { line := 2, start := 0, stop := 23 }

theorem report_clash : report Catalog.standard defaultMarks clash = .ok [clashFound] := by
  have hfound : findings Catalog.standard defaultMarks (collectFacts defaultMarks clash) 0
      (splitLines clash) = .ok [] := by rfl
  have hconflicts : conflictFindings (collectFacts defaultMarks clash) = [clashFound] := by
    decide +kernel
  simp only [report, hfound, hconflicts]
  exact congrArg Except.ok (List.mergeSort_singleton _)

/-- With the comment both declarations are one line further down, where they are remarked on and in
the wording of the remark; the run is the same. -/
theorem inert_of_inserted_clash : Inserted defaultMarks 1 clash clashNoted ∧
    (parse defaultMarks clashNoted).map Statement.line = [0, 2, 3] ∧
    (symbols defaultMarks clashNoted).vars = [(ofString "n", (.int, 2))] ∧
    (∃ d, validate Catalog.standard defaultMarks clashNoted = .ok [d] ∧ d.range.line = 3 ∧
      d.message = ofString ("Variable 'n' cannot be redeclared as bool; " ++
        "previously declared as int at line 3")) ∧
    ∃ p : Program, p.script = parse defaultMarks clashNoted ∧
      ((Session.fresh p () ()).run (Host.eager : Host Unit Unit) p none 5).map
          (fun t => (t.session.lines, t.session.state)) =
        some ([ofString "hi"], {
          vars := [(ofString "n",
            { name := ofString "n", type := .bool, value := .bool true, line := 3 })]
          pc := 3, steps := 3, phase := .halted .completed }) := by
  obtain ⟨hparse, hsymbols, hlint, hrun⟩ := inert_of_inserted inserted_clash
  refine ⟨inserted_clash, ?_, ?_, ?_,
    Program.ofSource Catalog.standard 1.0 defaultMarks clashNoted, rfl, ?_⟩
  · rw [hparse]
    decide +kernel
  · rw [hsymbols]
    decide +kernel
  · have hlater := (hlint Catalog.standard).2
    rw [report_clash] at hlater
    exact ⟨_, hlater, by decide +kernel, by decide +kernel⟩
  · have hagain := hrun Catalog.standard 1.0 (Host.eager : Host Unit Unit) none () () 5
    rw [hagain, Option.map_map]
    decide +kernel

end Dialogue
