import Dialogue.Machine.Echo
import Dialogue.Proofs.Lint.Binding
import Dialogue.Proofs.Machine.Deliveries
import Dialogue.Proofs.Machine.Limits
import Dialogue.Proofs.Script.Command

/-!
# Known commands reach the game

The linter looks up the command of each line, the machine that of each statement that it does not
carry out itself. Both look in the same catalog and in the same way, so that where no command is
reported as unknown, every statement is carried out or forwarded.

* `exists_contract_of_validate`: each statement of a script in which no command is reported as unknown
  has a contract;
* **`commands_reach_game`**: what such a script sends to a game that takes it.
-/

namespace Dialogue.Lint

open Text Script Machine

variable {catalog : Catalog} {marks : List Text} {source : Text} {ds : List Diagnostic}

/-- **Where no command is reported as unknown**, each statement has a contract. -/
theorem exists_contract_of_validate (hlint : validate catalog marks source = .ok ds)
    (hcode : ∀ d ∈ ds, d.code ≠ ofString "COMMAND_UNKNOWN") {s : Statement}
    (hs : s ∈ parse marks source) : ∃ c, catalog.find? s.command = some c := by
  obtain ⟨i, raw, hraw, hline⟩ := mem_parse_iff.mp hs
  obtain ⟨hskip, command, content, hmatch, rfl⟩ := Statement.ofLine_eq_some_iff.mp hline
  obtain ⟨found, hfound, hds⟩ := bind_eq_ok_iff.mp hlint
  obtain rfl := pure_eq_ok_iff.mp hds
  obtain ⟨problems, hproblems, hmem⟩ := diagnostics_of_checkLines hfound hraw
  cases hfind : catalog.find? command with
  | some c => exact ⟨c, rfl⟩
  | none =>
    rw [checkLine_of_unknown (commandLine?_eq_some_iff.mpr ⟨hskip, hmatch⟩) hfind] at hproblems
    obtain rfl := Except.ok.inj hproblems
    refine absurd rfl (hcode ((Problem.unknownCommand command).diagnostic (lineRange (0 + i) raw)) ?_)
    rw [sortDiagnostics, List.mem_mergeSort]
    exact List.mem_append_left _ (hmem _ List.mem_cons_self)

variable {ω β : Type} {h : Host ω β} {b : Bridge β} {p : Program} {limit : Option Int}
  {output : ω} {game : β} {xs : List (Session ω β)} {x y : Session ω β}

/-- A command that the game does not refuse is not forwarded only if a number in it has too many
digits. -/
theorem number_of_game_fault (hknown : Known p) (hb : h.bridge = some b)
    (hsend : ∀ command game t, (b.send command game).1 ≠ .error t) {s : Statement}
    (hs : p.script[x.state.pc]? = some s) (hverb : s.verb? = none) {f : Fault}
    (hf : (x.step h p).1 = some f) : ∃ e, f = .number e ∧ maxDigits < e.digits := by
  obtain ⟨-, s', hs', ⟨e, he, rfl, -⟩ | ⟨r, hr, hfulfil⟩⟩ :=
    Session.failed_of_step (h := h) (Prod.ext hf rfl)
  · exact ⟨e, rfl, request_refused_above _ _ _ _ e he⟩
  · obtain rfl := Option.some.inj (hs'.symm.trans hs)
    rw [hb] at hr
    rcases hknown.commands_of_events (List.mem_of_getElem? hs) hr with
      ⟨hown, -⟩ | ⟨-, c, command, rfl, -, -⟩
    · rw [hverb] at hown
      cases hown
    · cases Session.unfulfilled (congrArg Prod.fst hfulfil) with
      | @command b' _ t game hb' hrefused =>
        obtain rfl := Option.some.inj (hb.symm.trans hb')
        exact absurd (congrArg Prod.fst hrefused) (hsend command _ t)

/-- **A script without unknown commands reaches the game completely.** When no command of a script is
reported as unknown, and it is run on a host with a game: no statement displays a line but one that
speaks, so that none is reported as unhandled; and however far a run has come, whatever was chosen
and answered, the game has been sent one command for each statement that the machine does not carry
out itself and whose step did not fail, in the order in which they were carried out, each under the
name that the catalog writes and with the texts of all positional parameters. If the game refuses no
command, such a step fails for a number with too many digits only. -/
theorem commands_reach_game (hscript : p.script = parse marks source)
    (hlint : validate p.catalog marks source = .ok ds)
    (hcode : ∀ d ∈ ds, d.code ≠ ofString "COMMAND_UNKNOWN") (hb : h.bridge = some b)
    (hsend : ∀ command game t, (b.send command game).1 ≠ .error t)
    (hr : Rounds h p limit (Session.fresh p output game) xs y) :
    (∀ s ∈ p.script, ∀ vars line, request p h.bridge.isSome vars s = .ok (.say line) →
      s.verb? = some .speak) ∧
    List.Forall₂ (Delivers p) (xs.filter fun x => x.forwards h p limit) y.commands ∧
    ∀ x ∈ xs, ∀ s, p.script[x.state.pc]? = some s → s.verb? = none →
      ∀ f, (x.step h p).1 = some f → ∃ e, f = .number e ∧ maxDigits < e.digits := by
  have hgame : h.bridge.isSome = true := by rw [hb]; rfl
  have hcontract : ∀ s ∈ p.script, ∃ c, p.catalog.find? s.command = some c := fun s hs =>
    exists_contract_of_validate hlint hcode (hscript ▸ hs)
  have hknown : Known p := fun s hs _ => hcontract s hs
  refine ⟨fun s hs vars line hsay => ?_, ?_, fun x hx s hs hverb f hf => ?_⟩
  · rw [hgame] at hsay
    exact hknown.verb_of_say hs hsay
  · obtain ⟨commands, hcommands, hdelivered⟩ := hr.commands hknown hgame
    have hfresh : (Session.fresh p output game).commands = [] := rfl
    rw [hcommands, hfresh, List.nil_append]
    exact hdelivered
  · exact number_of_game_fault hknown hb hsend hs hverb hf

/-- A script that rings a bell for somebody. -/
def ringing : Text :=
  ofString "Set_StringVar [\"who\", \"Ann\"]\nRING_bell [\"now\", $who, loud=true]"

/-- The contract of a command with two texts. -/
def textContract (name first second : String) (optional : List ParamSpec) : Contract where
  name := ofString name
  since := []
  required := [{ name := ofString first, type := .string }, { name := ofString second, type := .string }]
  optional := optional

/-- A catalog with the command that rings. -/
def ringCatalog : Catalog where
  table := [
    (ofString "set_stringvar", textContract "Set_StringVar" "name" "value" []),
    (ofString "ring_bell",
      textContract "Ring_Bell" "time" "person" [{ name := ofString "loud", type := .bool }])]
  aliases := []

/-- The program of that script. -/
def ringProgram : Program where
  script := parse defaultMarks ringing
  catalog := ringCatalog

/-- A host with a game that echoes. -/
def echoing : Host Unit Echo := { (Host.eager : Host Unit Echo) with bridge := some Bridge.echo }

theorem validate_ringing : validate ringCatalog defaultMarks ringing = .ok [] :=
  validate_eq_nil rfl rfl

theorem commands_reach_game_ringing : ∃ x y : Session Unit Echo,
    Rounds echoing ringProgram none (Session.fresh ringProgram () {})
        [Session.fresh ringProgram () {}, x] y ∧
      y.commands = [{
        name := ofString "Ring_Bell"
        arguments := [ofString "now", ofString "Ann"]
        options := [(ofString "loud", ofString "true")] }] ∧
      List.Forall₂ (Delivers ringProgram) [x] y.commands := by
  have hr : Rounds echoing ringProgram none (Session.fresh ringProgram () {}) [_, _] _ :=
    .cons (.cons (.nil _))
  have hsent := (commands_reach_game rfl validate_ringing (by simp) rfl nofun hr).2.1
  exact ⟨_, _, hr, rfl, hsent⟩

end Dialogue.Lint
