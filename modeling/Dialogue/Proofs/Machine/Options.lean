import Dialogue.Catalog.Standard
import Dialogue.Machine.Echo
import Dialogue.Proofs.Machine.Deliveries

/-!
# Options of a forwarded command

The named parameters of a statement become the options of the command that is forwarded. Where a
name is given twice, the machine itself reads the first parameter of that name, but the options are
entered one after the other, and so the game is sent the text of the last one. A name that is given
once has one parameter, and the two readings are the same.

* `Statement.lastNamed`, `Statement.named_eq_lastNamed`: the last parameter of a name, and that it
  is the first one where no name is given twice;
* **`get?_resolveOptions`**, `mem_keys_resolveOptions`: the options that parameters become;
* `Sends`, `Rounds.sends`: each command that the game gets is that of the statement a turn was at;
* **`options_forwarded`**: the options of every command that the game gets, and when they are those
  that the machine would read itself. `options_forwarded_differ` is a run in which they are not.
-/

namespace Dialogue

open Text

/-! ## The last parameter of a name -/

/-- The last parameter with the name. -/
def Statement.lastNamed (s : Statement) (name : Text) : Option Param :=
  s.params.reverse.find? fun q => q.name = some name

/-- In a list that gives no name twice, all parameters of a name are the same. -/
theorem Param.eq_of_name_eq {qs : List Param} (h : (qs.filterMap Param.name).Nodup) {q q' : Param}
    {name : Text} (hq : q ∈ qs) (hq' : q' ∈ qs) (hname : q.name = some name)
    (hname' : q'.name = some name) : q = q' := by
  have hsame : qs.Pairwise fun q q' => q.name = some name → q'.name = some name → q = q' :=
    (List.pairwise_filterMap.mp h).imp fun hne hq hq' => absurd rfl (hne name hq name hq')
  have hflip : qs.Pairwise fun q q' => q'.name = some name → q.name = some name → q' = q :=
    hsame.imp fun heq hq' hq => (heq hq hq').symm
  exact hsame.forall_of_forall_of_flip (fun _ _ _ _ => rfl) hflip hq hq' hname hname'

/-- In such a list the parameter that is found is the one of the name. -/
theorem Param.find?_name_eq_some_iff {qs : List Param} (h : (qs.filterMap Param.name).Nodup)
    {q : Param} {name : Text} :
    qs.find? (fun q => q.name = some name) = some q ↔ q ∈ qs ∧ q.name = some name := by
  constructor
  · intro hfind
    exact ⟨List.mem_of_find?_eq_some hfind, by simpa using List.find?_some hfind⟩
  · rintro ⟨hq, hname⟩
    have hfound : (qs.find? fun q => q.name = some name).isSome :=
      List.find?_isSome.mpr ⟨q, hq, by simpa using hname⟩
    obtain ⟨q', hfind⟩ := Option.isSome_iff_exists.mp hfound
    have hname' : q'.name = some name := by simpa using List.find?_some hfind
    rw [hfind, Param.eq_of_name_eq h (List.mem_of_find?_eq_some hfind) hq hname' hname]

/-- And it is found wherever it stands. -/
theorem Param.find?_name_perm {qs qs' : List Param} (h : (qs.filterMap Param.name).Nodup)
    (hperm : qs'.Perm qs) (name : Text) :
    qs'.find? (fun q => q.name = some name) = qs.find? (fun q => q.name = some name) := by
  have h' : (qs'.filterMap Param.name).Nodup := (hperm.filterMap _).nodup_iff.mpr h
  refine Option.ext fun q => ?_
  rw [Param.find?_name_eq_some_iff h, Param.find?_name_eq_some_iff h', hperm.mem_iff]

/-- **Where no name is given twice, the first parameter of a name is the last one.** -/
theorem Statement.named_eq_lastNamed {s : Statement} (h : (s.params.filterMap Param.name).Nodup)
    (name : Text) : s.named (some name) = s.lastNamed name :=
  (Param.find?_name_perm h (List.reverse_perm s.params) name).symm

namespace Machine

variable {ω β : Type} {h : Host ω β} {p : Program} {limit : Option Int} {x y : Session ω β}
  {xs : List (Session ω β)} {vars : Table Variable} {table options : Table Text} {qs : List Param}

/-! ## The options of a statement -/

/-- **An option has the text of the last parameter of its name.** What has been entered under a name
before stays where no parameter has the name. -/
theorem get?_resolveOptions (hoptions : resolveOptions vars table qs = .ok options) (name : Text) :
    (options.get? name).map Except.ok =
      ((qs.reverse.find? fun q => q.name = some name).map (resolve vars)).or
        ((table.get? name).map Except.ok) := by
  induction qs generalizing table with
  | nil =>
    obtain rfl := Except.ok.inj hoptions
    rfl
  | cons q qs ih =>
    rw [List.reverse_cons, List.find?_append]
    unfold resolveOptions at hoptions
    split at hoptions
    · rename_i hname
      rw [ih hoptions, List.find?_singleton, hname, if_neg (by simp), Option.or_none]
    · rename_i other hname
      obtain ⟨t, ht, hrest⟩ := bind_eq_ok_iff.mp hoptions
      rw [ih hrest, Table.get?_put, List.find?_singleton, hname]
      by_cases hsame : other = name
      · subst hsame
        rw [if_pos rfl, if_pos (by simp)]
        cases qs.reverse.find? fun q => q.name = some other with
        | none => simp [ht]
        | some q' => rfl
      · rw [if_neg hsame, if_neg (by simpa using hsame), Option.or_none]

/-- **The options have the names of the named parameters.** -/
theorem mem_keys_resolveOptions (hoptions : resolveOptions vars [] qs = .ok options) (name : Text) :
    name ∈ options.keys ↔ ∃ q ∈ qs, q.name = some name := by
  have hget := get?_resolveOptions hoptions name
  rw [Table.get?_nil, Option.map_none, Option.or_none] at hget
  rw [← not_iff_not, ← Table.get?_eq_none_iff, ← Option.map_eq_none_iff, hget,
    Option.map_eq_none_iff, List.find?_eq_none]
  simp

/-- **The options can be had iff the text of every named parameter can be.** -/
theorem exists_resolveOptions_iff : (∃ options, resolveOptions vars table qs = .ok options) ↔
    ∀ q ∈ qs, q.name ≠ none → ∃ t, resolve vars q = .ok t := by
  induction qs generalizing table with
  | nil => exact iff_of_true ⟨table, rfl⟩ nofun
  | cons q qs ih =>
    rw [List.forall_mem_cons]
    unfold resolveOptions
    cases hname : q.name with
    | none => exact ih.trans (and_iff_right (absurd rfl)).symm
    | some name =>
      cases hresolve : resolve vars q with
      | error e =>
        refine iff_of_false nofun fun hall => ?_
        obtain ⟨t, ht⟩ := hall.1 nofun
        cases ht
      | ok t => exact (@ih (table.put name t)).trans (and_iff_right fun _ => ⟨t, rfl⟩).symm

/-! ## The commands of a run -/

/-- The command is what the statement that `x` is at is forwarded as. -/
def Sends (p : Program) (x : Session ω β) (command : GameCommand) : Prop :=
  ∃ s c, p.script[x.state.pc]? = some s ∧ p.catalog.find? s.command = some c ∧
    gameCommand x.state.vars c s = .ok command

/-- What is recorded of a request as forwarded is the command of its statement. -/
theorem gameCommand_of_events {bridged : Bool} {s : Statement} {r : Request} {command : GameCommand}
    (hr : request p bridged vars s = .ok r)
    (hcommand : command ∈ (r.events bridged).reverse.filterMap Event.command?) :
    ∃ c, p.catalog.find? s.command = some c ∧ gameCommand vars c s = .ok command := by
  cases requested hr with
  | speak | silent | jump | setInt | setBool | setString | wait | offer | check | unhandled =>
    simp [Request.events, Event.command?] at hcommand
  | sent _ hbridged hfind hsent =>
    obtain rfl : command = _ := by simpa [Request.events, hbridged, Event.command?] using hcommand
    exact ⟨_, hfind, hsent⟩

theorem Session.turn_sends (h : Host ω β) (p : Program) (limit : Option Int) (x : Session ω β) :
    ∃ commands, (x.turn h p limit).session.commands = x.commands ++ commands ∧
      ∀ command ∈ commands, Sends p x command := by
  by_cases hx : x.Begins limit
  · rcases Session.turn_commands_of_begins (h := h) (p := p) hx with
      ⟨-, hsame⟩ | ⟨s, r, -, hs, hr, hcommands⟩
    · exact ⟨[], by rw [hsame, List.append_nil], nofun⟩
    · refine ⟨_, hcommands, fun command hcommand => ?_⟩
      obtain ⟨c, hfind, hsent⟩ := gameCommand_of_events hr hcommand
      exact ⟨s, c, hs, hfind, hsent⟩
  · exact ⟨[], by rw [Session.turn_commands_of_not_begins hx, List.append_nil], nofun⟩

/-- **Each command that the game gets is that of the statement that a turn was at.** -/
theorem Rounds.sends (hr : Rounds h p limit x xs y) :
    ∃ commands, y.commands = x.commands ++ commands ∧
      ∀ command ∈ commands, ∃ z ∈ xs, Sends p z command := by
  induction hr with
  | nil x => exact ⟨[], (List.append_nil _).symm, nofun⟩
  | @cons x y xs hrest ih =>
    obtain ⟨now, hnow, hsends⟩ := Session.turn_sends h p limit x
    obtain ⟨later, hlater, hothers⟩ := ih
    refine ⟨now ++ later, by rw [hlater, hnow, List.append_assoc], fun command hcommand => ?_⟩
    rcases List.mem_append.mp hcommand with hcommand | hcommand
    · exact ⟨x, List.mem_cons_self, hsends command hcommand⟩
    · obtain ⟨z, hz, hsent⟩ := hothers command hcommand
      exact ⟨z, List.mem_cons_of_mem x hz, hsent⟩

/-! ## The options of a run's commands -/

/-- The options are those that the machine would read itself: under each name stands the text of the
first parameter of the name. -/
def FirstCounts (vars : Table Variable) (s : Statement) (options : Table Text) : Prop :=
  ∀ name, (options.get? name).map Except.ok = (s.named (some name)).map (resolve vars)

/-- **The options of every command that the game gets.** Each command that turns from any session
forward is that of the statement a turn was at, with the variables of that turn. Its options have
the names of the statement's named parameters, and under each name the text of the last parameter of
the name. They are those that the machine would read itself iff the first and the last parameter of
each name have the same text, as they do when no name is given twice. -/
theorem options_forwarded (hr : Rounds h p limit x xs y) :
    ∃ commands, y.commands = x.commands ++ commands ∧
      ∀ command ∈ commands, ∃ z ∈ xs, ∃ s, p.script[z.state.pc]? = some s ∧
        (∀ name, name ∈ command.options.keys ↔ ∃ q ∈ s.params, q.name = some name) ∧
        (∀ name, (command.options.get? name).map Except.ok =
          (s.lastNamed name).map (resolve z.state.vars)) ∧
        (FirstCounts z.state.vars s command.options ↔ ∀ name,
          (s.named (some name)).map (resolve z.state.vars) =
            (s.lastNamed name).map (resolve z.state.vars)) ∧
        ((s.params.filterMap Param.name).Nodup →
          FirstCounts z.state.vars s command.options) := by
  obtain ⟨commands, hcommands, hsends⟩ := hr.sends
  refine ⟨commands, hcommands, fun command hcommand => ?_⟩
  obtain ⟨z, hz, s, c, hs, -, hsent⟩ := hsends command hcommand
  obtain ⟨arguments, -, hsent⟩ := bind_eq_ok_iff.mp hsent
  obtain ⟨options, hoptions, hsent⟩ := bind_eq_ok_iff.mp hsent
  obtain rfl := pure_eq_ok_iff.mp hsent
  have hlast : ∀ name, (options.get? name).map Except.ok =
      (s.lastNamed name).map (resolve z.state.vars) := by
    intro name
    have hget := get?_resolveOptions hoptions name
    rwa [Table.get?_nil, Option.map_none, Option.or_none] at hget
  refine ⟨z, hz, s, hs, mem_keys_resolveOptions hoptions, hlast, ?_, fun hnodup name => ?_⟩
  · exact forall_congr' fun name => by rw [hlast name, eq_comm]
  · rw [Statement.named_eq_lastNamed hnodup, hlast name]

/-- The program of a script of one line. -/
def lineProgram (line : String) : Program where
  script := Script.parse Script.defaultMarks (ofString line)
  catalog := .standard

/-- A host with a game that echoes what it is sent. -/
def Host.echoes : Host Unit Echo :=
  { (Host.eager : Host Unit Echo) with bridge := some Bridge.echo }

/-- A program that gives each option once. -/
def giving : Program := lineProgram "Give_Item [\"rose\", to=\"Ann\", by=$who]"

theorem options_forwarded_giving : ∃ x y : Session Unit Echo,
    Rounds Host.echoes giving none x [x] y ∧ ∃ command s, y.commands = [command] ∧
      giving.script = [s] ∧ command.options.get? (ofString "to") = some (ofString "Ann") ∧
      FirstCounts x.state.vars s command.options := by
  have hr : Rounds Host.echoes giving none (Session.fresh giving () {})
      [Session.fresh giving () {}] _ := .cons (.nil _)
  obtain ⟨commands, hcommands, hall⟩ := options_forwarded hr
  have hsent : commands = [{
      name := ofString "Give_Item", arguments := [ofString "rose"]
      options := [(ofString "to", ofString "Ann"), (ofString "by", [])] }] := hcommands.symm
  obtain ⟨z, hz, s, hs, -, -, -, hfirst⟩ := hall _ (hsent ▸ List.mem_cons_self)
  obtain rfl := List.mem_singleton.mp hz
  have hscript : giving.script = [s] := congrArg (fun o => [o]) (Option.some.inj hs)
  have hnames : s.params.filterMap Param.name = [ofString "to", ofString "by"] := by
    obtain rfl := Option.some.inj hs
    rfl
  exact ⟨_, _, hr, _, s, hcommands.trans hsent, hscript, rfl, hfirst (hnames ▸ by decide)⟩

/-- A program that gives an option twice. -/
def givingTwice : Program := lineProgram "Give_Item [\"rose\", to=\"Ann\", to=\"Ben\"]"

/-- **The game and the machine can read an option differently.** The game is sent the second text
of an option that is given twice, and the parameter that the machine reads has the first one. -/
theorem options_forwarded_differ : ∃ x y : Session Unit Echo,
    Rounds Host.echoes givingTwice none x [x] y ∧ ∃ command s q, y.commands = [command] ∧
      givingTwice.script = [s] ∧ s.named (some (ofString "to")) = some q ∧
      resolve x.state.vars q = .ok (ofString "Ann") ∧
      command.options.get? (ofString "to") = some (ofString "Ben") ∧
      ¬ FirstCounts x.state.vars s command.options := by
  refine ⟨Session.fresh givingTwice () {}, _, .cons (.nil _), _, _, _, rfl, rfl, rfl, rfl, rfl, ?_⟩
  intro hfirst
  exact absurd (hfirst (ofString "to")) (by decide)

end Machine

end Dialogue
