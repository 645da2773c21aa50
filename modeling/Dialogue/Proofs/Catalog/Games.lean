import Dialogue.Catalog.Standard
import Dialogue.Proofs.Table
import Dialogue.Proofs.Text.Trim

/-!
# Games by any spelling

A game is looked up by its title in folded letters, without the blanks around it: among the aliases
first, and then among the canonical names that they stand for. A title that is found in neither
place is that of a game which is not known, and stays as it is.

* `gameKey`: what a title is looked up by; `Catalog.canonical?`: the canonical name that is found
  (`resolveGame_eq`), and `Catalog.KnowsGame`: whether there is one;
* `foldAliases_sound`: the aliases in force are among those that were given;
* `AliasesAgree`: no alias calls a game otherwise than its canonical name does;
* `resolveGame_cases`: titles that are looked up by the same key;
* **`AliasesAgree.resolveGame_canonical`**: a canonical name stays as it is, also one whose aliases
  have all been given to other games; **`AliasesAgree.resolveGame_resolveGame`**: so does every name
  that was looked up once.
-/

namespace Dialogue

open Text

variable {aliases : List (Text × Text)} {c : Catalog} {g h name : Text}

/-- What a title is looked up by. -/
def gameKey (title : Text) : Text := fold (trim title)

theorem gameKey_trim (title : Text) : gameKey (trim title) = gameKey title :=
  congrArg fold (trim_trim title)

/-! ## Looking up -/

namespace Catalog

/-- The canonical name of a game: that of its alias, else the first one that it spells. -/
def canonical? (c : Catalog) (title : Text) : Option Text :=
  (c.aliases.get? (gameKey title)).or
    ((c.aliases.find? fun e => fold e.2 = gameKey title).map Prod.snd)

/-- The title is an alias or a canonical name, in any spelling. -/
def KnowsGame (c : Catalog) (title : Text) : Prop :=
  ∃ e ∈ c.aliases, e.1 = gameKey title ∨ fold e.2 = gameKey title

instance (c : Catalog) (title : Text) : Decidable (c.KnowsGame title) :=
  inferInstanceAs (Decidable (∃ e ∈ c.aliases, e.1 = gameKey title ∨ fold e.2 = gameKey title))

theorem resolveGame_eq (c : Catalog) (title : Text) :
    c.resolveGame title = (c.canonical? title).getD (trim title) := by
  unfold resolveGame
  dsimp only
  split
  · rename_i canonical hget
    rw [canonical?, gameKey, hget]
    rfl
  · rename_i hget
    rw [canonical?, gameKey, hget, Option.none_or]
    split
    · rename_i e hfind
      exact congrArg (fun found => (Option.map Prod.snd found).getD _) hfind.symm
    · rename_i hfind
      exact congrArg (fun found => (Option.map Prod.snd found).getD _) hfind.symm

theorem canonical?_eq_of_gameKey (hkey : gameKey g = gameKey h) :
    c.canonical? g = c.canonical? h := by
  unfold canonical?
  rw [hkey]

/-- What is found is the canonical name of some alias, and the title spells one of the two. -/
theorem exists_alias_of_canonical? (hname : c.canonical? g = some name) :
    ∃ e ∈ c.aliases, e.2 = name ∧ (e.1 = gameKey g ∨ fold e.2 = gameKey g) := by
  rcases Option.or_eq_some_iff.mp hname with hget | ⟨-, hfind⟩
  · exact ⟨_, Table.mem_of_get? hget, rfl, .inl rfl⟩
  · obtain ⟨e, he, rfl⟩ := Option.map_eq_some_iff.mp hfind
    exact ⟨e, List.mem_of_find?_eq_some he, rfl, .inr (by simpa using List.find?_some he)⟩

/-- **A canonical name is found exactly for a game that is known.** -/
theorem canonical?_eq_none_iff : c.canonical? g = none ↔ ¬ c.KnowsGame g := by
  rw [canonical?, Option.or_eq_none_iff, Option.map_eq_none_iff, Table.get?_eq_none_iff,
    List.find?_eq_none, KnowsGame]
  constructor
  · rintro ⟨hkey, hname⟩ ⟨e, he, halias | hfold⟩
    · exact hkey (halias ▸ List.mem_map_of_mem he)
    · exact hname e he (decide_eq_true hfold)
  · intro hnot
    refine ⟨fun hkey => ?_, fun e he hfold => hnot ⟨e, he, .inr (of_decide_eq_true hfold)⟩⟩
    obtain ⟨e, he, hsame⟩ := List.mem_map.mp hkey
    exact hnot ⟨e, he, .inl hsame⟩

/-- **Titles that are looked up by the same key** are found under one name, or none is found and
each stays as it is. -/
theorem resolveGame_cases (c : Catalog) (hkey : gameKey g = gameKey h) :
    (c.KnowsGame g ∧ c.KnowsGame h ∧
        ∃ e ∈ c.aliases, c.resolveGame g = e.2 ∧ c.resolveGame h = e.2) ∨
      (¬ c.KnowsGame g ∧ ¬ c.KnowsGame h ∧
        c.resolveGame g = trim g ∧ c.resolveGame h = trim h) := by
  have hsame : c.canonical? h = c.canonical? g := canonical?_eq_of_gameKey hkey.symm
  rw [resolveGame_eq, resolveGame_eq, hsame]
  cases hname : c.canonical? g with
  | none =>
    exact .inr ⟨canonical?_eq_none_iff.mp hname, canonical?_eq_none_iff.mp (hsame.trans hname),
      rfl, rfl⟩
  | some name =>
    obtain ⟨e, he, rfl, hspells⟩ := exists_alias_of_canonical? hname
    exact .inl ⟨⟨e, he, hspells⟩, ⟨e, he, hkey ▸ hspells⟩, e, he, rfl, rfl⟩

/-! ## The aliases in force -/

/-- An alias in force was given, in some letter case. -/
theorem foldAliases_sound {e : Text × Text} (he : e ∈ foldAliases aliases) :
    ∃ a ∈ aliases, fold a.1 = e.1 ∧ a.2 = e.2 := by
  suffices hall : ∀ t : Table Text, e ∈ aliases.foldl (fun t a => t.put (fold a.1) a.2) t →
      e ∈ t ∨ ∃ a ∈ aliases, fold a.1 = e.1 ∧ a.2 = e.2 from
    (hall [] he).resolve_left List.not_mem_nil
  clear he
  induction aliases with
  | nil => exact fun t he => .inl he
  | cons a rest ih =>
    intro t he
    rcases ih _ he with he | ⟨b, hb, hsame⟩
    · rcases Table.mem_put he with rfl | he
      · exact .inr ⟨a, List.mem_cons_self, rfl, rfl⟩
      · exact .inl he
    · exact .inr ⟨b, List.mem_cons_of_mem a hb, hsame⟩

end Catalog

/-! ## Aliases that agree -/

/-- No alias calls a game otherwise than its canonical name does. -/
structure AliasesAgree (aliases : List (Text × Text)) : Prop where
  /-- Canonical names have no blanks around them. -/
  trimmed : ∀ e ∈ aliases, trim e.2 = e.2
  /-- Of canonical names that spell each other there is only one. -/
  one_spelling : ∀ e ∈ aliases, ∀ e' ∈ aliases, fold e.2 = fold e'.2 → e.2 = e'.2
  /-- An alias that spells a canonical name stands for it. -/
  own : ∀ e ∈ aliases, ∀ e' ∈ aliases, fold e.1 = fold e'.2 → e.2 = e'.2

namespace AliasesAgree

open Catalog

/-- What a canonical name is found under is itself. -/
theorem eq_of_canonical? (ha : AliasesAgree aliases) (hc : c.aliases = foldAliases aliases)
    {e : Text × Text} (he : e ∈ aliases) (hname : c.canonical? e.2 = some name) : name = e.2 := by
  obtain ⟨f, hf, rfl, hspells⟩ := exists_alias_of_canonical? hname
  obtain ⟨a, ha', hkey, hvalue⟩ := foldAliases_sound (hc ▸ hf)
  rw [gameKey, ha.trimmed e he] at hspells
  rw [← hvalue]
  rcases hspells with halias | hcanonical
  · exact ha.own a ha' e he (hkey.trans halias)
  · exact ha.one_spelling a ha' e he (hvalue ▸ hcanonical)

/-- **A canonical name stays as it is.** -/
theorem resolveGame_canonical (ha : AliasesAgree aliases) (hc : c.aliases = foldAliases aliases)
    {e : Text × Text} (he : e ∈ aliases) : c.resolveGame e.2 = e.2 := by
  rw [resolveGame_eq]
  cases hname : c.canonical? e.2 with
  | none => exact ha.trimmed e he
  | some name => exact ha.eq_of_canonical? hc he hname

/-- **A name that was looked up stays as it is.** -/
theorem resolveGame_resolveGame (ha : AliasesAgree aliases) (hc : c.aliases = foldAliases aliases)
    (g : Text) : c.resolveGame (c.resolveGame g) = c.resolveGame g := by
  have hg := resolveGame_eq c g
  cases hname : c.canonical? g with
  | none =>
    rw [hname, Option.getD_none] at hg
    rw [hg, resolveGame_eq, canonical?_eq_of_gameKey (gameKey_trim g), hname, Option.getD_none,
      trim_trim]
  | some name =>
    obtain ⟨f, hf, rfl, -⟩ := exists_alias_of_canonical? hname
    obtain ⟨a, ha', -, hvalue⟩ := foldAliases_sound (hc ▸ hf)
    rw [hname, Option.getD_some, ← hvalue] at hg
    rw [hg]
    exact ha.resolveGame_canonical hc ha'

end AliasesAgree

theorem aliasesAgree_standard : AliasesAgree Standard.aliases where
  trimmed := by decide +kernel
  one_spelling := by decide +kernel
  own := by decide +kernel

end Dialogue
