import Dialogue.Console.Handler
import Dialogue.Console.Style

/-!
# Markup of console texts

What is printed on the console may be marked up with tags between square brackets: a style opens
with its name and closes with a slash and its name, or with a slash alone. Two names that set the
same are one. What follows an equals sign are parameters: of a name that begins with `@`, the call
of a handler. A backslash before a tag makes it plain text, and a backslash before that one stands
for itself.

* `pieces`: the characters and the tags of a text;
* `escape`: the text with its tags made plain;
* `render`: the text that is shown, or why its tags are refused.

`pieces_source` says that the pieces are the text.
-/

namespace Dialogue.Markup

open Text

/-- A part of a marked-up text. -/
inductive Piece where
  | plain (c : Char)
  /-- A tag and the number of backslashes before it. -/
  | tag (slashes : Nat) (name : Text)
  deriving DecidableEq, Repr

/-- A number of backslashes. -/
def slashes (n : Nat) : Text := List.replicate n '\\'

/-- A name between brackets. -/
def bracketed (name : Text) : Text := '[' :: name ++ [']']

/-- The text of a piece. -/
def Piece.source : Piece → Text
  | plain c => [c]
  | tag n name => slashes n ++ bracketed name

/-- Whether a tag may begin with the character. -/
def opensTag (c : Char) : Bool := ('a' ≤ c && c ≤ 'z') || c = '#' || c = '/' || c = '@'

/-- The name of the tag that the text after an opening bracket begins with. -/
def tagName? : Text → Option Text
  | [] => none
  | c :: r =>
    let more := r.takeWhile fun d => d ≠ ']' && d ≠ '['
    if opensTag c ∧ (r.drop more.length).head? = some ']' then some (c :: more) else none

/-- The pieces of a text that `before` backslashes stand before. -/
def piecesAfter (before : Nat) : Text → List Piece
  | [] => (slashes before).map .plain
  | c :: r =>
    if c = '\\' then piecesAfter (before + 1) r
    else match (if c = '[' then tagName? r else none) with
      | some name => .tag before name :: piecesAfter 0 (r.drop (name.length + 1))
      | none => (slashes before).map .plain ++ .plain c :: piecesAfter 0 r
termination_by t => t.length
decreasing_by all_goals (simp only [List.length_cons, List.length_drop]; omega)

/-- The characters and the tags of a text. -/
def pieces (t : Text) : List Piece := piecesAfter 0 t

theorem tagName?_eq {t name : Text} (h : tagName? t = some name) :
    t = name ++ ']' :: t.drop (name.length + 1) := by
  cases t with
  | nil => simp [tagName?] at h
  | cons c r =>
    simp only [tagName?] at h
    split at h
    · rename_i hc
      obtain rfl := Option.some.inj h
      have hp := List.takeWhile_append_dropWhile (p := fun d => d ≠ ']' && d ≠ '[') (l := r)
      generalize r.takeWhile (fun d => d ≠ ']' && d ≠ '[') = more at *
      generalize r.dropWhile (fun d => d ≠ ']' && d ≠ '[') = rest at *
      subst hp
      obtain ⟨_, hr⟩ := hc
      simp only [List.drop_left'] at hr
      cases rest with
      | nil => simp at hr
      | cons d rest =>
        simp only [List.head?_cons, Option.some.injEq] at hr
        subst hr
        simp
    · simp at h

theorem plain_source (t : Text) : (t.map Piece.plain).flatMap Piece.source = t := by
  induction t with
  | nil => rfl
  | cons c r ih => simp [Piece.source, ih]

theorem piecesAfter_source (before : Nat) (t : Text) :
    (piecesAfter before t).flatMap Piece.source = slashes before ++ t := by
  fun_induction piecesAfter before t with
  | case1 before => simp [plain_source]
  | case2 before r ih => simp [ih, slashes, List.replicate_succ']
  | case3 before c r hc name hn ih =>
    by_cases hb : c = '['
    · subst hb
      simp only [dite_true] at hn
      have := tagName?_eq hn
      simp only [List.flatMap_cons, ih, Piece.source, bracketed, slashes]
      conv => rhs; rw [this]
      simp
    · simp [hb] at hn
  | case4 before c r hc hn ih =>
    rw [List.flatMap_append, plain_source, List.flatMap_cons, ih]
    simp [Piece.source, slashes]

/-- **The pieces of a text are the text.** -/
theorem pieces_source (t : Text) : (pieces t).flatMap Piece.source = t := by
  simp [pieces, piecesAfter_source, slashes]

/-- The piece with its tag made plain. -/
def Piece.escaped : Piece → Text
  | plain c => [c]
  | tag n name => slashes (2 * n + 1) ++ bracketed name

/-- The text with its tags made plain. A lone backslash at the end is written twice. -/
def escape (t : Text) : Text :=
  let escaped := (pieces t).flatMap Piece.escaped
  match escaped.reverse with
  | '\\' :: '\\' :: _ => escaped
  | '\\' :: _ => escaped ++ ['\\']
  | _ => escaped

/-- Why tags are refused. -/
inductive MarkupError where
  /-- No style of the name is open. -/
  | notOpen (name : Text) (position : Nat)
  /-- No style at all is open. -/
  | nothingOpen (position : Nat)
  /-- The parameters of a handler cannot be read. -/
  | handler (refusal : Text)
  /-- A colour lacks one of its three parts. -/
  | partMissing
  deriving DecidableEq, Repr

namespace MarkupError

/-- The kind of error. -/
def kind : MarkupError → Text
  | partMissing => ofString "ValueError"
  | _ => ofString "MarkupError"

/-- The wording of the refusal. -/
def message : MarkupError → Text
  | notOpen name position =>
    ofString "closing tag '" ++ bracketed name ++ ofString "' at position " ++ decimal position ++
      ofString " doesn't match any open tag"
  | nothingOpen position =>
    ofString "closing tag '[/]' at position " ++ decimal position ++
      ofString " has nothing to close"
  | handler refusal => refusal
  | partMissing => ofString "invalid literal for int() with base 10: ''"

end MarkupError

/-- An opening tag: the name of its style and its parameters. -/
structure Opening where
  style : Text
  parameters : Option Text := none
  deriving DecidableEq, Repr

namespace Opening

/-- What the text in the tag is set in. -/
def definition (o : Opening) : Text :=
  match o.parameters with
  | none => o.style
  | some parameters => o.style ++ ' ' :: parameters

/-- Whether the tag names a handler. -/
def isHandler (o : Opening) : Bool := o.style.head? = some '@'

/-- Why the tag cannot be closed, if it names a handler with parameters that are refused. -/
def refusal? (o : Opening) : Option Text :=
  if o.isHandler then (o.parameters.filter fun p => !p.isEmpty).bind Handler.refusal? else none

end Opening

/-- The opening tags, the latest first of those that are open. -/
structure Openings where
  opened : List Opening := []
  /-- Those that have been closed. -/
  closed : List Opening := []

namespace Openings

/-- The name of the style that a definition gives. -/
def styleName (definition : Text) : Except MarkupError Text :=
  match Style.normal definition with
  | some name => .ok name
  | none => .error .partMissing

/-- Closes an opening tag. -/
def close (s : Openings) (o : Opening) : Except MarkupError Openings :=
  match o.refusal? with
  | some refusal => .error (.handler refusal)
  | none => .ok { opened := s.opened.erase o, closed := o :: s.closed }

/-- The opening tags after a tag at a position. A closing tag closes the latest one of its name. -/
def follow (s : Openings) (position : Nat) (tag : Text) : Except MarkupError Openings := do
  let name := tag.takeWhile (· ≠ '=')
  match name with
  | '/' :: ended =>
    if (trim ended).isEmpty then
      match s.opened with
      | [] => throw (.nothingOpen position)
      | o :: _ => s.close o
    else
      let style ← styleName (trim ended)
      match s.opened.find? fun o => o.style = style with
      | none => throw (.notOpen tag position)
      | some o => s.close o
  | _ =>
    let style ← styleName name
    let parameters := if name.length < tag.length then some (tag.drop (name.length + 1)) else none
    return { s with opened := { style, parameters } :: s.opened }

/-- Makes sure that the texts in the tags can be set. -/
def check (s : Openings) : Except MarkupError Unit :=
  if (s.opened ++ s.closed).any fun o => !o.isHandler && (Style.normal o.definition).isNone
  then .error .partMissing else .ok ()

end Openings

/-- What is shown of pieces that begin at a position, after some opening tags. A backslash before a
bracket that opens no tag is not shown. -/
def renderPieces (s : Openings) (position : Nat) : List Piece → Except MarkupError Text
  | [] => s.check.map fun _ => []
  | .plain '\\' :: .plain '[' :: rest =>
    (renderPieces s (position + 2) rest).map ('[' :: ·)
  | .plain c :: rest => (renderPieces s (position + 1) rest).map (c :: ·)
  | .tag n tag :: rest => do
    let next := position + n + tag.length + 2
    if n % 2 = 1 then
      let shown ← renderPieces s next rest
      return slashes (n / 2) ++ bracketed tag ++ shown
    else
      let s ← s.follow (position + n) tag
      let shown ← renderPieces s next rest
      return slashes (n / 2) ++ shown

/-- What is shown of a text. -/
def render (t : Text) : Except MarkupError Text := renderPieces {} 0 (pieces t)

end Dialogue.Markup
