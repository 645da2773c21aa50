import Dialogue.Table
import Dialogue.Text.Blank
import Dialogue.Text.Lines

/-!
# Environment files

An environment file gives values to names, one entry after the other: a name, which `export` may
stand before, an equals sign and a value. A value between quotes may run over lines and has escapes;
one without ends at its line or at a comment, which white space sets off. A line that is no entry is
passed over, and so is a byte-order mark at the beginning. A dollar sign and a name between braces
stand for the value that the name has by then; `:-` after the name brings in what stands for it if
it has none.

* `entry`: the assignment at the beginning of a text, and the text after it;
* `assignments`: all of them;
* `resolve`: the assignments with their references resolved;
* `EnvFile.read`: the values of a file.

`entry_shorter` says that reading an entry gets on.
-/

namespace Dialogue.EnvFile

open Text

/-- A name with its value, if an equals sign gives it one. -/
abbrev Assignment := Text × Option Text

/-- Whether a character is white space within a line. -/
def isGap (c : Char) : Bool := isBlank c && c ≠ '\n'

/-- The text after the current line. -/
def nextLine (t : Text) : Text := (t.dropWhile (· ≠ '\n')).drop 1

/-- The text without a leading `export`, if white space sets it off. -/
def withoutExport (t : Text) : Text :=
  let rest := t.drop 6
  if (ofString "export").isPrefixOf t ∧ (rest.head?.map isGap) = some true then
    rest.dropWhile isGap
  else t

/-- Whether a character may belong to a name without quotes. -/
def isNameChar (c : Char) : Bool := c ≠ '=' && c ≠ '#' && !isBlank c

/-- The name at the beginning of a text, and the text after it. -/
def name? (t : Text) : Option (Text × Text) :=
  if t.head? = some '\'' then
    let name := (t.drop 1).takeWhile (· ≠ '\'')
    let rest := t.drop (name.length + 1)
    if name.isEmpty ∨ rest.isEmpty then none else some (name, rest.drop 1)
  else
    let name := t.takeWhile isNameChar
    if name.isEmpty then none else some (name, t.drop name.length)

/-- The text up to the closing quote, and the text after that. A quote after a backslash does not
close, unless the backslash itself comes after one. -/
def closing? (quote : Char) : Text → Option (Text × Text)
  | [] => none
  | [c] => if c = quote then some ([], []) else none
  | c :: d :: r =>
    if c = '\\' then (closing? quote r).map fun (body, rest) => (c :: d :: body, rest)
    else if c = quote then some ([], d :: r)
    else (closing? quote (d :: r)).map fun (body, rest) => (c :: body, rest)

/-- The text with each escape that the table knows replaced. -/
def unescaped (escapes : List (Char × Char)) : Text → Text
  | [] => []
  | [c] => [c]
  | c :: d :: r =>
    if c = '\\' then
      match escapes.lookup d with
      | some e => e :: unescaped escapes r
      | none => c :: unescaped escapes (d :: r)
    else c :: unescaped escapes (d :: r)

/-- The escapes between single quotes. -/
def singleEscapes : List (Char × Char) := [('\\', '\\'), ('\'', '\'')]

/-- The escapes between double quotes. -/
def doubleEscapes : List (Char × Char) :=
  [('\\', '\\'), ('\'', '\''), ('"', '"'), ('a', '\x07'), ('b', '\x08'), ('f', '\x0c'), ('n', '\n'),
    ('r', '\r'), ('t', '\t'), ('v', '\x0b')]

/-- The text up to a number sign that white space stands before. -/
def beforeComment (afterBlank : Bool) : Text → Text
  | [] => []
  | c :: r => if afterBlank ∧ c = '#' then [] else c :: beforeComment (isBlank c) r

/-- A value between quotes, and the text after it. -/
def quotedValue? (quote : Char) (escapes : List (Char × Char)) (t : Text) : Option (Text × Text) :=
  (closing? quote t).map fun (body, rest) => (unescaped escapes body, rest)

/-- The value at the beginning of a text, which white space may stand before, and the text after
it; `none` if a quote is not closed. -/
def value? (afterBlank : Bool) (t : Text) : Option (Text × Text) :=
  match t.head? with
  | some '\'' => quotedValue? '\'' singleEscapes (t.drop 1)
  | some '"' => quotedValue? '"' doubleEscapes (t.drop 1)
  | _ =>
    let line := t.takeWhile (· ≠ '\n')
    some (trimRight (beforeComment afterBlank line), t.drop line.length)

/-- The text after the end of the line, if at most a comment comes before it. -/
def endOfLine? (t : Text) : Option Text :=
  let rest := t.dropWhile isGap
  if rest.isEmpty ∨ rest.head? = some '#' ∨ rest.head? = some '\n' then some (nextLine rest)
  else none

/-- What an assignment comes to when it is followed by a text. -/
def concluded (a : Assignment) (t : Text) : Option Assignment × Text :=
  match endOfLine? t with
  | some rest => (some a, rest)
  | none => (none, nextLine t)

/-- The assignment of a name that is followed by a text. -/
def assigned (name t : Text) : Option Assignment × Text :=
  let t := t.dropWhile isGap
  if t.head? = some '=' then
    let value := (t.drop 1).dropWhile isGap
    match value? (value.length < (t.drop 1).length) value with
    | some (value, rest) => concluded (name, some value) rest
    | none => (none, nextLine value)
  else concluded (name, none) t

/-- The assignment at the beginning of a text, if there is one, and the text after it. -/
def entry (t : Text) : Option Assignment × Text :=
  let t := withoutExport t
  match name? t with
  | some (name, rest) => assigned name rest
  | none => (none, nextLine t)

/-! ## Reading an entry gets on -/

theorem length_dropWhile_le (p : Char → Bool) (t : Text) : (t.dropWhile p).length ≤ t.length :=
  (List.dropWhile_suffix p).length_le

theorem nextLine_length (t : Text) : (nextLine t).length ≤ t.length - 1 := by
  have := length_dropWhile_le (· ≠ '\n') t
  simp only [nextLine, List.length_drop]
  omega

theorem withoutExport_length (t : Text) : (withoutExport t).length ≤ t.length := by
  simp only [withoutExport]
  split
  · have := length_dropWhile_le isGap (t.drop 6)
    simp only [List.length_drop] at this
    omega
  · exact Nat.le_refl _

theorem name?_length {t name rest : Text} (h : name? t = some (name, rest)) :
    rest.length < t.length := by
  have pos {xs : Text} (hx : ¬ xs.isEmpty = true) : 0 < xs.length := by
    cases xs <;> simp_all
  simp only [name?] at h
  split at h
  · split at h
    · simp at h
    · rename_i hn
      simp only [Option.some.injEq, Prod.mk.injEq] at h
      obtain ⟨-, rfl⟩ := h
      have := pos fun hr => hn (.inr hr)
      simp only [List.length_drop] at *
      omega
  · split at h
    · simp at h
    · rename_i hn
      simp only [Option.some.injEq, Prod.mk.injEq] at h
      obtain ⟨-, rfl⟩ := h
      have := pos hn
      have := (List.takeWhile_prefix (l := t) isNameChar).length_le
      simp only [List.length_drop]
      omega

theorem closing?_length {quote : Char} {t body rest : Text}
    (h : closing? quote t = some (body, rest)) : rest.length ≤ t.length := by
  fun_induction closing? quote t generalizing body rest with
  | case1 => simp at h
  | case2 => simp_all
  | case3 => simp at h
  | case4 d r ih =>
    obtain ⟨p, hp, he⟩ := Option.map_eq_some_iff.1 h
    simp only [Prod.mk.injEq] at he
    have := ih hp
    simp only [List.length_cons, ← he.2] at *
    omega
  | case5 =>
    simp only [Option.some.injEq, Prod.mk.injEq] at h
    simp [← h.2]
  | case6 c d r _ _ ih =>
    obtain ⟨p, hp, he⟩ := Option.map_eq_some_iff.1 h
    simp only [Prod.mk.injEq] at he
    have := ih hp
    simp only [List.length_cons, ← he.2] at *
    omega

theorem quotedValue?_length {quote : Char} {escapes : List (Char × Char)} {t value rest : Text}
    (h : quotedValue? quote escapes t = some (value, rest)) : rest.length ≤ t.length := by
  obtain ⟨p, hp, he⟩ := Option.map_eq_some_iff.1 h
  simp only [Prod.mk.injEq] at he
  exact he.2 ▸ closing?_length hp

theorem value?_length {afterBlank : Bool} {t value rest : Text}
    (h : value? afterBlank t = some (value, rest)) : rest.length ≤ t.length := by
  simp only [value?] at h
  split at h
  · have := quotedValue?_length h
    simp only [List.length_drop] at this
    omega
  · have := quotedValue?_length h
    simp only [List.length_drop] at this
    omega
  · simp only [Option.some.injEq, Prod.mk.injEq] at h
    obtain ⟨-, rfl⟩ := h
    simp

theorem concluded_length (a : Assignment) (t : Text) : (concluded a t).2.length ≤ t.length := by
  have := nextLine_length t
  simp only [concluded]
  split
  · rename_i rest he
    simp only [endOfLine?] at he
    split at he
    · simp only [Option.some.injEq] at he
      have := nextLine_length (t.dropWhile isGap)
      have := length_dropWhile_le isGap t
      show rest.length ≤ t.length
      rw [← he]
      omega
    · simp at he
  · simp only
    omega

theorem assigned_length (name t : Text) : (assigned name t).2.length ≤ t.length := by
  have hgap := length_dropWhile_le isGap t
  simp only [assigned]
  split
  · have hgap' := length_dropWhile_le isGap ((t.dropWhile isGap).drop 1)
    simp only [List.length_drop] at hgap'
    split
    · rename_i value rest hv
      have := value?_length hv
      have := concluded_length (name, some value) rest
      omega
    · have := nextLine_length (((t.dropWhile isGap).drop 1).dropWhile isGap)
      simp only
      omega
  · have := concluded_length (name, none) (t.dropWhile isGap)
    omega

/-- **Reading an entry gets on.** -/
theorem entry_shorter {t : Text} (h : t ≠ []) : (entry t).2.length < t.length := by
  have hpos : 0 < t.length := List.length_pos_iff.2 h
  have he := withoutExport_length t
  simp only [entry]
  split
  · rename_i name rest hn
    have := name?_length hn
    have := assigned_length name rest
    omega
  · have := nextLine_length (withoutExport t)
    simp only
    omega

/-! ## Whole files -/

/-- The assignments of a text in order. -/
def assignments (t : Text) : List Assignment :=
  let start := trimLeft t
  if _h : start = [] then []
  else
    let next := entry start
    next.1.toList ++ assignments next.2
termination_by t.length
decreasing_by exact Nat.lt_of_lt_of_le (entry_shorter _h) (length_dropWhile_le isBlank t)

/-- The name, the default and the rest of a reference, from after its opening brace. -/
def reference? (t : Text) : Option (Text × Text × Text) :=
  let name := t.takeWhile fun c => c ≠ '\x7d' && c ≠ ':'
  match t.drop name.length with
  | '\x7d' :: rest => some (name, [], rest)
  | ':' :: '-' :: r =>
    let default := r.takeWhile (· ≠ '\x7d')
    match r.drop default.length with
    | '\x7d' :: rest => some (name, default, rest)
    | _ => none
  | _ => none

theorem reference?_length {t name default rest : Text}
    (h : reference? t = some (name, default, rest)) : rest.length < t.length := by
  have drop_le (n : Nat) (xs : Text) : (xs.drop n).length ≤ xs.length := by simp
  simp only [reference?] at h
  split at h
  · rename_i r he
    simp only [Option.some.injEq, Prod.mk.injEq] at h
    have := drop_le (t.takeWhile fun c => c ≠ '\x7d' && c ≠ ':').length t
    rw [he, List.length_cons] at this
    rw [← h.2.2]
    omega
  · rename_i r he
    have := drop_le (t.takeWhile fun c => c ≠ '\x7d' && c ≠ ':').length t
    rw [he, List.length_cons, List.length_cons] at this
    split at h
    · rename_i r' he'
      simp only [Option.some.injEq, Prod.mk.injEq] at h
      have := drop_le (r.takeWhile (· ≠ '\x7d')).length r
      rw [he', List.length_cons] at this
      rw [← h.2.2]
      omega
    · simp at h
  · simp at h

/-- The reference at the beginning of a text: its name, its default and the text after it. -/
def leadingReference? (t : Text) : Option (Text × Text × Text) :=
  match t with
  | '$' :: '\x7b' :: r => reference? r
  | _ => none

theorem leadingReference?_length {t name default rest : Text}
    (h : leadingReference? t = some (name, default, rest)) : rest.length < t.length := by
  unfold leadingReference? at h
  split at h
  · have := reference?_length h
    simp only [List.length_cons]
    omega
  · simp at h

/-- The text with its references replaced. -/
def expand (look : Text → Option Text) (t : Text) : Text :=
  match _h : leadingReference? t with
  | some (name, default, rest) => (look name).getD default ++ expand look rest
  | none =>
    match t with
    | [] => []
    | c :: r => c :: expand look r
termination_by t.length
decreasing_by
  · exact leadingReference?_length _h
  · simp

/-- The value of a name: an earlier assignment counts before the environment. A name without a value
stands for nothing. -/
def valueOf (environment : Table Text) (earlier : Table (Option Text)) (name : Text) :
    Option Text :=
  match earlier.get? name with
  | some value => some (value.getD [])
  | none => environment.get? name

/-- Enters an assignment with its references resolved. -/
def enter (environment : Table Text) (earlier : Table (Option Text)) (a : Assignment) :
    Table (Option Text) :=
  earlier.put a.1 (a.2.map (expand (valueOf environment earlier)))

/-- The values that assignments give to names. -/
def resolve (environment : Table Text) (as : List Assignment) : Table (Option Text) :=
  as.foldl (enter environment) []

/-- The text without a byte-order mark at its beginning. -/
def withoutMark : Text → Text
  | '\ufeff' :: t => t
  | t => t

/-- The values of a file in an environment. -/
def read (environment : Table Text) (content : Text) : Table (Option Text) :=
  resolve environment (assignments (unifyBreaks (withoutMark content)))

end Dialogue.EnvFile
