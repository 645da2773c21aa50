import Dialogue.Text.Basic

/-!
# Lines

A script breaks its lines at a line feed, with or without a carriage return before it. A lone
carriage return is an ordinary character. Files are read with both line ends of other systems
already turned into line feeds.

* `splitLines` (`split_lines`): the lines of a text, at least one;
* `unifyBreaks`: the text with every line end written as a line feed.
-/

namespace Dialogue.Text

/-- The lines of a text, without their line ends. -/
def splitLines : Text → List Text
  | [] => [[]]
  | c :: r =>
    if c = '\n' then [] :: splitLines r
    else if c = '\r' ∧ r.head? = some '\n' then splitLines r
    else consHead c (splitLines r)

/-- Every line end (`\r\n`, `\r` or `\n`) written as a line feed. -/
def unifyBreaks : Text → Text
  | [] => []
  | c :: r =>
    if c = '\r' then
      if r.head? = some '\n' then unifyBreaks r else '\n' :: unifyBreaks r
    else c :: unifyBreaks r

/-- The pieces of a text between its line feeds. -/
def splitAtFeeds : Text → List Text
  | [] => [[]]
  | c :: r => if c = '\n' then [] :: splitAtFeeds r else consHead c (splitAtFeeds r)

theorem splitLines_ne_nil (t : Text) : splitLines t ≠ [] := by
  fun_induction splitLines t with
  | case1 => simp
  | case2 => simp
  | case3 _ _ _ _ ih => exact ih
  | case4 c r _ _ _ => cases splitLines r <;> simp [consHead]

end Dialogue.Text
