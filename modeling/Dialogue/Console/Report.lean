import Dialogue.Console.Markup
import Dialogue.Lint.Diagnostic

/-!
# Marked-up lines on the console

A diagnostic is printed with its file, its line and column counted from one, its severity in colour,
its code and its message. A hint follows on a line of its own. An option is printed behind its number.

* `Severity.style`: the colour of a severity;
* `Diagnostic.report` (`format_diagnostic`): the diagnostic with its markup;
* `Console.optionLine` (`choose`): the option of a number as it is shown.
-/

namespace Dialogue

open Text

/-- The colour in which a severity is printed. -/
def Severity.style : Severity → Text
  | error => ofString "red"
  | warning => ofString "yellow"
  | other _ => ofString "white"

/-- The diagnostic of a file as marked-up text. -/
def Diagnostic.report (path : Text) (d : Diagnostic) : Text :=
  path ++ ':' :: decimal (d.range.line + 1) ++ ':' :: decimal (d.range.start + 1) ++
    ofString ": [" ++ d.severity.style ++ [']'] ++ d.severity.name ++
    ofString "[/" ++ d.severity.style ++ ofString "]\\[" ++ d.code ++ ofString "] " ++
    Markup.escape d.message ++
    match d.hint with
    | none => []
    | some hint =>
      if hint.isEmpty then [] else ofString "\n    hint: " ++ Markup.escape hint

/-- The option of a number as it is shown. -/
def Console.optionLine (number : Nat) (option : Text) : Text :=
  let marked :=
    ofString "  [bold]" ++ decimal number ++ ofString ".[/bold] " ++ Markup.escape option
  match Markup.render marked with
  | .ok shown => shown
  | .error _ => marked

end Dialogue
