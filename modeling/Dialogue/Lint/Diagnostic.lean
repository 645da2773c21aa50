import Dialogue.Text.Order

/-!
# Diagnostics

A diagnostic is a remark on a stretch of one line of a script.

* `Severity`, `TextRange`, `Diagnostic`: the remark;
* `hasErrors` (`has_errors`): whether any of some diagnostics is an error;
* `sortDiagnostics` (`sort_diagnostics`): the diagnostics by line, start column and code, those
  equal in all three in their old order.
-/

namespace Dialogue

open Text

/-- How grave a remark is. -/
inductive Severity where
  | error
  | warning
  | other (name : Text)
  deriving DecidableEq, Repr

namespace Severity

/-- The severity's name. -/
def name : Severity → Text
  | error => ofString "error"
  | warning => ofString "warning"
  | other name => name

/-- The severity of a name. -/
def ofName (name : Text) : Severity :=
  if name = ofString "error" then error
  else if name = ofString "warning" then warning
  else other name

end Severity

/-- A line, counted from zero, and a span of its columns, the end exclusive. -/
structure TextRange where
  line : Int
  start : Int
  stop : Int
  deriving DecidableEq, Repr

/-- A remark on a script. -/
structure Diagnostic where
  code : Text
  message : Text
  range : TextRange
  severity : Severity := .error
  hint : Option Text := none
  category : Option Text := none
  deriving DecidableEq, Repr

namespace Diagnostic

/-- Whether `a` comes no later than `b` by line, start column and code. -/
def le (a b : Diagnostic) : Bool :=
  if a.range.line ≠ b.range.line then decide (a.range.line < b.range.line)
  else if a.range.start ≠ b.range.start then decide (a.range.start < b.range.start)
  else noLater a.code b.code

end Diagnostic

/-- Whether any of the diagnostics is an error. -/
def hasErrors (diagnostics : List Diagnostic) : Bool :=
  diagnostics.any (·.severity = .error)

/-- The diagnostics in the order in which they are reported. -/
def sortDiagnostics (diagnostics : List Diagnostic) : List Diagnostic :=
  diagnostics.mergeSort Diagnostic.le

end Dialogue
