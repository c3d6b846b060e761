/-
**Lines of reports.**

A report says what its lines are about, and a terminal decides how they look and where they go:
warnings go to the error stream, so that they never mix with code.

Main definitions:

* `CodeBlocks.ReportLine` — the kinds of lines;
* `CodeBlocks.ReportLine.isWarning`, `CodeBlocks.ReportLine.text` — where a line goes, and how it
  looks.
-/

set_option relaxedAutoImplicit false
set_option autoImplicit false

namespace CodeBlocks

/-- **A line of a report.** -/
inductive ReportLine where
  | keyValue (key value : String)
  | listItem (text : String)
  | status (text : String)
  | warning (text : String)
  | blank
deriving DecidableEq, Repr

namespace ReportLine

def isWarning : ReportLine → Bool
  | warning _ => true
  | _ => false

/-- **How a line looks** on a terminal. -/
def text : ReportLine → String
  | keyValue key value => s!"  {key}: {value}"
  | listItem text => s!"    - {text}"
  | status text => text
  | warning text => s!"warning: {text}"
  | blank => ""

def countOfBlocks (count : Nat) : String :=
  if count = 1 then "1 block" else s!"{count} blocks"

end ReportLine

end CodeBlocks
