/-
**Texts that help with the command line.**

The guides to the commands and the completions for a shell are made by libraries from the options of
the commands.  A run shows them as they are.

Main definitions:

* `CodeBlocks.CommandLine.Manual` — these texts;
* `CodeBlocks.CommandLine.versionText` — the name and the version of the program.
-/
import CodeBlocks.CommandLine.Request

set_option relaxedAutoImplicit false
set_option autoImplicit false

namespace CodeBlocks.CommandLine

/-- **The texts of the libraries**: one for each wish for help, and the completions for
each shell. -/
structure Manual where
  guide : Option Command → String
  script : Shell → String

def Manual.blank : Manual := ⟨fun _ => "", fun _ => ""⟩

def versionText : String := "stanza 0.1.0\n"

end CodeBlocks.CommandLine
