/-
**Misuse of the command line.**

Only what is wrong is said here.  The words for it are those of the parser of arguments.

Main definitions:

* `CodeBlocks.CommandLine.Misuse` — what can be wrong with arguments;
* `CodeBlocks.CommandLine.Stop` — why reading arguments ends early.
-/

set_option relaxedAutoImplicit false
set_option autoImplicit false

namespace CodeBlocks.CommandLine

/-- **What can be wrong with arguments.**  Options are given by their long names. -/
inductive Misuse where
  | noCommand
  | unknownCommand (text : String)
  | unknownOption (text : String)
  | unexpectedOperand (text : String)
  | missingValue (option : String)
  | unneededValue (option : String)
  | repeatedOption (option : String)
  | badNumber (option text : String)
  | emptyPath (option : String)
  | unknownShell (text : String)
  | noShell
  | optionNeeds (option other : String)
deriving DecidableEq, Repr

/-- **Why reading arguments ends early**: a misuse, or a wish that counts at once. -/
inductive Stop where
  | misuse (fault : Misuse)
  | help
  | version
deriving DecidableEq, Repr

end CodeBlocks.CommandLine
