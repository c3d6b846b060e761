/-
**Failures of files and streams.**

Main definitions:

* `CodeBlocks.IoFault` — why an operation on a file, or on a stream of bytes, did not go through.
-/

set_option relaxedAutoImplicit false
set_option autoImplicit false

namespace CodeBlocks

/-- **Why an operation on a file or a stream did not go through.** -/
inductive IoFault where
  | notFound
  | isADirectory
  | notADirectory
  /-- Something stands where a directory was to be made. -/
  | alreadyExists
  /-- The content is not text in UTF-8. -/
  | invalidData
  /-- The path holds a character that no path can hold. -/
  | invalidInput
  /-- A name, or the whole path, is too long. -/
  | invalidFilename
  /-- Nobody reads the stream any more. -/
  | brokenPipe
  | storageFull
  | permissionDenied
  | wouldBlock
  /-- The stream took nothing. -/
  | writeZero
  | interrupted
  /-- Anything else, under a name of its own. -/
  | other (kind : String)
deriving DecidableEq, Repr

end CodeBlocks
