/-
**Why a text is no TOML document.**

Main definitions:

* `CodeBlocks.Toml.SyntaxFault` — the causes.
-/

set_option relaxedAutoImplicit false
set_option autoImplicit false

namespace CodeBlocks.Toml

/-- **The ways in which a text fails to be a document.** -/
inductive SyntaxFault where
  /-- A string that is not closed. -/
  | unclosedString
  /-- A control character where text stands. -/
  | controlCharacter
  /-- An escape that is not in the table, or that names no character. -/
  | badEscape
  /-- A carriage return that no line feed follows. -/
  | strayCarriageReturn
  /-- Something else where a key should stand. -/
  | expectedKey
  /-- Something else where a value should stand. -/
  | expectedValue
  /-- Something else where a sign of punctuation should stand. -/
  | expectedPunctuation
  /-- Something else where a line should end. -/
  | expectedLineEnd
  /-- A bare value that is no boolean, number, date or time. -/
  | badScalar
  /-- More nested arrays, inline tables or key parts than are allowed. -/
  | tooDeep
  /-- A key, or a table, that is defined a second time. -/
  | duplicateKey
  /-- A key path that leads through something that cannot be extended. -/
  | cannotExtend
deriving DecidableEq, Repr

end CodeBlocks.Toml
