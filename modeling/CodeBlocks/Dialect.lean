/-
**Dialects.**

A dialect bundles the conventions of a target language: the separator after a statement and the
indentation style.  Statements and blocks made through one dialect agree with each other.

Main definitions:

* `CodeBlocks.Dialect` — a name, a separator and a style;
* `CodeBlocks.Dialect.presets`, `CodeBlocks.Dialect.ofName?` — the dialects known by name;
* `CodeBlocks.Dialect.statement`, `CodeBlocks.Dialect.block` — what a dialect makes.
-/
import CodeBlocks.Node

set_option relaxedAutoImplicit false
set_option autoImplicit false

namespace CodeBlocks

/-- **The conventions of a target language.** -/
structure Dialect where
  name : String
  separator : String
  indent : Indent
deriving DecidableEq, Repr

namespace Dialect

/-! ### Presets -/

/-- No separator, four spaces: the dialect where none is given. -/
def plain : Dialect := ⟨"plain", "", .fourSpaces⟩

def java : Dialect := ⟨"java", ";", .fourSpaces⟩

def kotlin : Dialect := ⟨"kotlin", "", .fourSpaces⟩

def typescript : Dialect := ⟨"typescript", ";", .twoSpaces⟩

def go : Dialect := ⟨"go", "", .tab⟩

instance : Inhabited Dialect := ⟨plain⟩

def presets : List Dialect := [plain, java, kotlin, typescript, go]

/-- The names of the presets, in the order in which they are listed to the user. -/
def presetNames : List String := presets.map Dialect.name

/-- **The preset of a name**, in any mix of ASCII letter cases.  `ts` is short for `typescript`. -/
def ofName? (name : String) : Option Dialect :=
  match name.toLower with
  | "plain" => some plain
  | "java" => some java
  | "kotlin" => some kotlin
  | "typescript" => some typescript
  | "ts" => some typescript
  | "go" => some go
  | _ => none

/-! ### What a dialect makes -/

def withSeparator (d : Dialect) (separator : String) : Dialect := { d with separator }

def withIndent (d : Dialect) (indent : Indent) : Dialect := { d with indent }

def statement (d : Dialect) (text : String) : Statement := ⟨text, d.indent⟩

def block (d : Dialect) : Block := { separator := d.separator, indent := d.indent }

end Dialect

end CodeBlocks
