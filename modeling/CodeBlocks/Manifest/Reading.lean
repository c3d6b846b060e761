/-
**Reading manifests.**

A text is parsed, read into a draft, and admitted.  A manifest can also be read from a file.

Main definitions:

* `CodeBlocks.manifestFile` — the usual name of the file;
* `CodeBlocks.Manifest.ofText` — the manifest of a text;
* `CodeBlocks.ManifestFile`, `CodeBlocks.ManifestFile.load` — a file with its manifest.
-/
import CodeBlocks.FileTree
import CodeBlocks.Manifest.Admission
import CodeBlocks.Manifest.Decode
import CodeBlocks.Toml.Document

set_option relaxedAutoImplicit false
set_option autoImplicit false

namespace CodeBlocks

/-- The usual name of the file. -/
def manifestFile : String := "stanza.toml"

def Manifest.parse (text : String) : Except ManifestFault Manifest := do
  let document ← (Toml.Table.ofText text).mapError .notToml
  let draft ← (Draft.ofTable document).mapError .badFields
  draft.admit text

/-- **The manifest of a text** that has a name. -/
def Manifest.ofText (text source : String) : Except Refusal Manifest :=
  (Manifest.parse text).mapError fun fault => ⟨fault, source⟩

/-- **A file with its text and its manifest.** -/
structure ManifestFile where
  path : String
  content : String
  manifest : Manifest

def ManifestFile.load (tree : FileTree) (path : String) : Except Refusal ManifestFile := do
  let content ← (tree.readText (.ofText path)).mapError fun fault => ⟨.unreadable path fault, path⟩
  let manifest ← Manifest.ofText content path
  return ⟨path, content, manifest⟩

end CodeBlocks
