/-
**Generating code from manifests.**

Blocks are selected by name, rendered at one level, and joined by a blank line.  The code goes into
a file if one is named.  Rendering goes as far as a machine does, and writing as far as a disk.

Main definitions:

* `CodeBlocks.Order`, `CodeBlocks.Generation` — what is asked for, and what came of it;
* `CodeBlocks.Manifest.generateOn` — the code of the selected blocks, on a machine;
* `CodeBlocks.Manifest.fulfilOn` — **the code, and the file it goes into**, on a machine and a disk;
* `CodeBlocks.Manifest.generate`, `CodeBlocks.Manifest.fulfil` — the same where there are no bounds
  and the disk takes everything;
* `CodeBlocks.Generation.lines` — the report on it.
-/
import CodeBlocks.FileTree.OutputFile
import CodeBlocks.Manifest.Build
import CodeBlocks.Node.Bounded
import CodeBlocks.Report.Line

set_option relaxedAutoImplicit false
set_option autoImplicit false

namespace CodeBlocks

/-! ### Orders -/

/-- **What is asked for.**  Without names, all blocks are meant. -/
structure Order where
  blocks : List String := []
  level : Option Nat := none
  output : Option String := none
  /-- A file that is there already stays as it is. -/
  noClobber : Bool := false
deriving DecidableEq, Repr

/-- **What came of it.**  Each block is listed with the number of its nodes. -/
structure Generation where
  blocks : List (String × Nat)
  code : String
  written : Option (String × WriteResult) := none
deriving DecidableEq, Repr

/-- **Why nothing came of it.** -/
inductive GenerationFault where
  | unknownBlocks (names available : List String)
  | unrenderable (error : RenderError)
  /-- The machine does not go far enough, and the program stops. -/
  | overflow
  | unwritable (fault : IoFault)
deriving DecidableEq, Repr

def GenerationFault.ofRender : RenderFault → GenerationFault
  | .overflow => overflow
  | .failed error => unrenderable error

def unknownBlocksMessage (names available : List String) : String :=
  (if names.length = 1 then "unknown block '" else "unknown blocks '") ++
    "', '".intercalate names ++ "' (available: " ++
    (if available.isEmpty then "none" else ", ".intercalate available) ++ ")"

/-- **The words for a fault.**  A program that stops, and a file that cannot be written, have none
of their own: there the system speaks. -/
def GenerationFault.message? : GenerationFault → Option String
  | unknownBlocks names available => some (unknownBlocksMessage names available)
  | unrenderable error => some error.message
  | overflow => none
  | unwritable _ => none

/-! ### Code -/

def Manifest.selection (manifest : Manifest) (names : List String) : List String :=
  if names.isEmpty then manifest.blockNames else names

/-- The described blocks of some names, if every name has one. -/
def Manifest.select (manifest : Manifest) (names : List String) :
    Except GenerationFault (List (String × BlockSpec)) :=
  match names.filter fun name => (manifest.block? name).isNone with
  | [] => .ok (names.filterMap fun name => (manifest.block? name).map fun spec => (name, spec))
  | unknown => .error (.unknownBlocks unknown manifest.blockNames)

/-- Sections with a blank line between them.  A section without text leaves no line either. -/
def joinSections (sections : List String) : String :=
  "\n".intercalate (sections.filter (· ≠ ""))

def Manifest.levelFor (manifest : Manifest) (level : Option Nat) : Nat :=
  level.getD manifest.settings.baseIndent

/-- **The code of the selected blocks**, on a machine. -/
def Manifest.generateOn (machine : Machine) (manifest : Manifest) (names : List String)
    (level : Option Nat) : Except GenerationFault Generation := do
  let selected ← manifest.select (manifest.selection names)
  let dialect := manifest.settings.resolved
  let render := fun (entry : String × BlockSpec) =>
    (entry.2.build dialect).renderOn machine (manifest.levelFor level)
  let sections ← (selected.mapM render).mapError .ofRender
  return { blocks := selected.map fun entry => (entry.1, entry.2.nodes.length)
           code := joinSections sections }

/-- **The code of the selected blocks**, where there are no bounds. -/
def Manifest.generate (manifest : Manifest) (names : List String) (level : Option Nat) :
    Except GenerationFault Generation :=
  manifest.generateOn .unbounded names level

/-! ### Files -/

def Order.file? (order : Order) (code : String) : Option OutputFile :=
  order.output.map fun path =>
    { path, content := code, overwrite := if order.noClobber then .ifMissing else .always }

/-- **Fulfil an order**: the code, and the file it goes into. -/
def Manifest.fulfilOn (machine : Machine) (disk : Disk) (manifest : Manifest) (order : Order)
    (tree : FileTree) : Except GenerationFault Generation × FileTree :=
  match manifest.generateOn machine order.blocks order.level with
  | .error fault => (.error fault, tree)
  | .ok generation =>
    match order.file? generation.code with
    | none => (.ok generation, tree)
    | some file =>
      match file.writeOn disk tree with
      | (.error fault, after) => (.error (.unwritable fault), after)
      | (.ok result, after) =>
        (.ok { generation with written := some (file.path, result) }, after)

/-- **Fulfil an order** where there are no bounds and the disk takes everything. -/
def Manifest.fulfil (manifest : Manifest) (order : Order) (tree : FileTree) :
    Except GenerationFault Generation × FileTree :=
  manifest.fulfilOn .unbounded .roomy order tree

theorem Manifest.fulfil_eq (manifest : Manifest) (order : Order) (tree : FileTree) :
    manifest.fulfil order tree =
      match manifest.generate order.blocks order.level with
      | .error fault => (.error fault, tree)
      | .ok generation =>
        match order.file? generation.code with
        | none => (.ok generation, tree)
        | some file =>
          match file.write tree with
          | (.error fault, after) => (.error (.unwritable fault), after)
          | (.ok result, after) =>
            (.ok { generation with written := some (file.path, result) }, after) := rfl

/-! ### The report -/

/-- **The report on a generation.**  Where no file was asked for, there is nothing to tell. -/
def Generation.lines (generation : Generation) : List ReportLine :=
  match generation.written with
  | none => []
  | some (path, .written) =>
    .status s!"✓ wrote {ReportLine.countOfBlocks generation.blocks.length} to {path}" ::
      generation.blocks.map fun entry => .listItem s!"{entry.1} ({entry.2} nodes)"
  | some (path, .skipped) => [.warning s!"{path} already exists, skipped"]

end CodeBlocks
