/-
**Running a request.**

A run reads a manifest from the tree of files, writes code and reports to standard output, and
collects the warnings for the error stream.  Code that nobody reads any more is no failure, but a
line of a report that cannot be written aborts the run.

A run takes place on a host.  Where nothing is said about it, there are no bounds, the disk takes
everything, and the manual is blank.

Main definitions:

* `CodeBlocks.CommandLine.Ending` — how a run ends, with its exit code;
* `CodeBlocks.CommandLine.Host` — the machine, the disk and the manual;
* `CodeBlocks.CommandLine.RunFault` — why a run has nothing to show;
* `CodeBlocks.CommandLine.Run` — what is there when a run has ended;
* `CodeBlocks.CommandLine.Request.runOn`, `CodeBlocks.CommandLine.Request.run` — **run a request**,
  on a host and without bounds;
* `CodeBlocks.CommandLine.run` — run what some arguments ask for.
-/
import CodeBlocks.CommandLine.Guide
import CodeBlocks.Summary
import CodeBlocks.Writer

set_option relaxedAutoImplicit false
set_option autoImplicit false

namespace CodeBlocks.CommandLine

/-! ### Endings -/

/-- **How a run ends.** -/
inductive Ending where
  | success
  /-- The manifest or the order was refused, or something could not be written. -/
  | failure
  /-- The arguments make no request. -/
  | misuse
  /-- The machine did not go far enough, or a line could not be written. -/
  | aborted
deriving DecidableEq, Repr

def Ending.exitCode : Ending → Nat
  | success => 0
  | failure => 1
  | misuse => 2
  | aborted => 101

/-- **Where a run takes place.** -/
structure Host where
  machine : Machine := .unbounded
  disk : Disk := .roomy
  manual : Manual := .blank

/-- A host with words of 64 bits, for programs that do not check their levels. -/
def Host.usual : Host := { machine := .sixtyFour false }

/-- **Why a run has nothing to show.** -/
inductive RunFault where
  | misused (fault : Misuse)
  | refused (refusal : Refusal)
  | unfulfilled (fault : GenerationFault)
  | undelivered (fault : IoFault)
deriving DecidableEq, Repr

namespace RunFault

def ending : RunFault → Ending
  | misused _ => .misuse
  | unfulfilled .overflow => .aborted
  | _ => .failure

theorem ending_ne_success (fault : RunFault) : fault.ending ≠ .success := by
  unfold ending
  split <;> simp

/-- **The words for a fault**, where the program has words of its own.  How they are laid out is
left to the error stream. -/
def message? : RunFault → Option String
  | misused _ => none
  | refused refusal => some refusal.fault.message
  | unfulfilled fault => fault.message?
  | undelivered _ => some "failed to write rendered code to stdout"

end RunFault

/-- **What is there when a run has ended**: the state of standard output, the warnings on the error
stream, why there is no more, and the files. -/
structure Run (σ : Type) where
  ending : Ending
  output : σ
  errors : String := ""
  fault? : Option RunFault := none
  tree : FileTree

variable {σ : Type}

/-! ### Reports -/

/-- **Show the lines of a report.**  Lines up to one that cannot be written are shown. -/
def showLines (writer : Writer σ) (output : σ) (errors : String) :
    List ReportLine → Ending × σ × String
  | [] => (.success, output, errors)
  | line :: lines =>
    if line.isWarning then showLines writer output (errors ++ line.text ++ "\n") lines
    else
      match writer.putLine output line.text with
      | (.ok (), next) => showLines writer next errors lines
      | (.error _, next) => (.aborted, next, errors)

def Run.report (writer : Writer σ) (output : σ) (tree : FileTree) (lines : List ReportLine) :
    Run σ :=
  let (ending, output, errors) := showLines writer output "" lines
  { ending, output, errors, tree }

def Run.fail (output : σ) (tree : FileTree) (fault : RunFault) : Run σ :=
  { ending := fault.ending, output, fault? := some fault, tree }

/-- A run that ends with a text from a library.  Help counts as shown in any case, but completions
that cannot be written abort the run. -/
def Run.tell (writer : Writer σ) (output : σ) (tree : FileTree) (insists : Bool) (text : String) :
    Run σ :=
  match writer.writeAll output (Writer.bytesOf text) with
  | (.ok (), output) => { ending := .success, output, tree }
  | (.error _, output) => { ending := if insists then .aborted else .success, output, tree }

/-! ### Requests -/

/-- **Render**: the code goes to a file or to standard output, and a report follows. -/
def runRender (host : Host) (writer : Writer σ) (output : σ) (tree : FileTree) (config : String)
    (order : Order) : Run σ :=
  match ManifestFile.load tree config with
  | .error refusal => .fail output tree (.refused refusal)
  | .ok file =>
    match file.manifest.fulfilOn host.machine host.disk order tree with
    | (.error fault, after) => .fail output after (.unfulfilled fault)
    | (.ok generation, after) =>
      if generation.written.isSome then .report writer output after generation.lines
      else
        match writer.deliver output generation.code with
        | (.error fault, output) => .fail output after (.undelivered fault)
        | (.ok (), output) => .report writer output after generation.lines

def runCheck (writer : Writer σ) (output : σ) (tree : FileTree) (config : String) : Run σ :=
  match ManifestFile.load tree config with
  | .error refusal => .fail output tree (.refused refusal)
  | .ok file => .report writer output tree (file.manifest.summarize file.path).lines

/-- **Run a request on a host.** -/
def Request.runOn (host : Host) (writer : Writer σ) (output : σ) (tree : FileTree) :
    Request → Run σ
  | .render config order => runRender host writer output tree config order
  | .check config => runCheck writer output tree config
  | .completions shell => .tell writer output tree true (host.manual.script shell)
  | .help topic => .tell writer output tree false (host.manual.guide topic)
  | .version => .tell writer output tree false versionText

/-- **Run a request** where there are no bounds. -/
def Request.run (writer : Writer σ) (output : σ) (tree : FileTree) (request : Request) : Run σ :=
  request.runOn {} writer output tree

/-- **Run what some arguments ask for.** -/
def run (host : Host) (writer : Writer σ) (output : σ) (tree : FileTree)
    (arguments : List String) : Run σ :=
  match Request.ofArguments arguments with
  | .ok request => request.runOn host writer output tree
  | .error fault => .fail output tree (.misused fault)

end CodeBlocks.CommandLine
