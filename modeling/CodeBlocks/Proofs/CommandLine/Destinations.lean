/-
**Where rendered code goes.**

Code goes to standard output or into a file, and a report follows.  The two ways part only after the
code is there, so both runs have the same code, and what keeps the one from having any keeps the
other.  Up to then nothing is written anywhere.

That holds on any host.  If a file cannot be opened, nothing changes; but a disk that falls short of
the content leaves the file with the first bytes of it, whatever the file held before.

Main definitions:

* `CodeBlocks.CommandLine.printed` — what a report writes to standard output;
* `CodeBlocks.CommandLine.Run.LeavesNoTrace` — a run without any effect but its ending;
* `CodeBlocks.CommandLine.Run.Shows`, `CodeBlocks.CommandLine.Run.Files` — code on standard output,
  and code in a file;
* `CodeBlocks.CommandLine.Run.FailsToWrite` — what a run leaves behind whose file was not written.

Main results:

* `CodeBlocks.Manifest.fulfilOn_of_write`, `CodeBlocks.Manifest.fulfilOn_of_unwritten` — an order
  for a file comes to one write;
* `CodeBlocks.CommandLine.showLines_of_steady` — a report on a steady standard output goes through;
* `CodeBlocks.CommandLine.render_same_code` — **both destinations get the same code, and failures
  leave no trace**;
* `CodeBlocks.CommandLine.render_toFullDisk` — a run that tears its file.
-/
import CodeBlocks.CommandLine.Session
import CodeBlocks.Proofs.Delivery.Steadiness
import CodeBlocks.Proofs.FileTree.Runs
import CodeBlocks.Proofs.Generation.Selection

set_option relaxedAutoImplicit false
set_option autoImplicit false

namespace CodeBlocks

/-! ### Orders -/

namespace Manifest

variable {manifest : Manifest} {order : Order} {generation : Generation} {tree after : FileTree}

/-- Where every name has a block that fits something is generated. -/
theorem exists_generateOn_of_known {machine : Machine} {names : List String} (level : Option Nat)
    (known : ∀ name ∈ names, name ∈ manifest.blockNames)
    (fits : manifest.FitsOn machine (manifest.levelFor level) (manifest.selection names)) :
    ∃ generation, manifest.generateOn machine names level = .ok generation ∧
      generation.written = none := by
  have chosen : ∀ name ∈ manifest.selection names, name ∈ manifest.blockNames := by
    unfold selection
    split
    · exact fun name member => member
    · exact known
  exact ⟨_, generateOn_of_known level rfl chosen fits, rfl⟩

/-- What is generated is not written yet. -/
theorem written_of_generateOn {machine : Machine} {names : List String} {level : Option Nat}
    (came : manifest.generateOn machine names level = .ok generation) :
    generation.written = none := by
  unfold generateOn at came
  dsimp only [bind, Except.bind] at came
  split at came
  case h_1 => cases came
  case h_2 =>
    split at came
    case h_1 => cases came
    case h_2 =>
      obtain rfl := Except.ok.inj came
      rfl

section Fulfilment

variable {machine : Machine} {disk : Disk} {target : OutputFile}

/-- An order that nothing comes of changes no tree. -/
theorem fulfilOn_of_fault {fault : GenerationFault}
    (failed : manifest.generateOn machine order.blocks order.level = .error fault) :
    manifest.fulfilOn machine disk order tree = (.error fault, tree) := by
  unfold fulfilOn
  rw [failed]

/-- **An order whose file is written, or gives way**, is fulfilled, with what became of the file. -/
theorem fulfilOn_of_write {result : WriteResult}
    (came : manifest.generateOn machine order.blocks order.level = .ok generation)
    (asked : order.file? generation.code = some target)
    (wrote : target.writeOn disk tree = (.ok result, after)) :
    manifest.fulfilOn machine disk order tree =
      (.ok { generation with written := some (target.path, result) }, after) := by
  unfold fulfilOn
  rw [came]
  dsimp only
  rw [asked]
  dsimp only
  rw [wrote]

/-- An order whose file cannot be written is not fulfilled. -/
theorem fulfilOn_of_unwritten {fault : IoFault}
    (came : manifest.generateOn machine order.blocks order.level = .ok generation)
    (asked : order.file? generation.code = some target)
    (failed : target.writeOn disk tree = (.error fault, after)) :
    manifest.fulfilOn machine disk order tree = (.error (.unwritable fault), after) := by
  unfold fulfilOn
  rw [came]
  dsimp only
  rw [asked]
  dsimp only
  rw [failed]

end Fulfilment

end Manifest

namespace CommandLine

open Writer (bytesOf IsSteady)

variable {σ : Type} {writer : Writer σ} {taken : σ → List UInt8}

/-! ### Reports -/

/-- **What a report writes to standard output**: its lines but for the warnings. -/
def printed (lines : List ReportLine) : List UInt8 :=
  (lines.filter fun line => !line.isWarning).flatMap fun line => bytesOf (line.text ++ "\n")

/-- **A report on a steady standard output goes through.** -/
theorem showLines_of_steady (steady : writer.IsSteady taken) (lines : List ReportLine)
    (output : σ) (errors : String) :
    ∃ next told, showLines writer output errors lines = (.success, next, told) ∧
      taken next = taken output ++ printed lines := by
  induction lines generalizing output errors with
  | nil => exact ⟨output, errors, rfl, (List.append_nil _).symm⟩
  | cons line lines ih =>
      cases warns : line.isWarning with
      | true =>
          obtain ⟨next, told, shown, arrived⟩ := ih output (errors ++ line.text ++ "\n")
          refine ⟨next, told, ?_, ?_⟩
          · rw [showLines, if_pos warns, shown]
          · rw [arrived]
            simp [printed, warns]
      | false =>
          obtain ⟨here, wrote, first⟩ := steady.writeAll output (bytesOf (line.text ++ "\n"))
          have put : writer.putLine output line.text = (.ok (), here) := wrote
          obtain ⟨next, told, shown, arrived⟩ := ih here errors
          refine ⟨next, told, ?_, ?_⟩
          · rw [showLines, warns, put]
            exact shown
          · rw [arrived, first]
            simp [printed, warns]

/-- A run that ends with a report on a steady standard output. -/
theorem report_of_steady (steady : writer.IsSteady taken) (lines : List ReportLine) (output : σ)
    (tree : FileTree) :
    (Run.report writer output tree lines).ending = .success ∧
      taken (Run.report writer output tree lines).output = taken output ++ printed lines ∧
      (Run.report writer output tree lines).tree = tree := by
  obtain ⟨next, told, shown, arrived⟩ := showLines_of_steady steady lines output ""
  unfold Run.report
  rw [shown]
  exact ⟨rfl, arrived, rfl⟩

/-! ### Runs -/

/-- **A run that leaves no trace** but its ending: nothing is written to standard output, and no
file or directory is made or changed. -/
structure Run.LeavesNoTrace (run : Run σ) (ending : Ending) (output : σ) (tree : FileTree) :
    Prop where
  ended : run.ending = ending
  output : run.output = output
  tree : run.tree = tree

/-- **A run that shows code**: exactly that is written to standard output. -/
structure Run.Shows (run : Run σ) (taken : σ → List UInt8) (output : σ) (tree : FileTree)
    (code : String) : Prop where
  succeeded : run.ending = .success
  output : taken run.output = taken output ++ bytesOf code
  tree : run.tree = tree

/-- **A run that puts code into a file**, with lines of a report on standard output. -/
structure Run.Files (run : Run σ) (taken : σ → List UInt8) (output : σ) (path : String)
    (generation : Generation) : Prop where
  succeeded : run.ending = .success
  held : run.tree.find (.ofText path) = .ok (.file generation.code.toUTF8)
  output : taken run.output =
    taken output ++ printed { generation with written := some (path, .written) }.lines

/-- **A run that could not write its file**: nothing is written to standard output, and no file
changes and none is new, unless the disk took only a part of the file. -/
structure Run.FailsToWrite (run : Run σ) (disk : Disk) (output : σ) (tree : FileTree)
    (file : OutputFile) : Prop where
  failed : run.ending = .failure
  output : run.output = output
  files : (∀ location content, run.tree.entry location = some (.file content) ↔
      tree.entry location = some (.file content)) ∨
    ∃ short, disk.shortfall? file.place file.content.toUTF8 = some short ∧
      file.IsTorn short.count tree run.tree

variable {host : Host} {config path : String} {order : Order} {output : σ} {tree after : FileTree}
  {file : ManifestFile} {generation : Generation}

/-- A run with a refused manifest ends there. -/
theorem runOn_render_of_refused {refusal : Refusal}
    (refused : ManifestFile.load tree config = .error refusal) :
    (Request.render config order).runOn host writer output tree =
      .fail output tree (.refused refusal) := by
  unfold Request.runOn
  dsimp only
  unfold runRender
  rw [refused]

/-- **A run with a manifest** depends on what comes of the order. -/
theorem runOn_render_of_loaded (loaded : ManifestFile.load tree config = .ok file) :
    (Request.render config order).runOn host writer output tree =
      match file.manifest.fulfilOn host.machine host.disk order tree with
      | (.error fault, after) => .fail output after (.unfulfilled fault)
      | (.ok generation, after) =>
        if generation.written.isSome then .report writer output after generation.lines
        else
          match writer.deliver output generation.code with
          | (.error fault, output) => .fail output after (.undelivered fault)
          | (.ok (), output) => .report writer output after generation.lines := by
  unfold Request.runOn
  dsimp only
  unfold runRender
  split
  case h_1 refusal refused =>
    rw [loaded] at refused
    cases refused
  case h_2 found same =>
    rw [loaded] at same
    obtain rfl := Except.ok.inj same
    rfl

/-- A refused manifest leaves no trace. -/
theorem render_of_refused {refusal : Refusal}
    (refused : ManifestFile.load tree config = .error refusal) :
    ((Request.render config order).runOn host writer output tree).LeavesNoTrace .failure output
      tree := by
  rw [runOn_render_of_refused refused]
  exact ⟨rfl, rfl, rfl⟩

/-- Nor does an order that nothing comes of. -/
theorem render_of_fault {fault : GenerationFault}
    (loaded : ManifestFile.load tree config = .ok file)
    (failed : file.manifest.generateOn host.machine order.blocks order.level = .error fault) :
    ((Request.render config order).runOn host writer output tree).LeavesNoTrace
      (RunFault.unfulfilled fault).ending output tree := by
  rw [runOn_render_of_loaded loaded, Manifest.fulfilOn_of_fault failed]
  exact ⟨rfl, rfl, rfl⟩

/-- Nor does an order for a name without a block. -/
theorem render_of_unknown (loaded : ManifestFile.load tree config = .ok file)
    (unknown : ∃ name ∈ order.blocks, name ∉ file.manifest.blockNames) :
    ((Request.render config order).runOn host writer output tree).LeavesNoTrace .failure output
      tree :=
  render_of_fault loaded (Manifest.generateOn_of_unknown host.machine order.level unknown)

/-- **Without a file, exactly the code is shown.** -/
theorem render_shows (steady : writer.IsSteady taken)
    (loaded : ManifestFile.load tree config = .ok file)
    (came : file.manifest.generateOn host.machine order.blocks order.level = .ok generation)
    (unwritten : generation.written = none) (none : order.output = none) :
    ((Request.render config order).runOn host writer output tree).Shows taken output tree
      generation.code := by
  obtain ⟨next, delivered, arrived⟩ := steady.deliver output generation.code
  have lines : generation.lines = [] := by
    unfold Generation.lines
    rw [unwritten]
  rw [runOn_render_of_loaded loaded, Manifest.fulfilOn_of_no_output none, came]
  dsimp only
  rw [unwritten, delivered, lines]
  exact ⟨rfl, arrived, rfl⟩

/-- **With a file, it holds the code** and standard output has the report, if it can be written. -/
theorem render_files (steady : writer.IsSteady taken)
    (loaded : ManifestFile.load tree config = .ok file)
    (fulfilled : file.manifest.fulfilOn host.machine host.disk order tree =
      (.ok { generation with written := some (path, .written) }, after))
    (held : after.find (.ofText path) = .ok (.file generation.code.toUTF8)) :
    ((Request.render config order).runOn host writer output tree).Files taken output path
      generation := by
  have report := report_of_steady steady
    { generation with written := some (path, .written) }.lines output after
  rw [runOn_render_of_loaded loaded, fulfilled]
  dsimp only [Option.isSome]
  rw [if_pos rfl]
  obtain ⟨succeeded, arrived, same⟩ := report
  exact ⟨succeeded, by rw [same]; exact held, arrived⟩

/-- With a file that cannot be written nothing is shown. -/
theorem render_failsToWrite {target : OutputFile} {fault : IoFault}
    (loaded : ManifestFile.load tree config = .ok file)
    (came : file.manifest.generateOn host.machine order.blocks order.level = .ok generation)
    (asked : order.file? generation.code = some target)
    (failed : target.writeOn host.disk tree = (.error fault, after)) :
    ((Request.render config order).runOn host writer output tree).FailsToWrite host.disk output tree
      target := by
  rw [runOn_render_of_loaded loaded, Manifest.fulfilOn_of_unwritten came asked failed]
  exact ⟨rfl, rfl, OutputFile.writeOn_of_error failed⟩

/-- **A run that is to put its code into a file** does so, or it could not write the file. -/
theorem render_filed (steady : writer.IsSteady taken) {blocks : List String} {level : Option Nat}
    (loaded : ManifestFile.load tree config = .ok file)
    (came : file.manifest.generateOn host.machine blocks level = .ok generation) :
    let filed := (Request.render config { blocks, level, output := some path }).runOn
      host writer output tree
    let target : OutputFile := ⟨path, generation.code, .always⟩
    match (target.writeOn host.disk tree).1 with
    | .ok _ => filed.Files taken output path generation
    | .error _ => filed.FailsToWrite host.disk output tree target := by
  intro filed target
  cases wrote : target.writeOn host.disk tree with
  | mk result after =>
      cases result with
      | error fault => exact render_failsToWrite loaded came rfl wrote
      | ok result =>
          obtain ⟨rfl, held⟩ := OutputFile.writeOn_of_ok rfl wrote
          exact render_files steady loaded (Manifest.fulfilOn_of_write came rfl wrote) held

/-- **Both destinations get the same code, and failures leave no trace.**  A run without a file and
one with a file, which may replace what is there, are compared on any host and on a standard output
that does not fail.  Where the manifest is refused or a name has no block, neither run leaves a
trace.  Else there is code, unless the machine does not go far enough for it, and then again
neither run leaves a trace.  The one run shows exactly that code, and the other one puts exactly
that into the file, unless the file cannot be written. -/
theorem render_same_code (host : Host) (steady : writer.IsSteady taken) (output : σ)
    (tree : FileTree) (config path : String) (blocks : List String) (level : Option Nat) :
    let plain := (Request.render config { blocks, level }).runOn host writer output tree
    let filed := (Request.render config { blocks, level, output := some path }).runOn
      host writer output tree
    match ManifestFile.load tree config with
    | .error _ =>
      plain.LeavesNoTrace .failure output tree ∧ filed.LeavesNoTrace .failure output tree
    | .ok file =>
      ((∃ name ∈ blocks, name ∉ file.manifest.blockNames) →
        plain.LeavesNoTrace .failure output tree ∧ filed.LeavesNoTrace .failure output tree) ∧
      ((∀ name ∈ blocks, name ∈ file.manifest.blockNames) →
        (file.manifest.FitsOn host.machine (file.manifest.levelFor level)
            (file.manifest.selection blocks) →
          ∃ generation,
            file.manifest.fulfilOn host.machine host.disk { blocks, level } tree =
              (.ok generation, tree)) ∧
        match (file.manifest.fulfilOn host.machine host.disk { blocks, level } tree).1 with
        | .error _ => ∃ ending, ending ≠ .success ∧ plain.LeavesNoTrace ending output tree ∧
            filed.LeavesNoTrace ending output tree
        | .ok generation => plain.Shows taken output tree generation.code ∧
            match ((OutputFile.mk path generation.code .always).writeOn host.disk tree).1 with
            | .ok _ => filed.Files taken output path generation
            | .error _ => filed.FailsToWrite host.disk output tree
                (OutputFile.mk path generation.code .always)) := by
  intro plain filed
  cases loaded : ManifestFile.load tree config with
  | error refusal => exact ⟨render_of_refused loaded, render_of_refused loaded⟩
  | ok file =>
      refine ⟨?_, ?_⟩
      · intro unknown
        exact ⟨render_of_unknown loaded unknown, render_of_unknown loaded unknown⟩
      · intro known
        have fulfilled : file.manifest.fulfilOn host.machine host.disk { blocks, level } tree =
            (file.manifest.generateOn host.machine blocks level, tree) :=
          Manifest.fulfilOn_of_no_output rfl
        rw [fulfilled]
        refine ⟨?_, ?_⟩
        · intro fits
          obtain ⟨generation, came, _⟩ := Manifest.exists_generateOn_of_known level known fits
          exact ⟨generation, by rw [came]⟩
        · dsimp only
          cases came : file.manifest.generateOn host.machine blocks level with
          | error fault =>
              exact ⟨_, RunFault.ending_ne_success _, render_of_fault loaded came,
                render_of_fault loaded came⟩
          | ok generation =>
              have unwritten := Manifest.written_of_generateOn came
              exact ⟨render_shows steady loaded came unwritten rfl, render_filed steady loaded came⟩

/-- The tree with one manifest, whose block has a line of code. -/
def oneManifest : FileTree :=
  FileTree.empty.set ["stanza.toml"]
    (.file "[blocks.greet]\nnodes = [\x7b statement = \"hi\" \x7d]\n".toUTF8)

/-- The line is shown, or it is in the file, and then the report is shown. -/
theorem render_oneManifest :
    let order : Order := { blocks := ["greet"] }
    let plain := (Request.render "stanza.toml" order).runOn .usual Writer.collecting .empty
      oneManifest
    let filed := (Request.render "stanza.toml" { order with output := some "out/code.rs" }).runOn
      .usual Writer.collecting .empty oneManifest
    (plain.ending = .success ∧ plain.output.data.toList = bytesOf "hi\n") ∧
      filed.ending = .success ∧
      filed.tree.find (.ofText "out/code.rs") = .ok (.file "hi\n".toUTF8) ∧
      filed.output.data.toList =
        bytesOf "✓ wrote 1 block to out/code.rs\n    - greet (1 nodes)\n" := by
  intro order plain filed
  have same := render_same_code .usual Writer.isSteady_collecting .empty oneManifest "stanza.toml"
    "out/code.rs" ["greet"] none
  have read : (ManifestFile.load oneManifest "stanza.toml").toOption.map (fun file =>
      (file.manifest.blockNames,
        (file.manifest.fulfilOn Host.usual.machine Host.usual.disk order oneManifest).1.toOption,
        decide (file.manifest.FitsOn Host.usual.machine (file.manifest.levelFor none)
          (file.manifest.selection ["greet"])))) =
      some (["greet"], some ⟨[("greet", 1)], "hi\n", none⟩, true) := by decide +kernel
  have wrote : ((OutputFile.mk "out/code.rs" "hi\n" .always).writeOn Host.usual.disk
      oneManifest).1 = .ok .written := by decide +kernel
  have told : printed (Generation.lines
      ⟨[("greet", 1)], "hi\n", some ("out/code.rs", .written)⟩) =
      bytesOf "✓ wrote 1 block to out/code.rs\n    - greet (1 nodes)\n" := by decide +kernel
  obtain ⟨file, loaded, facts⟩ := Option.map_eq_some_iff.1 read
  obtain ⟨names, facts⟩ := Prod.mk.inj facts
  obtain ⟨came, fits⟩ := Prod.mk.inj facts
  rw [eq_ok_of_toOption loaded] at same
  have known : ∀ name ∈ ["greet"], name ∈ file.manifest.blockNames := by
    rw [names]
    exact fun name member => member
  obtain ⟨reached, ends⟩ := same.2 known
  obtain ⟨generation, fulfilled⟩ := reached (of_decide_eq_true fits)
  have expected : (file.manifest.fulfilOn Host.usual.machine Host.usual.disk order
      oneManifest).1.toOption = some ⟨[("greet", 1)], "hi\n", none⟩ := came
  rw [fulfilled] at expected ends
  obtain rfl := Option.some.inj expected
  obtain ⟨shows, files⟩ := ends
  rw [wrote] at files
  exact ⟨⟨shows.succeeded, shows.output⟩, files.succeeded, files.held, files.output.trans told⟩

/-- A tree with a manifest, and with a file that is to be replaced. -/
def staleOutput : FileTree := oneManifest.set ["code.rs"] (.file "old".toUTF8)

/-- **A run that tears its file.**  The file held something, the disk took nothing of the code, and
then the file is empty. -/
theorem render_toFullDisk :
    let filed := (Request.render "stanza.toml" { output := some "code.rs" }).runOn
      { disk := .full } Writer.collecting .empty staleOutput
    (staleOutput.readText (.ofText "code.rs")).toOption = some "old" ∧
      filed.ending = .failure ∧ filed.output.data.toList = [] ∧
      (filed.tree.readText (.ofText "code.rs")).toOption = some "" := by
  decide +kernel

end CommandLine

end CodeBlocks
