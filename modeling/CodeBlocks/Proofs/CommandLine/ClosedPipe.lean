/-
**Standard output that nobody reads any more.**

Two things write to standard output in one run: the code is delivered there, and reports are shown
there line by line.  A delivery forgives a broken pipe and a report does not.  So a run that shows
its code ends well wherever the pipe breaks, and so does one whose file gives way, because its
report is a warning and goes elsewhere.  But a run that puts its code into a file ends well only as
long as all lines of its report arrive; otherwise it is aborted, with the file written.

Main results:

* `CodeBlocks.CommandLine.showLines_of_pipe` — **what becomes of a report on a pipe**;
* `CodeBlocks.CommandLine.render_on_pipe` — **when a run with a broken pipe ends well**;
* `CodeBlocks.CommandLine.render_readUpTo_iff`, `CodeBlocks.CommandLine.render_unread_aborted` — how
  much of a report has to be read, and what becomes of a run of which nothing is read;
* `CodeBlocks.CommandLine.render_to_brokenPipe` — a run that is aborted.
-/
import CodeBlocks.Proofs.CommandLine.Destinations
import CodeBlocks.Proofs.Delivery.Pipes
import CodeBlocks.Proofs.Outcome

set_option relaxedAutoImplicit false
set_option autoImplicit false

namespace CodeBlocks

namespace CommandLine

open Writer (bytesOf IsPipe Passes)

variable {σ : Type} {writer : Writer σ} {taken : σ → List UInt8}

/-! ### Reports -/

section Lines

variable {line : ReportLine} {lines : List ReportLine} {output : σ} {errors : String}

theorem printed_of_warning (warns : line.isWarning) : printed (line :: lines) = printed lines := by
  simp [printed, warns]

theorem printed_of_line (tells : line.isWarning = false) :
    printed (line :: lines) = bytesOf (line.text ++ "\n") ++ printed lines := by
  simp [printed, tells]

/-- Each line of a report that is no warning is at least a line end. -/
theorem length_printed_pos (member : line ∈ lines) (tells : line.isWarning = false) :
    0 < (printed lines).length := by
  have kept : line ∈ lines.filter fun line => !line.isWarning :=
    List.mem_filter.2 ⟨member, by rw [tells]; rfl⟩
  have size : 0 < (bytesOf (line.text ++ "\n")).length := by
    rw [Writer.length_bytesOf, String.utf8ByteSize_append]
    exact Nat.lt_add_left _ (by decide)
  obtain ⟨byte, some⟩ := List.exists_mem_of_length_pos size
  exact List.length_pos_of_mem (List.mem_flatMap.2 ⟨line, kept, some⟩)

theorem showLines_of_warning (warns : line.isWarning) :
    showLines writer output errors (line :: lines) =
      showLines writer output (errors ++ line.text ++ "\n") lines := by
  rw [showLines, if_pos warns]

/-- A line that is written is followed by the others. -/
theorem showLines_of_put (tells : line.isWarning = false)
    (put : (writer.putLine output line.text).1 = .ok ()) :
    showLines writer output errors (line :: lines) =
      showLines writer (writer.putLine output line.text).2 errors lines := by
  rw [showLines, tells]
  split
  case isTrue warns => cases warns
  case isFalse =>
    split
    case h_1 next wrote => rw [wrote]
    case h_2 fault next wrote =>
      rw [wrote] at put
      cases put

/-- **A line that cannot be written aborts the run.** -/
theorem showLines_of_stuck {fault : IoFault} (tells : line.isWarning = false)
    (stuck : (writer.putLine output line.text).1 = .error fault) :
    showLines writer output errors (line :: lines) =
      (.aborted, (writer.putLine output line.text).2, errors) := by
  rw [showLines, tells]
  split
  case isTrue warns => cases warns
  case isFalse =>
    split
    case h_1 next wrote =>
      rw [wrote] at stuck
      cases stuck
    case h_2 other next wrote => rw [wrote]

end Lines

/-- **What becomes of a report on a pipe**: the first of its bytes arrive, and all of them exactly
if it is shown to its end; otherwise the run is aborted. -/
theorem showLines_of_pipe (pipe : writer.IsPipe taken) (lines : List ReportLine) (output : σ)
    (errors : String) :
    ((showLines writer output errors lines).1 = .success ∨
        (showLines writer output errors lines).1 = .aborted) ∧
      Passes taken output (printed lines) (showLines writer output errors lines).2.1
        ((showLines writer output errors lines).1 = .success) := by
  induction lines generalizing output errors with
  | nil => exact ⟨Or.inl rfl, .nil rfl rfl⟩
  | cons line lines ih =>
      cases tells : line.isWarning with
      | true =>
          rw [showLines_of_warning tells, printed_of_warning tells]
          exact ih output (errors ++ line.text ++ "\n")
      | false =>
          obtain ⟨through | broken, passes⟩ := pipe.putLine output line.text
          · -- The line arrives as a whole, and the lines behind it follow.
            obtain ⟨ends, others⟩ := ih (writer.putLine output line.text).2 errors
            rw [showLines_of_put tells through, printed_of_line tells]
            exact ⟨ends, .append (passes.through_iff.1 through) others⟩
          · -- Some of the line is left over, and the lines behind it are never tried.
            rw [showLines_of_stuck tells broken, printed_of_line tells]
            refine ⟨Or.inr rfl, passes.append_of_not ?_ (by simp)⟩
            rw [broken]
            simp

/-- **A report is shown to its end exactly if all of it is read.** -/
theorem showLines_eq_success_iff {limit : Nat} (reads : writer.IsReadUpTo taken limit)
    (lines : List ReportLine) (output : σ) (errors : String)
    (within : (taken output).length ≤ limit) :
    (showLines writer output errors lines).1 = .success ↔
      (taken output).length + (printed lines).length ≤ limit := by
  induction lines generalizing output errors with
  | nil => exact iff_of_true rfl within
  | cons line lines ih =>
      cases tells : line.isWarning with
      | true =>
          rw [showLines_of_warning tells, printed_of_warning tells]
          exact ih output (errors ++ line.text ++ "\n") within
      | false =>
          have fits := reads.putLine_eq_ok_iff output line.text within
          obtain ⟨ends, passes⟩ := reads.putLine output line.text
          rw [printed_of_line tells, List.length_append]
          rcases ends with through | broken
          · have arrived := passes.through_iff.1 through
            have here := fits.1 through
            rw [showLines_of_put tells through, ih _ errors, arrived, List.length_append,
              Nat.add_assoc]
            rwa [arrived, List.length_append]
          · have beyond := mt fits.2 (by simp [broken])
            rw [showLines_of_stuck tells broken]
            refine iff_of_false (by simp) ?_
            omega

/-- A run that ends with a report on a pipe. -/
theorem report_of_pipe (pipe : writer.IsPipe taken) (lines : List ReportLine) (output : σ)
    (tree : FileTree) :
    ((Run.report writer output tree lines).ending = .success ∨
        (Run.report writer output tree lines).ending = .aborted) ∧
      ((Run.report writer output tree lines).ending = .success ↔
        taken (Run.report writer output tree lines).output = taken output ++ printed lines) ∧
      (Run.report writer output tree lines).tree = tree := by
  obtain ⟨ends, passes⟩ := showLines_of_pipe pipe lines output ""
  exact ⟨ends, passes.through_iff, rfl⟩

/-- A report that prints nothing is shown whatever becomes of the pipe. -/
theorem report_of_unprinted (pipe : writer.IsPipe taken) {lines : List ReportLine}
    (nothing : printed lines = []) (output : σ) (tree : FileTree) :
    (Run.report writer output tree lines).ending = .success := by
  have passes := (showLines_of_pipe pipe lines output "").2
  rw [nothing] at passes
  exact passes.through_of_nil

/-- A run that ends with a report which is read up to a byte. -/
theorem report_eq_success_iff {limit : Nat} (reads : writer.IsReadUpTo taken limit)
    (lines : List ReportLine) (output : σ) (tree : FileTree)
    (within : (taken output).length ≤ limit) :
    (Run.report writer output tree lines).ending = .success ↔
      (taken output).length + (printed lines).length ≤ limit :=
  showLines_eq_success_iff reads lines output "" within

/-! ### Runs -/

variable {config : String} {order : Order} {output : σ} {tree : FileTree} {file : ManifestFile}
  {generation : Generation}

/-- Where no file is asked for, the run ends well. -/
theorem render_shown_on_pipe (pipe : writer.IsPipe taken)
    (loaded : ManifestFile.load tree config = .ok file)
    (came : file.manifest.generate order.blocks order.level = .ok generation)
    (unwritten : generation.written = none) (none : order.output = none) :
    ((Request.render config order).run writer output tree).ending = .success := by
  have delivered := pipe.deliver output generation.code
  rw [Manifest.generate] at came
  rw [Request.run, runOn_render_of_loaded loaded, Manifest.fulfilOn_of_no_output none, came]
  dsimp only
  rw [unwritten]
  cases outcome : writer.deliver output generation.code with
  | mk result next =>
      rw [outcome] at delivered
      obtain rfl : result = .ok () := delivered
      refine report_of_unprinted pipe ?_ next tree
      rw [Generation.lines, unwritten]
      rfl

/-- **A run that puts code into a file** ends with the report on it. -/
theorem run_render_of_write {target : OutputFile} {result : WriteResult} {after : FileTree}
    (loaded : ManifestFile.load tree config = .ok file)
    (came : file.manifest.generate order.blocks order.level = .ok generation)
    (asked : order.file? generation.code = some target)
    (wrote : target.write tree = (.ok result, after)) :
    (Request.render config order).run writer output tree =
      .report writer output after
        { generation with written := some (target.path, result) }.lines := by
  rw [Request.run, runOn_render_of_loaded loaded, Manifest.fulfilOn_of_write came asked wrote]
  rfl

/-- A run that could not write its file fails. -/
theorem run_render_of_unwritten {target : OutputFile} {fault : IoFault} {after : FileTree}
    (loaded : ManifestFile.load tree config = .ok file)
    (came : file.manifest.generate order.blocks order.level = .ok generation)
    (asked : order.file? generation.code = some target)
    (failed : target.write tree = (.error fault, after)) :
    (Request.render config order).run writer output tree =
      .fail output after (.unfulfilled (.unwritable fault)) := by
  rw [Request.run, runOn_render_of_loaded loaded, Manifest.fulfilOn_of_unwritten came asked failed]

/-- **A run that puts code into a file ends well exactly if its whole report is read.** -/
theorem render_readUpTo_iff {limit : Nat} (reads : writer.IsReadUpTo taken limit)
    (within : (taken output).length ≤ limit) {target : OutputFile} {after : FileTree}
    (loaded : ManifestFile.load tree config = .ok file)
    (came : file.manifest.generate order.blocks order.level = .ok generation)
    (asked : order.file? generation.code = some target)
    (wrote : target.write tree = (.ok .written, after)) :
    ((Request.render config order).run writer output tree).ending = .success ↔
      (taken output).length +
        (printed { generation with written := some (target.path, .written) }.lines).length ≤
          limit := by
  rw [run_render_of_write loaded came asked wrote]
  exact report_eq_success_iff reads _ output after within

/-- **Where nobody reads any more, no run that writes its file ends well**: the report on a written
file has at least one line. -/
theorem render_unread_aborted (reads : writer.IsReadUpTo taken (taken output).length)
    {target : OutputFile} {after : FileTree}
    (loaded : ManifestFile.load tree config = .ok file)
    (came : file.manifest.generate order.blocks order.level = .ok generation)
    (asked : order.file? generation.code = some target)
    (wrote : target.write tree = (.ok .written, after)) :
    ((Request.render config order).run writer output tree).ending = .aborted := by
  have unread := mt (render_readUpTo_iff reads (Nat.le_refl _) loaded came asked wrote).1
  rw [run_render_of_write loaded came asked wrote] at unread ⊢
  refine (report_of_pipe reads.toIsPipe _ output after).1.resolve_left (unread ?_)
  have told : 0 < (printed
      { generation with written := some (target.path, .written) }.lines).length :=
    length_printed_pos (List.mem_cons_self ..) rfl
  omega

/-- **When a run ends well whose standard output is a pipe.**  Where the manifest is accepted and
every name has a block there is code.  If no file is asked for, or if the file gives way to one
that is there, the run ends well wherever the pipe breaks.  If the file is written, the run ends
well exactly if the whole report arrives, and otherwise it is aborted; the file is there in both
cases.  If the file cannot be written, the run fails. -/
theorem render_on_pipe (pipe : writer.IsPipe taken) (output : σ)
    (loaded : ManifestFile.load tree config = .ok file)
    (known : ∀ name ∈ order.blocks, name ∈ file.manifest.blockNames) :
    let run := (Request.render config order).run writer output tree
    ∃ generation, file.manifest.generate order.blocks order.level = .ok generation ∧
      match order.file? generation.code with
      | none => run.ending = .success
      | some target =>
        match (target.write tree).1 with
        | .ok .skipped => run.ending = .success
        | .ok .written =>
          (run.ending = .success ∨ run.ending = .aborted) ∧
            (run.ending = .success ↔ taken run.output = taken output ++
              printed { generation with written := some (target.path, .written) }.lines) ∧
            run.tree = (target.write tree).2
        | .error _ => run.ending = .failure := by
  intro run
  obtain ⟨generation, came, unwritten⟩ := Manifest.exists_generateOn_of_known order.level known
    (file.manifest.fitsOn_unbounded _ _)
  refine ⟨generation, came, ?_⟩
  cases asked : order.file? generation.code with
  | none => exact render_shown_on_pipe pipe loaded came unwritten (Option.map_eq_none_iff.1 asked)
  | some target =>
      dsimp only
      cases wrote : target.write tree with
      | mk result after =>
          cases result with
          | error fault =>
              have failed : run = _ := run_render_of_unwritten loaded came asked wrote
              rw [failed]
              rfl
          | ok result =>
              have reported : run = _ := run_render_of_write loaded came asked wrote
              rw [reported]
              cases result with
              | skipped => exact report_of_unprinted pipe rfl output after
              | written => exact report_of_pipe pipe _ output after

/-! ### A report that is not read to its end -/

def greetingOrder : Order := { blocks := ["greet"], output := some "out/code.rs" }

/-- What comes of that order when the file is written. -/
def greeted : Generation := ⟨[("greet", 1)], "hi\n", some ("out/code.rs", .written)⟩

/-- The run of that order with a pipe that is read up to some byte. -/
def greeting (limit : Nat) : Run WriterScript.Progress :=
  (Request.render "stanza.toml" greetingOrder).run (WriterScript.readUpTo limit).writer {} oneManifest

/-- The block is known, there is code, and the file is written. -/
theorem oneManifest_greets :
    ∃ file, ManifestFile.load oneManifest "stanza.toml" = .ok file ∧
      (∀ name ∈ greetingOrder.blocks, name ∈ file.manifest.blockNames) ∧
      file.manifest.generate greetingOrder.blocks greetingOrder.level =
        .ok ⟨[("greet", 1)], "hi\n", none⟩ ∧
      ((OutputFile.mk "out/code.rs" "hi\n" .always).write oneManifest).1 = .ok .written := by
  have read : (ManifestFile.load oneManifest "stanza.toml").toOption.map (fun file =>
      (file.manifest.blockNames, (file.manifest.generate ["greet"] none).toOption)) =
        some (["greet"], some ⟨[("greet", 1)], "hi\n", none⟩) := by decide +kernel
  have wrote : ((OutputFile.mk "out/code.rs" "hi\n" .always).write oneManifest).1 =
      .ok .written := by decide +kernel
  obtain ⟨file, loaded, both⟩ := Option.map_eq_some_iff.1 read
  obtain ⟨names, came⟩ := Prod.mk.inj both
  refine ⟨file, eq_ok_of_toOption loaded, ?_, eq_ok_of_toOption came, wrote⟩
  rw [names]
  exact fun name member => member

theorem printed_greeted :
    printed greeted.lines = bytesOf "✓ wrote 1 block to out/code.rs\n    - greet (1 nodes)\n" := by
  decide +kernel

/-- The report of that run has 55 bytes. -/
theorem greeting_success_iff (limit : Nat) : (greeting limit).ending = .success ↔ 55 ≤ limit := by
  obtain ⟨file, loaded, _, came, wrote⟩ := oneManifest_greets
  have asked : greetingOrder.file? "hi\n" = some ⟨"out/code.rs", "hi\n", .always⟩ := rfl
  have within : (({} : WriterScript.Progress).taken.data.toList).length ≤ limit := Nat.zero_le limit
  have size : (printed greeted.lines).length = 55 := by decide +kernel
  have ends := render_readUpTo_iff (WriterScript.isReadUpTo_readUpTo limit) within loaded came asked
    (Prod.ext wrote rfl)
  change _ ↔ 0 + (printed greeted.lines).length ≤ limit at ends
  rwa [size, Nat.zero_add] at ends

/-- **A run that is aborted because nobody reads its report.**  The manifest is accepted, the block
is there, and the file is written. -/
theorem render_to_brokenPipe :
    (WriterScript.readUpTo 0).writer.IsPipe (fun progress => progress.taken.data.toList) ∧
      (∃ file, ManifestFile.load oneManifest "stanza.toml" = .ok file ∧
        ∀ name ∈ greetingOrder.blocks, name ∈ file.manifest.blockNames) ∧
      ((OutputFile.mk "out/code.rs" "hi\n" .always).write oneManifest).1 = .ok .written ∧
      (greeting 0).ending = .aborted ∧ (greeting 0).ending.exitCode = 101 := by
  have pipe := (WriterScript.isReadUpTo_readUpTo 0).toIsPipe
  obtain ⟨file, loaded, known, came, wrote⟩ := oneManifest_greets
  have asked : greetingOrder.file? "hi\n" = some ⟨"out/code.rs", "hi\n", .always⟩ := rfl
  have ends : (greeting 0).ending = .success ∨ (greeting 0).ending = .aborted := by
    rw [greeting, run_render_of_write loaded came asked (Prod.ext wrote rfl)]
    exact (report_of_pipe pipe _ _ _).1
  have aborted := ends.resolve_left (mt (greeting_success_iff 0).1 (by decide))
  exact ⟨pipe, ⟨file, loaded, known⟩, wrote, aborted, by rw [aborted]; rfl⟩

/-- One byte decides: the report has 55 bytes, and where only 54 of them are read the run is
aborted. -/
theorem render_on_shortPipe :
    (greeting 54).ending = .aborted ∧ (greeting 55).ending = .success ∧
      (greeting 55).output.taken.data.toList =
        bytesOf "✓ wrote 1 block to out/code.rs\n    - greet (1 nodes)\n" := by
  obtain ⟨file, loaded, known, came, wrote⟩ := oneManifest_greets
  have ends : ∀ limit,
      ((greeting limit).ending = .success ∨ (greeting limit).ending = .aborted) ∧
        ((greeting limit).ending = .success ↔
          (greeting limit).output.taken.data.toList = [] ++ printed greeted.lines) := by
    intro limit
    obtain ⟨generation, generated, ends⟩ :=
      render_on_pipe (WriterScript.isReadUpTo_readUpTo limit).toIsPipe {} loaded known
    obtain rfl := Except.ok.inj (came.symm.trans generated)
    change match ((OutputFile.mk "out/code.rs" "hi\n" .always).write oneManifest).1 with
      | .ok .skipped => _
      | .ok .written => _
      | .error _ => _ at ends
    rw [wrote] at ends
    exact ⟨ends.1, ends.2.1⟩
  have full := (greeting_success_iff 55).2 (Nat.le_refl 55)
  refine ⟨(ends 54).1.resolve_left (mt (greeting_success_iff 54).1 (by decide)), full, ?_⟩
  exact ((ends 55).2.1 full).trans printed_greeted

end CommandLine

end CodeBlocks
