/-
**What a selection of blocks generates.**

An order names blocks, in any order and as often as it likes, or it names none and means them all.
Described blocks have no leaves of custom code, so rendering one cannot fail, and what an order
comes to depends on its names alone: if each of them has a block, the texts of these blocks are
joined, and a text that is empty leaves no trace; otherwise the names without a block are reported.

All this holds as far as the machine goes.

Main definitions:

* `CodeBlocks.BlockSpec.text` — the text of a described block;
* `CodeBlocks.Manifest.FitsOn` — a machine goes far enough for the blocks of some names;
* `CodeBlocks.Manifest.Gathers` — a generation has the blocks of some names.

Main results:

* `CodeBlocks.BlockSpec.render_build` — **described blocks always render**;
* `CodeBlocks.joinSections_append` — joining two lists of sections joins what each of them comes to;
* `CodeBlocks.Manifest.generateOn_eq`, `CodeBlocks.Manifest.select_eq` — generation as selection and
  collection, and selection as one look at the names;
* `CodeBlocks.Manifest.message_unknownBlocks` — what is said about names without blocks;
* `CodeBlocks.Manifest.generateOn_gathers` — **what is generated for which names**.
-/
import CodeBlocks.Generation
import CodeBlocks.Proofs.Rendering.Capacity
import CodeBlocks.Proofs.Rendering.Descriptions
import Mathlib.Data.List.Forall2

set_option relaxedAutoImplicit false
set_option autoImplicit false

namespace CodeBlocks

/-! ### Described blocks always render -/

def BlockSpec.text (dialect : Dialect) (level : Nat) (spec : BlockSpec) : String :=
  ((spec.build dialect).render level).toOption.getD ""

/-- **Described blocks always render.** -/
theorem BlockSpec.render_build (dialect : Dialect) (level : Nat) (spec : BlockSpec) :
    (spec.build dialect).render level = .ok (spec.text dialect level) := by
  rw [BlockSpec.text, spec.render_eq_chunks]
  rfl

/-! ### Joining sections -/

theorem joinSections_eq_empty_iff (sections : List String) :
    joinSections sections = "" ↔ sections.filter (· ≠ "") = [] := by
  rw [joinSections]
  constructor
  · intro empty
    cases kept : sections.filter (· ≠ "") with
    | nil => rfl
    | cons first others =>
        -- The first section that is kept has some text, and joining only adds to it.
        have member : first ∈ sections.filter (· ≠ "") := by
          rw [kept]
          exact List.mem_cons_self ..
        have text : first ≠ "" := of_decide_eq_true (List.mem_filter.1 member).2
        rw [kept] at empty
        cases others with
        | nil => exact absurd (String.intercalate_singleton.symm.trans empty) text
        | cons second others => simp [text] at empty
  · intro none
    rw [none, String.intercalate_nil]

/-- **Joining goes along lists of sections**: a line is left blank between two parts exactly if both
have some text. -/
theorem joinSections_append (sections others : List String) :
    joinSections (sections ++ others) =
      if joinSections sections = "" ∨ joinSections others = "" then
        joinSections sections ++ joinSections others
      else joinSections sections ++ "\n" ++ joinSections others := by
  simp only [joinSections_eq_empty_iff]
  unfold joinSections
  rw [List.filter_append]
  split
  case isTrue oneEmpty =>
    rcases oneEmpty with empty | empty
    · rw [empty, List.nil_append, String.intercalate_nil, String.empty_append]
    · rw [empty, List.append_nil, String.intercalate_nil, String.append_empty]
  case isFalse bothSome =>
    obtain ⟨here, there⟩ := not_or.1 bothSome
    exact String.intercalate_append_of_ne_nil here there

namespace Manifest

variable (manifest : Manifest)

/-! ### Selecting -/

def described (names : List String) : List (String × BlockSpec) :=
  names.filterMap fun name => (manifest.block? name).map fun spec => (name, spec)

def unknown (names : List String) : List String :=
  names.filter fun name => name ∉ manifest.blockNames

theorem isNone_block?_iff (name : String) :
    (manifest.block? name).isNone ↔ name ∉ manifest.blockNames := by
  rw [blockNames, Catalog.mem_names_iff, block?]
  cases manifest.blocks.find? name <;> simp

theorem unknown_eq_nil_iff (names : List String) :
    manifest.unknown names = [] ↔ ∀ name ∈ names, name ∈ manifest.blockNames := by
  simp [unknown, List.filter_eq_nil_iff]

/-- **Selection is one look at the names.** -/
theorem select_eq (names : List String) :
    manifest.select names =
      if manifest.unknown names = [] then .ok (manifest.described names)
      else .error (.unknownBlocks (manifest.unknown names) manifest.blockNames) := by
  have same :
      (names.filter fun name => (manifest.block? name).isNone) = manifest.unknown names := by
    refine List.filter_congr ?_
    intro name _
    rw [Bool.eq_iff_iff, isNone_block?_iff, decide_eq_true_iff]
  rw [select, same]
  split
  case h_1 none => rw [if_pos none, described]
  case h_2 some => rw [if_neg some]

/-- Names that have blocks are described one for one, in their order. -/
theorem described_of_known {names : List String}
    (known : ∀ name ∈ names, name ∈ manifest.blockNames) :
    List.Forall₂ (fun name entry => entry.1 = name ∧ manifest.block? name = some entry.2) names
      (manifest.described names) := by
  induction names with
  | nil => exact .nil
  | cons name names ih =>
      obtain ⟨spec, found⟩ := Catalog.mem_names_iff.1 (known name (List.mem_cons_self ..))
      have found : manifest.block? name = some spec := found
      have others := ih fun other member => known other (List.mem_cons_of_mem _ member)
      have step :
          manifest.described (name :: names) = (name, spec) :: manifest.described names := by
        simp [described, found]
      rw [step]
      exact .cons ⟨rfl, found⟩ others

/-! ### Collecting -/

/-- What described blocks come to: the number of nodes of each, and their texts joined. -/
def collect (level : Nat) (entries : List (String × BlockSpec)) : Generation where
  blocks := entries.map fun entry => (entry.1, entry.2.nodes.length)
  code := joinSections (entries.map fun entry => entry.2.text manifest.settings.resolved level)

/-- **A machine goes far enough** for the blocks of some names, at a level. -/
def FitsOn (machine : Machine) (level : Nat) (names : List String) : Prop :=
  ∀ name ∈ names, ∀ block ∈ manifest.build? name, block.FitsOn machine level

instance (machine : Machine) (level : Nat) (names : List String) :
    Decidable (manifest.FitsOn machine level names) :=
  inferInstanceAs (Decidable (∀ name ∈ names, ∀ block ∈ manifest.build? name,
    block.FitsOn machine level))

theorem fitsOn_unbounded (level : Nat) (names : List String) :
    manifest.FitsOn .unbounded level names :=
  fun _ _ block _ => block.fitsOn_unbounded level

theorem fitsOn_append {machine : Machine} {level : Nat} {names others : List String} :
    manifest.FitsOn machine level (names ++ others) ↔
      manifest.FitsOn machine level names ∧ manifest.FitsOn machine level others :=
  List.forall_mem_append

theorem fitsOn_of_described {machine : Machine} {level : Nat} {names : List String}
    (fits : manifest.FitsOn machine level names) {entry : String × BlockSpec}
    (member : entry ∈ manifest.described names) :
    (entry.2.build manifest.settings.resolved).FitsOn machine level := by
  obtain ⟨name, asked, found⟩ := List.mem_filterMap.1 member
  obtain ⟨spec, held, rfl⟩ := Option.map_eq_some_iff.1 found
  exact fits name asked _ (Option.map_eq_some_iff.2 ⟨spec, held, rfl⟩)

/-- The texts of described blocks that fit. -/
theorem mapM_renderOn {machine : Machine} {level : Nat} {entries : List (String × BlockSpec)}
    (fits : ∀ entry ∈ entries,
      (entry.2.build manifest.settings.resolved).FitsOn machine level) :
    (entries.mapM fun entry =>
        (entry.2.build manifest.settings.resolved).renderOn machine level) =
      .ok (entries.map fun entry => entry.2.text manifest.settings.resolved level) := by
  induction entries with
  | nil => rfl
  | cons entry entries ih =>
      have here := Block.renderOn_of_fits (fits entry (List.mem_cons_self ..))
      have others := ih fun other member => fits other (List.mem_cons_of_mem _ member)
      rw [BlockSpec.render_build] at here
      rw [List.mapM_cons, here, others]
      rfl

/-- **Generation is selection and collection** where the blocks fit: nothing can fail in between. -/
theorem generateOn_eq {machine : Machine} {names : List String} {level : Option Nat}
    (fits : manifest.FitsOn machine (manifest.levelFor level) (manifest.selection names)) :
    manifest.generateOn machine names level =
      (manifest.select (manifest.selection names)).map
        (manifest.collect (manifest.levelFor level)) := by
  unfold generateOn
  rw [select_eq]
  split
  case isTrue =>
    dsimp only [bind, Except.bind]
    rw [manifest.mapM_renderOn fun entry member => manifest.fitsOn_of_described fits member]
    rfl
  case isFalse => rfl

/-- **A generation has the blocks of some names**, at a level: one entry for each name with the
number of nodes that stand directly in its block, and the texts of the blocks, less those that are
empty, with one line end between them. -/
structure Gathers (level : Nat) (names : List String) (generation : Generation) : Prop where
  entries : List.Forall₂ (fun name entry => entry.1 = name ∧
    ∃ spec, manifest.block? name = some spec ∧ entry.2 = spec.nodes.length) names generation.blocks
  texts : ∃ texts, List.Forall₂ (fun name text =>
      ∃ block, manifest.build? name = some block ∧ block.render level = .ok text) names texts ∧
    generation.code = "\n".intercalate (texts.filter (· ≠ ""))
  unwritten : generation.written = none

variable {manifest}

/-- The described blocks of names that have one are collected into a generation for these names. -/
theorem collect_gathers {level : Nat} {names : List String}
    (known : ∀ name ∈ names, name ∈ manifest.blockNames) :
    manifest.Gathers level names (manifest.collect level (manifest.described names)) := by
  have described := manifest.described_of_known known
  refine ⟨?_, ⟨(manifest.described names).map fun entry =>
    entry.2.text manifest.settings.resolved level, ?_, rfl⟩, rfl⟩
  · refine List.forall₂_map_right_iff.2 (described.imp ?_)
    rintro name entry ⟨same, found⟩
    exact ⟨same, entry.2, found, rfl⟩
  · refine List.forall₂_map_right_iff.2 (described.imp ?_)
    rintro name entry ⟨_, found⟩
    refine ⟨entry.2.build manifest.settings.resolved, ?_, entry.2.render_build _ _⟩
    rw [build?, found, Option.map_some]

/-! ### Generating -/

theorem selection_of_ne_nil {names : List String} (asked : names ≠ []) :
    manifest.selection names = names := by
  rw [selection, List.isEmpty_eq_false_iff.2 asked]
  rfl

theorem generateOn_of_known {machine : Machine} {names asked : List String} (level : Option Nat)
    (chosen : manifest.selection names = asked)
    (known : ∀ name ∈ asked, name ∈ manifest.blockNames)
    (fits : manifest.FitsOn machine (manifest.levelFor level) asked) :
    manifest.generateOn machine names level =
      .ok (manifest.collect (manifest.levelFor level) (manifest.described asked)) := by
  obtain rfl := chosen
  rw [manifest.generateOn_eq fits, select_eq, if_pos ((manifest.unknown_eq_nil_iff _).2 known)]
  rfl

theorem generate_of_known {names asked : List String} (level : Option Nat)
    (chosen : manifest.selection names = asked)
    (known : ∀ name ∈ asked, name ∈ manifest.blockNames) :
    manifest.generate names level =
      .ok (manifest.collect (manifest.levelFor level) (manifest.described asked)) :=
  generateOn_of_known level chosen known (manifest.fitsOn_unbounded _ _)

/-- Names without blocks are found before the machine is asked for anything. -/
theorem generateOn_of_unknown (machine : Machine) {names : List String} (level : Option Nat)
    (some : ∃ name ∈ names, name ∉ manifest.blockNames) :
    manifest.generateOn machine names level =
      .error (.unknownBlocks (manifest.unknown names) manifest.blockNames) := by
  obtain ⟨name, member, absent⟩ := some
  have asked : names ≠ [] := List.ne_nil_of_mem member
  have reported : manifest.unknown names ≠ [] := by
    intro none
    exact absent ((manifest.unknown_eq_nil_iff names).1 none name member)
  unfold generateOn
  rw [selection_of_ne_nil asked, select_eq, if_neg reported]
  rfl

/-- An order without a file is about the code alone. -/
theorem fulfilOn_of_no_output {machine : Machine} {disk : Disk} {order : Order} {tree : FileTree}
    (none : order.output = none) :
    manifest.fulfilOn machine disk order tree =
      (manifest.generateOn machine order.blocks order.level, tree) := by
  unfold fulfilOn Order.file?
  rw [none]
  cases manifest.generateOn machine order.blocks order.level with
  | error fault => rfl
  | ok generation => rfl

/-- The words for names without blocks: one word for one name, and another one for several. -/
theorem message_unknownBlocks (names available : List String) :
    (GenerationFault.unknownBlocks names available).message? =
      some ("unknown block" ++ (if names.length = 1 then "" else "s") ++ " '" ++
        "', '".intercalate names ++ "' (available: " ++
        (if available = [] then "none" else ", ".intercalate available) ++ ")") := by
  have noun : (if names.length = 1 then "unknown block '" else "unknown blocks '") =
      "unknown block" ++ (if names.length = 1 then "" else "s") ++ " '" := by
    split <;> rfl
  rw [GenerationFault.message?, unknownBlocksMessage, noun]
  simp only [List.isEmpty_iff]

/-- Collecting goes along lists of names. -/
theorem code_collect_append (level : Nat) (names others : List String) :
    (manifest.collect level (manifest.described (names ++ others))).code =
      if (manifest.collect level (manifest.described names)).code = "" ∨
          (manifest.collect level (manifest.described others)).code = "" then
        (manifest.collect level (manifest.described names)).code ++
          (manifest.collect level (manifest.described others)).code
      else
        (manifest.collect level (manifest.described names)).code ++ "\n" ++
          (manifest.collect level (manifest.described others)).code := by
  have split : manifest.described (names ++ others) =
      manifest.described names ++ manifest.described others := List.filterMap_append
  let text := fun entry : String × BlockSpec => entry.2.text manifest.settings.resolved level
  have joined := joinSections_append ((manifest.described names).map text)
    ((manifest.described others).map text)
  rw [← List.map_append, ← split] at joined
  exact joined

/-- The code of two lists of names that have blocks, in terms of the codes of each. -/
theorem generateOn_append {machine : Machine} {names others : List String} (level : Option Nat)
    (asked : names ≠ []) (askedToo : others ≠ [])
    (known : ∀ name ∈ names, name ∈ manifest.blockNames)
    (knownToo : ∀ name ∈ others, name ∈ manifest.blockNames)
    (fits : manifest.FitsOn machine (manifest.levelFor level) (names ++ others)) :
    ∃ first second both, manifest.generateOn machine names level = .ok first ∧
      manifest.generateOn machine others level = .ok second ∧
      manifest.generateOn machine (names ++ others) level = .ok both ∧
      both.code = if first.code = "" ∨ second.code = "" then first.code ++ second.code
        else first.code ++ "\n" ++ second.code := by
  have knownBoth : ∀ name ∈ names ++ others, name ∈ manifest.blockNames :=
    List.forall_mem_append.2 ⟨known, knownToo⟩
  have askedBoth : names ++ others ≠ [] := List.append_ne_nil_of_left_ne_nil asked others
  obtain ⟨here, there⟩ := manifest.fitsOn_append.1 fits
  exact ⟨_, _, _, generateOn_of_known level (selection_of_ne_nil asked) known here,
    generateOn_of_known level (selection_of_ne_nil askedToo) knownToo there,
    generateOn_of_known level (selection_of_ne_nil askedBoth) knownBoth fits,
    code_collect_append _ names others⟩

/-- **What is generated for which names**, as long as no level and no prefix of their blocks is too
large.  An order without a file comes to it, and leaves the tree as it was.  Names that all have
blocks are gathered one for one, and no names mean all blocks in their order.  The code of two lists
of names is that of the one and that of the other, with a blank line between them if both have some.
Names without blocks are reported, all of them, in the order and as often as they were asked for. -/
theorem generateOn_gathers (machine : Machine) (manifest : Manifest) (level : Option Nat) :
    let indent := level.getD manifest.settings.baseIndent
    let generateOn := fun names => manifest.generateOn machine names level
    (∀ disk names noClobber tree,
        manifest.fulfilOn machine disk { blocks := names, level, output := none, noClobber } tree =
          (generateOn names, tree)) ∧
      (∀ names,
        let asked := if names = [] then manifest.blockNames else names
        (∀ name ∈ names, name ∈ manifest.blockNames) → manifest.FitsOn machine indent asked →
        ∃ generation, generateOn names = .ok generation ∧
          manifest.Gathers indent asked generation) ∧
      (∀ names others, names ≠ [] → others ≠ [] → (∀ name ∈ names, name ∈ manifest.blockNames) →
        (∀ name ∈ others, name ∈ manifest.blockNames) →
        manifest.FitsOn machine indent (names ++ others) →
        ∃ first second both, generateOn names = .ok first ∧ generateOn others = .ok second ∧
          generateOn (names ++ others) = .ok both ∧
          both.code = if first.code = "" ∨ second.code = "" then first.code ++ second.code
            else first.code ++ "\n" ++ second.code) ∧
      generateOn [] = generateOn manifest.blockNames ∧
      (∀ names, (∃ name ∈ names, name ∉ manifest.blockNames) →
        let unknown := names.filter fun name => name ∉ manifest.blockNames
        ∃ fault, generateOn names = .error fault ∧
          fault = .unknownBlocks unknown manifest.blockNames ∧
          fault.message? = some ("unknown block" ++ (if unknown.length = 1 then "" else "s") ++
            " '" ++ "', '".intercalate unknown ++ "' (available: " ++
            (if manifest.blockNames = [] then "none" else ", ".intercalate manifest.blockNames) ++
            ")")) ∧
      ∀ name, manifest.buildAll.find? name = manifest.build? name := by
  intro indent generateOn
  refine ⟨?_, ?_, ?_, ?_, ?_, ?_⟩
  · intro disk names noClobber tree
    exact fulfilOn_of_no_output rfl
  · intro names asked known fits
    have chosen : manifest.selection names = asked := by simp [selection, asked]
    have knownChosen : ∀ name ∈ asked, name ∈ manifest.blockNames := by
      unfold asked
      split
      case isTrue none => exact fun name member => member
      case isFalse some => exact known
    exact ⟨_, generateOn_of_known level chosen knownChosen fits, collect_gathers knownChosen⟩
  · intro names others asked askedToo known knownToo fits
    exact generateOn_append level asked askedToo known knownToo fits
  · have same : manifest.selection [] = manifest.selection manifest.blockNames := by
      by_cases none : manifest.blockNames = []
      · rw [none]
      · rw [selection_of_ne_nil none]
        rfl
    unfold generateOn Manifest.generateOn
    rw [same]
  · intro names some
    exact ⟨_, generateOn_of_unknown machine level some, rfl, message_unknownBlocks _ _⟩
  · intro name
    exact Catalog.find?_map _ manifest.blocks name

/-- Blocks of which the one in the middle is empty, in a dialect with a separator. -/
def patchy : Manifest where
  settings := { dialect := some "java", baseIndent := 1 }
  blocks :=
    ((Catalog.empty.insert "declare" { nodes := [.statement "x = 1", .verbatim "//"] }).insert
      "empty" {}).insert "check" { nodes := [.scope "if (x)" (some "end") [.statement "y()"]] }

/-- On a machine of 64 bits, where all blocks fit. -/
theorem generateOn_patchy :
    let generateOn := fun names => patchy.generateOn (.sixtyFour true) names none
    let known := fun names : List String => ∀ name ∈ names, name ∈ patchy.blockNames
    patchy.FitsOn (.sixtyFour true) 1 ["check", "empty", "declare", "check"] ∧
      known ["check", "empty", "declare", "check"] ∧
      (∃ generation, generateOn ["check", "empty", "declare", "check"] = .ok generation ∧
        patchy.Gathers 1 ["check", "empty", "declare", "check"] generation ∧
        generation.code =
          "    if (x)\n        y();\n    end\n\n    x = 1;\n//\n\n    if (x)\n        y();\n    end\n") ∧
      (∃ first second both, generateOn ["check", "empty"] = .ok first ∧
        generateOn ["declare", "check"] = .ok second ∧
        generateOn ["check", "empty", "declare", "check"] = .ok both ∧
        both.code = if first.code = "" ∨ second.code = "" then first.code ++ second.code
          else first.code ++ "\n" ++ second.code) ∧
      ¬known ["a", "check", "b", "a"] ∧
      ∃ fault, generateOn ["a", "check", "b", "a"] = .error fault ∧
        fault.message? =
          some "unknown blocks 'a', 'b', 'a' (available: declare, empty, check)" := by
  intro generateOn isKnown
  have fits : patchy.FitsOn (.sixtyFour true) 1 ["check", "empty", "declare", "check"] := by
    decide +kernel
  have known : isKnown ["check", "empty", "declare", "check"] := by decide
  have absent : "a" ∉ patchy.blockNames := by decide
  obtain ⟨_, gathered, joined, _, reported, _⟩ := generateOn_gathers (.sixtyFour true) patchy none
  obtain ⟨generation, came, gathers⟩ := gathered _ known fits
  have code : (generateOn ["check", "empty", "declare", "check"]).toOption.map (·.code) =
      "    if (x)\n        y();\n    end\n\n    x = 1;\n//\n\n    if (x)\n        y();\n    end\n" := by
    decide +kernel
  change generateOn _ = .ok generation at came
  rw [came] at code
  have both := joined ["check", "empty"] ["declare", "check"] (by decide) (by decide)
    (by decide) (by decide) fits
  obtain ⟨fault, failed, _, words⟩ := reported ["a", "check", "b", "a"]
    ⟨"a", List.mem_cons_self .., absent⟩
  refine ⟨fits, known, ⟨generation, came, gathers, Option.some.inj code⟩, both,
    fun all => absent (all "a" (List.mem_cons_self ..)), fault, failed, words.trans ?_⟩
  decide +kernel

end Manifest

end CodeBlocks
