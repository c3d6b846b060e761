/-
**What renders nothing.**

A summary warns of blocks that render nothing, and generation leaves them out together with their
blank line.  The one looks at the nodes of a description and the other at the text that comes of
it.  They agree at every level: every node has a chunk, and a chunk is at least a line end, so the
text of a block is empty only if there is no node in it.

Main definitions:

* `CodeBlocks.EndsLine` — a text ends its last line;
* `CodeBlocks.Manifest.without` — a manifest without a block;
* `CodeBlocks.Manifest.AgreeOnEmpty` — a summary and the code of all blocks agree on what renders
  nothing.

Main results:

* `CodeBlocks.BlockSpec.text_eq_empty_iff` — **only a block without nodes renders nothing**;
* `CodeBlocks.joinSections_skip_iff` — a section can be left out exactly if it is empty;
* `CodeBlocks.Warning.message_injective` — the words tell of which block a warning is;
* `CodeBlocks.Manifest.generate_all` — all blocks are collected in their order;
* `CodeBlocks.Manifest.summarize_agrees` — **the warnings tell what the code leaves out**.
-/
import CodeBlocks.Proofs.Generation.Selection
import CodeBlocks.Summary

set_option relaxedAutoImplicit false
set_option autoImplicit false

namespace CodeBlocks

/-! ### Texts that end their last line -/

/-- **A text that ends its last line.** -/
def EndsLine (text : String) : Prop := ∃ front, text = front ++ "\n"

theorem EndsLine.append {text : String} (ends : EndsLine text) (front : String) :
    EndsLine (front ++ text) := by
  obtain ⟨lines, rfl⟩ := ends
  exact ⟨front ++ lines, (String.append_assoc ..).symm⟩

theorem EndsLine.ne_empty {text : String} (ends : EndsLine text) : text ≠ "" := by
  obtain ⟨front, rfl⟩ := ends
  simp

theorem endsLine_terminated {chunks : List String} (some : chunks ≠ []) :
    EndsLine (terminated chunks) := by
  rcases List.eq_nil_or_concat chunks with rfl | ⟨front, last, rfl⟩
  · exact absurd rfl some
  · refine ⟨terminated front ++ last, ?_⟩
    simp [terminated_append, terminated_cons, String.append_assoc]

/-! ### Texts of described blocks -/

theorem BlockSpec.text_eq_terminated (dialect : Dialect) (level : Nat) (spec : BlockSpec) :
    spec.text dialect level = terminated (spec.chunks dialect level) := by
  rw [text, render_eq_chunks]
  rfl

theorem BlockSpec.chunks_eq_nil_iff (dialect : Dialect) (level : Nat) (spec : BlockSpec) :
    spec.chunks dialect level = [] ↔ spec.nodes = [] :=
  (Block.chunksOf_eq_nil_iff _ _ _).trans (NodeSpec.buildList_eq_nil_iff _ _)

/-- The text of a block with nodes ends its last line. -/
theorem BlockSpec.endsLine_text (dialect : Dialect) (level : Nat) {spec : BlockSpec}
    (some : spec.nodes ≠ []) : EndsLine (spec.text dialect level) := by
  rw [text_eq_terminated]
  exact endsLine_terminated (mt (spec.chunks_eq_nil_iff dialect level).1 some)

/-- **Only a block without nodes renders nothing**, whatever the dialect and the level. -/
theorem BlockSpec.text_eq_empty_iff (dialect : Dialect) (level : Nat) (spec : BlockSpec) :
    spec.text dialect level = "" ↔ spec.nodes = [] := by
  constructor
  · intro empty
    by_contra some
    exact (endsLine_text dialect level some).ne_empty empty
  · intro none
    rw [text_eq_terminated, (spec.chunks_eq_nil_iff dialect level).2 none, terminated_nil]

/-! ### Joined sections -/

theorem joinSections_singleton (text : String) : joinSections [text] = text := by
  by_cases empty : text = "" <;> simp [joinSections, empty]

theorem length_joinSections_append (sections others : List String) :
    (joinSections (sections ++ others)).length =
      (joinSections sections).length + (joinSections others).length +
        if joinSections sections = "" ∨ joinSections others = "" then 0 else 1 := by
  rw [joinSections_append]
  split
  case isTrue => rw [String.length_append, Nat.add_zero]
  case isFalse =>
    rw [String.length_append, String.length_append]
    exact Nat.add_right_comm _ _ _

/-- **A section can be left out exactly if it is empty**, wherever it stands. -/
theorem joinSections_skip_iff (before after : List String) (text : String) :
    joinSections (before ++ text :: after) = joinSections (before ++ after) ↔ text = "" := by
  constructor
  · intro same
    by_contra some
    -- The code is longer with the section, by its text and by what divides it from the others.
    have inside := length_joinSections_append [text] after
    have whole := length_joinSections_append before ([text] ++ after)
    have shorter := length_joinSections_append before after
    rw [joinSections_singleton] at inside
    have size : text.length ≠ 0 := mt String.length_eq_zero_iff.1 some
    have shown : joinSections ([text] ++ after) ≠ "" := by
      intro empty
      rw [empty, String.length_empty] at inside
      omega
    have same : joinSections (before ++ ([text] ++ after)) = joinSections (before ++ after) := same
    rw [same, shorter] at whole
    simp only [shown, or_false] at whole
    by_cases first : joinSections before = ""
    · simp only [first, true_or, if_true] at whole
      omega
    · simp only [first, false_or, if_false] at whole
      split at whole <;> omega
  · rintro rfl
    simp [joinSections]

/-- Sections that end their last line come to a code that does. -/
theorem endsLine_joinSections {sections : List String}
    (ended : ∀ text ∈ sections, text ≠ "" → EndsLine text) (some : joinSections sections ≠ "") :
    EndsLine (joinSections sections) := by
  induction sections with
  | nil => exact absurd rfl some
  | cons text sections ih =>
      have others := ih fun other member => ended other (List.mem_cons_of_mem _ member)
      have split : joinSections (text :: sections) = _ := joinSections_append [text] sections
      rw [joinSections_singleton] at split
      rw [split] at some ⊢
      by_cases rest : joinSections sections = ""
      · rw [if_pos (Or.inr rest), rest, String.append_empty] at some ⊢
        exact ended text (List.mem_cons_self ..) some
      · by_cases first : text = ""
        · rw [if_pos (Or.inl first)]
          exact (others rest).append text
        · rw [if_neg (not_or.2 ⟨first, rest⟩)]
          exact (others rest).append _

/-! ### Words of warnings -/

/-- **The words tell of which block a warning is**, and whether it is of a block at all. -/
theorem Warning.message_injective : Function.Injective Warning.message := by
  have apart : ∀ name, (Warning.emptyBlock name).message ≠ Warning.noBlocks.message := by
    intro name same
    have words : "block '" ++ name ++ "' is empty and renders nothing" = "no blocks defined" := same
    have first := congrArg (fun text => text.toList.head?) words
    simp at first
  intro warning other same
  cases warning with
  | emptyBlock name =>
      cases other with
      | emptyBlock another =>
          have names : "block '" ++ name ++ "' is empty and renders nothing" =
              "block '" ++ another ++ "' is empty and renders nothing" := same
          rw [String.append_left_inj, String.append_right_inj] at names
          rw [names]
      | noBlocks => exact absurd same (apart name)
  | noBlocks =>
      cases other with
      | emptyBlock name => exact absurd same.symm (apart name)
      | noBlocks => rfl

/-! ### All blocks of a manifest -/

namespace Manifest

variable (manifest : Manifest)

theorem block?_eq_some_iff {name : String} {spec : BlockSpec} :
    manifest.block? name = some spec ↔ (name, spec) ∈ manifest.blocks.entries :=
  Catalog.find?_eq_some_iff

theorem described_blockNames :
    manifest.described manifest.blockNames = manifest.blocks.entries := by
  rw [described, blockNames, Catalog.names, List.filterMap_map]
  have found : ∀ entry ∈ manifest.blocks.entries,
      ((fun name => (manifest.block? name).map fun spec => (name, spec)) ∘ Prod.fst) entry =
        some entry := by
    intro entry member
    have spec : manifest.block? entry.1 = some entry.2 := manifest.block?_eq_some_iff.2 member
    rw [Function.comp_apply, spec, Option.map_some]
  rw [List.filterMap_congr found, List.filterMap_some]

/-- **All blocks are collected in their order.** -/
theorem generate_all (level : Option Nat) :
    manifest.generate [] level =
      .ok (manifest.collect (manifest.levelFor level) manifest.blocks.entries) := by
  have all : manifest.selection [] = manifest.blockNames := rfl
  rw [generate_of_known level all fun name member => member, manifest.described_blockNames]

def texts (level : Nat) : List String :=
  manifest.blocks.entries.map fun entry => entry.2.text manifest.settings.resolved level

theorem code_collect_all (level : Nat) :
    (manifest.collect level manifest.blocks.entries).code =
      joinSections (manifest.texts level) := rfl

/-! ### A manifest without a block -/

/-- **The manifest without the block of a name.** -/
def without (name : String) : Manifest :=
  { manifest with
    blocks := ⟨manifest.blocks.entries.filter fun entry => entry.1 ≠ name,
      (List.filter_sublist.map Prod.fst).nodup manifest.blocks.nodup⟩ }

variable {manifest}

theorem entries_without {name : String} {spec : BlockSpec}
    {before after : List (String × BlockSpec)}
    (split : manifest.blocks.entries = before ++ (name, spec) :: after) :
    (manifest.without name).blocks.entries = before ++ after := by
  have nodup := manifest.blocks.nodup
  rw [split, List.map_append, List.map_cons, List.nodup_append, List.nodup_cons] at nodup
  obtain ⟨_, ⟨behind, _⟩, ahead⟩ := nodup
  have left : before.filter (fun entry => entry.1 ≠ name) = before := by
    refine List.filter_eq_self.2 ?_
    intro entry member
    exact decide_eq_true (ahead _ (List.mem_map_of_mem member) name (List.mem_cons_self ..))
  have right : after.filter (fun entry => entry.1 ≠ name) = after := by
    refine List.filter_eq_self.2 ?_
    intro entry member
    have there : entry.1 ∈ after.map Prod.fst := List.mem_map_of_mem member
    exact decide_eq_true fun same => behind (same ▸ there)
  change manifest.blocks.entries.filter (fun entry => entry.1 ≠ name) = before ++ after
  rw [split, List.filter_append, left, List.filter_cons_of_neg (by simp), right]

/-- **The code is the same without a block exactly if the block has no nodes.** -/
theorem generate_without_iff {name : String} {spec : BlockSpec} (level : Nat)
    (member : (name, spec) ∈ manifest.blocks.entries) :
    ((manifest.without name).generate [] (some level)).map Generation.code =
        .ok (joinSections (manifest.texts level)) ↔
      spec.nodes = [] := by
  obtain ⟨before, after, split⟩ := List.append_of_mem member
  have rest := entries_without split
  have left : (manifest.without name).texts level =
      before.map (fun entry => entry.2.text manifest.settings.resolved level) ++
        after.map (fun entry => entry.2.text manifest.settings.resolved level) := by
    rw [texts, rest, List.map_append]
    rfl
  have all : manifest.texts level =
      before.map (fun entry => entry.2.text manifest.settings.resolved level) ++
        spec.text manifest.settings.resolved level ::
          after.map (fun entry => entry.2.text manifest.settings.resolved level) := by
    rw [texts, split, List.map_append, List.map_cons]
  have code : ((manifest.without name).generate [] (some level)).map Generation.code =
      .ok (joinSections ((manifest.without name).texts level)) := by
    rw [generate_all]
    rfl
  rw [code, Except.ok.injEq, left, all, eq_comm, joinSections_skip_iff,
    BlockSpec.text_eq_empty_iff]

/-! ### Warnings -/

theorem message_mem_warnings_iff {path : String} {warning : Warning} :
    warning.message ∈ (manifest.summarize path).warnings ↔ warning ∈ manifest.warnings :=
  List.mem_map_of_injective Warning.message_injective

theorem emptyBlock_mem_warnings_iff {name : String} {spec : BlockSpec}
    (member : (name, spec) ∈ manifest.blocks.entries) :
    .emptyBlock name ∈ manifest.warnings ↔ spec.nodes = [] := by
  have found := manifest.block?_eq_some_iff.2 member
  rw [warnings]
  constructor
  · intro warned
    rcases List.mem_append.1 warned with empty | none
    · obtain ⟨entry, listed, same⟩ := List.mem_map.1 empty
      obtain ⟨there, blank⟩ := List.mem_filter.1 listed
      obtain ⟨other, held⟩ := entry
      obtain rfl : other = name := Warning.emptyBlock.inj same
      have again : manifest.block? other = some held := manifest.block?_eq_some_iff.2 there
      rw [found] at again
      obtain rfl := Option.some.inj again
      exact List.isEmpty_iff.1 blank
    · split at none
      · simp at none
      · cases none
  · intro blank
    refine List.mem_append_left _ (List.mem_map.2 ⟨(name, spec), ?_, rfl⟩)
    exact List.mem_filter.2 ⟨member, List.isEmpty_iff.2 blank⟩

theorem noBlocks_mem_warnings_iff : .noBlocks ∈ manifest.warnings ↔ manifest.blockNames = [] := by
  rw [blockNames, Catalog.names, List.map_eq_nil_iff, ← List.isEmpty_iff, warnings]
  cases manifest.blocks.entries.isEmpty <;> simp

theorem all_warned_iff (path : String) :
    (∀ name ∈ manifest.blockNames,
        (Warning.emptyBlock name).message ∈ (manifest.summarize path).warnings) ↔
      ∀ entry ∈ manifest.blocks.entries, entry.2.nodes = [] := by
  rw [blockNames, Catalog.names, List.forall_mem_map]
  constructor
  · intro warned entry member
    exact (emptyBlock_mem_warnings_iff member).1 (message_mem_warnings_iff.1 (warned entry member))
  · intro empty entry member
    exact message_mem_warnings_iff.2 ((emptyBlock_mem_warnings_iff member).2 (empty entry member))

/-! ### Agreement -/

def rendersEmpty (manifest : Manifest) (level : Nat) (name : String) : Bool :=
  (manifest.build? name).any fun block => (block.render level).toOption = some ""

/-- **A summary and the code of all blocks at a level agree on what renders nothing.** -/
structure AgreeOnEmpty (manifest : Manifest) (level : Nat) (summary : Summary)
    (generation : Generation) : Prop where
  /-- A block is warned of exactly if its text is empty. -/
  warned_iff : ∀ name block, manifest.build? name = some block →
    ((Warning.emptyBlock name).message ∈ summary.warnings ↔ block.render level = .ok "")
  /-- Exactly then the code is the same without the block. -/
  traceless_iff : ∀ name block, manifest.build? name = some block →
    (((manifest.without name).generate [] (some level)).map Generation.code =
      .ok generation.code ↔ block.render level = .ok "")
  /-- The sections of the code are the texts of the other blocks. -/
  sections : ∃ texts, List.Forall₂ (fun name text =>
      ∃ block, manifest.build? name = some block ∧ block.render level = .ok text)
      (manifest.blockNames.filter fun name => !manifest.rendersEmpty level name) texts ∧
    generation.code = "\n".intercalate texts
  /-- There is one warning for each block with an empty text, in order, and one if there are no
  blocks. -/
  warnings_eq : summary.warnings =
    (manifest.blockNames.filter (manifest.rendersEmpty level)).map
        (fun name => (Warning.emptyBlock name).message) ++
      if manifest.blockNames = [] then [Warning.noBlocks.message] else []
  noBlocks_iff : Warning.noBlocks.message ∈ summary.warnings ↔ manifest.blockNames = []
  /-- There is no code exactly if all blocks are warned of, or if there are none. -/
  code_empty_iff : generation.code = "" ↔
    (∀ name ∈ manifest.blockNames, (Warning.emptyBlock name).message ∈ summary.warnings) ∨
      manifest.blockNames = []
  code_ends : generation.code ≠ "" → EndsLine generation.code

theorem build?_of_mem {name : String} {spec : BlockSpec}
    (member : (name, spec) ∈ manifest.blocks.entries) :
    manifest.build? name = some (spec.build manifest.settings.resolved) := by
  rw [build?, manifest.block?_eq_some_iff.2 member, Option.map_some]

theorem exists_of_build? {name : String} {block : Block}
    (built : manifest.build? name = some block) :
    ∃ spec, (name, spec) ∈ manifest.blocks.entries ∧
      block = spec.build manifest.settings.resolved := by
  obtain ⟨spec, found, same⟩ := Option.map_eq_some_iff.1 built
  exact ⟨spec, manifest.block?_eq_some_iff.1 found, same.symm⟩

theorem render_build_eq_empty_iff (dialect : Dialect) (level : Nat) (spec : BlockSpec) :
    (spec.build dialect).render level = .ok "" ↔ spec.nodes = [] := by
  rw [spec.render_build, Except.ok.injEq, spec.text_eq_empty_iff]

theorem rendersEmpty_of_mem {name : String} {spec : BlockSpec} (level : Nat)
    (member : (name, spec) ∈ manifest.blocks.entries) :
    manifest.rendersEmpty level name = spec.nodes.isEmpty := by
  rw [rendersEmpty, build?_of_mem member, Option.any_some, spec.render_build, Bool.eq_iff_iff,
    List.isEmpty_iff, decide_eq_true_iff, Except.toOption, Option.some.injEq]
  exact spec.text_eq_empty_iff _ level

/-- Names are told apart by what their blocks render as entries are by their nodes. -/
theorem filter_rendersEmpty (manifest : Manifest) (level : Nat) (keeps : Bool → Bool) :
    (manifest.blockNames.filter fun name => keeps (manifest.rendersEmpty level name)) =
      (manifest.blocks.entries.filter fun entry => keeps entry.2.nodes.isEmpty).map Prod.fst := by
  rw [blockNames, Catalog.names, List.filter_map]
  refine congrArg _ (List.filter_congr ?_)
  intro entry member
  rw [Function.comp_apply, rendersEmpty_of_mem level member]

/-- The texts that are not empty are those of the entries with nodes. -/
theorem filter_texts (level : Nat) :
    (manifest.texts level).filter (· ≠ "") =
      (manifest.blocks.entries.filter fun entry => !entry.2.nodes.isEmpty).map fun entry =>
        entry.2.text manifest.settings.resolved level := by
  rw [texts, List.filter_map]
  refine congrArg _ (List.filter_congr ?_)
  intro entry _
  rw [Function.comp_apply, Bool.eq_iff_iff, decide_eq_true_iff, Ne, BlockSpec.text_eq_empty_iff,
    Bool.not_eq_true', List.isEmpty_eq_false_iff]

theorem code_empty_iff (level : Nat) :
    joinSections (manifest.texts level) = "" ↔
      ∀ entry ∈ manifest.blocks.entries, entry.2.nodes = [] := by
  rw [joinSections_eq_empty_iff, filter_texts, List.map_eq_nil_iff, List.filter_eq_nil_iff]
  simp

/-- The sections of the code of all blocks are the texts of the blocks that do not render empty. -/
theorem exists_sections (level : Nat) :
    ∃ texts, List.Forall₂ (fun name text =>
        ∃ block, manifest.build? name = some block ∧ block.render level = .ok text)
        (manifest.blockNames.filter fun name => !manifest.rendersEmpty level name) texts ∧
      joinSections (manifest.texts level) = "\n".intercalate texts := by
  refine ⟨_, ?_, congrArg "\n".intercalate (filter_texts level)⟩
  rw [manifest.filter_rendersEmpty level (fun empty => !empty), List.forall₂_map_left_iff,
    List.forall₂_map_right_iff, List.forall₂_same]
  intro entry member
  exact ⟨_, build?_of_mem (List.mem_filter.1 member).1, entry.2.render_build _ _⟩

/-- **The warnings in their order**: one for each block that renders empty, and one if there are no
blocks. -/
theorem map_message_warnings (manifest : Manifest) (level : Nat) :
    manifest.warnings.map Warning.message =
      (manifest.blockNames.filter (manifest.rendersEmpty level)).map
          (fun name => (Warning.emptyBlock name).message) ++
        if manifest.blockNames = [] then [Warning.noBlocks.message] else [] := by
  have names : manifest.blockNames.filter (manifest.rendersEmpty level) = _ :=
    manifest.filter_rendersEmpty level id
  rw [names, warnings, List.map_append, List.map_map, List.map_map]
  refine congrArg₂ _ rfl ?_
  rw [blockNames, Catalog.names]
  cases manifest.blocks.entries <;> rfl

/-- The code of all blocks ends its last line. -/
theorem endsLine_joinTexts (level : Nat) (some : joinSections (manifest.texts level) ≠ "") :
    EndsLine (joinSections (manifest.texts level)) := by
  refine endsLine_joinSections ?_ some
  intro text member shown
  obtain ⟨entry, _, rfl⟩ := List.mem_map.1 member
  exact BlockSpec.endsLine_text _ _ (mt (BlockSpec.text_eq_empty_iff _ _ _).2 shown)

/-- **The warnings tell what the code leaves out**: the summary of a manifest and the code of all
its blocks, at any level, agree on what renders nothing. -/
theorem summarize_agrees (manifest : Manifest) (path : String) (level : Option Nat) :
    ∃ generation, manifest.generate [] level = .ok generation ∧
      manifest.AgreeOnEmpty (level.getD manifest.settings.baseIndent) (manifest.summarize path)
        generation := by
  refine ⟨_, manifest.generate_all level, ?_, ?_, ?_, ?_, ?_, ?_, ?_⟩
  · intro name block built
    obtain ⟨spec, member, rfl⟩ := exists_of_build? built
    rw [message_mem_warnings_iff, emptyBlock_mem_warnings_iff member, render_build_eq_empty_iff]
  · intro name block built
    obtain ⟨spec, member, rfl⟩ := exists_of_build? built
    rw [render_build_eq_empty_iff]
    exact generate_without_iff _ member
  · exact exists_sections _
  · exact manifest.map_message_warnings _
  · rw [message_mem_warnings_iff, noBlocks_mem_warnings_iff]
  · rw [code_collect_all, code_empty_iff, all_warned_iff]
    refine (or_iff_left_of_imp ?_).symm
    intro none entry member
    have nothing : manifest.blocks.entries = [] := List.map_eq_nil_iff.1 none
    rw [nothing] at member
    cases member
  · exact endsLine_joinTexts _

/-- Empty blocks in front and behind, and in between blocks that only have an empty line: a scope
with nothing to it, and an empty statement under an indentation without width. -/
def hollow : Manifest where
  settings := { indent := some (.spaces 0) }
  blocks := ⟨[("front", {}), ("scope", { nodes := [.scope "" none []] }),
    ("line", { nodes := [.statement ""] }), ("behind", {})], by decide⟩

theorem summarize_hollow :
    (∃ block, hollow.build? "front" = some block ∧ block.render 3 = .ok "" ∧
        (Warning.emptyBlock "front").message ∈ (hollow.summarize "stanza.toml").warnings) ∧
      (∃ block, hollow.build? "scope" = some block ∧ block.render 3 = .ok "\n" ∧
        (Warning.emptyBlock "scope").message ∉ (hollow.summarize "stanza.toml").warnings) ∧
      ∃ generation, hollow.generate [] (some 3) = .ok generation ∧ generation.code = "\n\n\n" ∧
        EndsLine generation.code ∧
        ((hollow.without "front").generate [] (some 3)).map Generation.code =
          .ok generation.code ∧
        ((hollow.without "scope").generate [] (some 3)).map Generation.code ≠
          .ok generation.code := by
  obtain ⟨generation, came, agree⟩ := summarize_agrees hollow "stanza.toml" (some 3)
  have code : (hollow.generate [] (some 3)).toOption.map Generation.code = some "\n\n\n" := by
    decide +kernel
  rw [came] at code
  have lines : generation.code = "\n\n\n" := Option.some.inj code
  have line : (Except.ok "\n" : Except RenderError String) ≠ .ok "" := nofun
  refine ⟨⟨_, rfl, rfl, (agree.warned_iff "front" _ rfl).2 rfl⟩,
    ⟨_, rfl, rfl, mt (agree.warned_iff "scope" _ rfl).1 line⟩, generation, came, lines, ?_,
    (agree.traceless_iff "front" _ rfl).2 rfl, mt (agree.traceless_iff "scope" _ rfl).1 line⟩
  exact agree.code_ends (by rw [lines]; decide)

end Manifest

end CodeBlocks
