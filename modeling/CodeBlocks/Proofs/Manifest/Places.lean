/-
**Where a refused draft is pointed at.**

A fault of a draft points at a name in the text.  The name is searched for: the name of a block in
its header, and the name of a dialect behind its key, each in one of two spellings, and the first
place where the preferred one occurs is taken.  The search does not tell a header from a comment
with the same characters, so text in front of a manifest, such as a comment, can draw the place to
itself.  Here it is said exactly when it does, and that nothing else of the fault depends on such
text.

Main definitions:

* `CodeBlocks.Spelling`, `CodeBlocks.ManifestFault.spellings` — the ways in which a text can write
  the name that a fault is about;
* `CodeBlocks.ManifestFault.locatedIn` — a fault, with the place that a text gives it;
* `CodeBlocks.Shadows` — text in front that draws the place to itself.

Main results:

* `CodeBlocks.firstPlace?_append_iff` — **a place moves with its text unless it is shadowed**;
* `CodeBlocks.Draft.admit_locatedIn` — another text changes the place of a fault at most;
* `CodeBlocks.Draft.admit_behind` — **the fault of a draft behind other text**;
* `CodeBlocks.Manifest.parse_shadowed` — a comment that a fault points into.
-/
import CodeBlocks.Manifest.Reading
import CodeBlocks.Proofs.Manifest.Admission
import CodeBlocks.Proofs.Text.Occurrences

set_option relaxedAutoImplicit false
set_option autoImplicit false

namespace CodeBlocks

open Text

/-! ### Spellings -/

/-- **A way to write a name into a text**: a pattern, and which of its bytes are the name. -/
structure Spelling where
  pattern : List Char
  offset : Nat
  length : Nat

def Spelling.place? (source : List Char) (spelling : Spelling) : Option Span :=
  (indexOf? spelling.pattern source).map fun start =>
    Span.ofLength (start + spelling.offset) spelling.length

/-- **The place of the name in the first spelling that occurs.** -/
def firstPlace? (source : List Char) (spellings : List Spelling) : Option Span :=
  spellings.findSome? (Spelling.place? source)

theorem firstPlace?_pair (source : List Char) (first second : Spelling) :
    firstPlace? source [first, second] = (first.place? source <|> second.place? source) := by
  rw [firstPlace?, List.findSome?_cons]
  cases first.place? source <;> simp

/-- **Text in front shadows a place**: one of the spellings begins in it, and none that is preferred
to that one occurs behind. -/
def Shadows (front back : List Char) (spellings : List Spelling) : Prop :=
  ∃ preferred spelling others, spellings = preferred ++ spelling :: others ∧
    BeginsIn spelling.pattern front back ∧ ∀ other ∈ preferred, ¬ other.pattern <:+: back

section Shadows

variable {front back : List Char} {spelling : Spelling} {spellings : List Spelling}

theorem Spelling.place?_eq_none_iff {source : List Char} :
    spelling.place? source = none ↔ ¬ spelling.pattern <:+: source := by
  rw [place?, Option.map_eq_none_iff, indexOf?_eq_none_iff]

theorem Spelling.place?_append (behind : ¬ BeginsIn spelling.pattern front back) :
    spelling.place? (front ++ back) =
      (spelling.place? back).map (Span.moved (byteCount front)) := by
  rw [place?, place?, indexOf?_append_of_not_beginsIn behind, Option.map_map, Option.map_map]
  congr 1
  funext start
  simp only [Function.comp_apply]
  rw [Span.moved_ofLength, Nat.add_assoc]

theorem le_start_of_firstPlace? {source : List Char} {span : Span} {least : Nat}
    (found : firstPlace? source spellings = some span)
    (all : ∀ spelling ∈ spellings, least ≤ spelling.offset) : least ≤ span.start := by
  obtain ⟨spelling, member, placed⟩ := List.exists_of_findSome?_eq_some found
  obtain ⟨start, _, rfl⟩ := Option.map_eq_some_iff.1 placed
  exact Nat.le_trans (all spelling member) (Nat.le_add_left _ _)

theorem not_shadows_nil : ¬ Shadows front back [] := by
  rintro ⟨preferred, spelling, others, split, _⟩
  simp at split

theorem shadows_cons_iff :
    Shadows front back (spelling :: spellings) ↔
      BeginsIn spelling.pattern front back ∨
        ¬ spelling.pattern <:+: back ∧ Shadows front back spellings := by
  constructor
  · rintro ⟨preferred, first, others, split, begins, absent⟩
    cases preferred with
    | nil =>
        obtain ⟨rfl, rfl⟩ := List.cons.inj split
        exact Or.inl begins
    | cons other preferred =>
        obtain ⟨rfl, rfl⟩ := List.cons.inj split
        refine Or.inr ⟨absent _ (List.mem_cons_self ..), preferred, first, others, rfl, begins, ?_⟩
        intro another member
        exact absent another (List.mem_cons_of_mem _ member)
  · rintro (begins | ⟨missing, preferred, first, others, rfl, begins, absent⟩)
    · exact ⟨[], spelling, spellings, rfl, begins, nofun⟩
    · refine ⟨spelling :: preferred, first, others, rfl, begins, ?_⟩
      intro another member
      rcases List.mem_cons.1 member with rfl | member
      · exact missing
      · exact absent another member

/-- **A place moves with its text unless it is shadowed.**  A preferred spelling must not put the
name further into its pattern than the others do. -/
theorem firstPlace?_append_iff
    (inOrder : spellings.Pairwise fun first second => first.offset ≤ second.offset) :
    firstPlace? (front ++ back) spellings =
        (firstPlace? back spellings).map (Span.moved (byteCount front)) ↔
      ¬ Shadows front back spellings := by
  induction spellings with
  | nil => exact iff_of_true rfl not_shadows_nil
  | cons spelling spellings ih =>
      obtain ⟨least, inOrder⟩ := List.pairwise_cons.1 inOrder
      rw [shadows_cons_iff, firstPlace?, firstPlace?, List.findSome?_cons, List.findSome?_cons]
      by_cases begins : BeginsIn spelling.pattern front back
      · -- What is found in front lies before all that could be found behind.
        refine iff_of_false ?_ (not_not_intro (Or.inl begins))
        obtain ⟨start, near, found⟩ := indexOf?_append_of_beginsIn begins
        have here : spelling.place? (front ++ back) =
            some (Span.ofLength (start + spelling.offset) spelling.length) := by
          rw [Spelling.place?, found, Option.map_some]
        rw [here]
        intro same
        obtain ⟨span, behind, moved⟩ := Option.map_eq_some_iff.1 same.symm
        have whole : firstPlace? back (spelling :: spellings) = some span := by
          rw [firstPlace?, List.findSome?_cons]
          exact behind
        have far : spelling.offset ≤ span.start := by
          refine le_start_of_firstPlace? whole ?_
          intro other member
          rcases List.mem_cons.1 member with rfl | member
          · exact Nat.le_refl _
          · exact least other member
        have starts : byteCount front + span.start = start + spelling.offset :=
          congrArg Span.start moved
        omega
      · rw [Spelling.place?_append begins]
        cases occurs : spelling.place? back with
        | some span =>
            have stands : spelling.pattern <:+: back := by
              by_contra absent
              rw [Spelling.place?_eq_none_iff.2 absent] at occurs
              cases occurs
            refine iff_of_true rfl ?_
            rintro (here | ⟨absent, _⟩)
            · exact begins here
            · exact absent stands
        | none =>
            have absent := Spelling.place?_eq_none_iff.1 occurs
            simp only [begins, absent, not_false_eq_true, true_and, false_or]
            exact ih inOrder

end Shadows

/-! ### The names that faults are about -/

/-- **The ways to write the name of a block**: into a header, without quotation marks or with them.
A name that itself ends with a quotation mark counts as one with them, a byte too early. -/
def blockSpellings (name : List Char) : List Spelling :=
  let plain := "[blocks.".toList ++ name ++ "]".toList
  [⟨plain, if "\"]".toList.isSuffixOf plain then 7 else 8, byteCount name⟩,
    ⟨"[blocks.\"".toList ++ name ++ "\"]".toList, 9, byteCount name⟩]

/-- **The ways to give a dialect**: behind its key, in double quotation marks or in single ones. -/
def dialectSpellings (name : List Char) : List Spelling :=
  let within (mark : Char) : Spelling :=
    ⟨"dialect = ".toList ++ mark :: name ++ [mark], 11, byteCount name⟩
  [within '"', within '\'']

theorem headerSpan?_eq {source name header : List Char} {offset : Nat}
    (fits : byteCount header =
      offset + byteCount name + 1 + if "\"]".toList.isSuffixOf header then 1 else 0) :
    headerSpan? source name header = Spelling.place? source ⟨header, offset, byteCount name⟩ := by
  rw [headerSpan?, Spelling.place?]
  congr 1
  funext start
  dsimp only
  congr 1
  omega

theorem blockNameSpan?_eq (source name : String) :
    blockNameSpan? source name = firstPlace? source.toList (blockSpellings name.toList) := by
  have opening : byteCount "[blocks.".toList = 8 := by decide
  have openingQuoted : byteCount "[blocks.\"".toList = 9 := by decide
  have closing : byteCount "]".toList = 1 := by decide
  have closingQuoted : byteCount "\"]".toList = 2 := by decide
  have quoted : "\"]".toList.isSuffixOf ("[blocks.\"".toList ++ name.toList ++ "\"]".toList) := by
    rw [List.isSuffixOf_iff_suffix]
    exact List.suffix_append _ _
  rw [blockSpellings, firstPlace?_pair, ← headerSpan?_eq, ← headerSpan?_eq]
  · rfl
  · rw [if_pos quoted, byteCount_append, byteCount_append, openingQuoted, closingQuoted]
  · simp only [byteCount_append, opening, closing]
    split <;> omega

theorem dialectSpan?_eq (source name : String) :
    dialectSpan? source name = firstPlace? source.toList (dialectSpellings name.toList) := by
  have start : byteCount "dialect = ".toList = 10 := by decide
  rw [dialectSpellings, firstPlace?_pair]
  simp only [dialectSpan?, Spelling.place?, start, Nat.add_assoc]

/-- **The ways to write the name that a fault is about.** -/
def ManifestFault.spellings : ManifestFault → List Spelling
  | unknownDialect name _ => dialectSpellings name.toList
  | invalidName name _ _ => blockSpellings name.toList
  | invalidNode block _ _ _ => blockSpellings block.toList
  | _ => []

/-- In a preferred spelling the name does not stand further in. -/
theorem ManifestFault.spellings_inOrder (fault : ManifestFault) :
    fault.spellings.Pairwise fun first second => first.offset ≤ second.offset := by
  have blocks : ∀ name : List Char,
      (blockSpellings name).Pairwise fun first second => first.offset ≤ second.offset := by
    intro name
    rw [blockSpellings, List.pairwise_pair]
    dsimp only
    split <;> decide
  cases fault with
  | unknownDialect name span => exact List.pairwise_pair.2 (Nat.le_refl _)
  | invalidName name rule span => exact blocks name.toList
  | invalidNode block path rule span => exact blocks block.toList
  | unreadable path fault => exact List.Pairwise.nil
  | notToml fault => exact List.Pairwise.nil
  | badFields failure => exact List.Pairwise.nil

/-! ### Faults and their places -/

namespace ManifestFault

def place? : ManifestFault → Option Span
  | unknownDialect _ span => span
  | invalidName _ _ span => span
  | invalidNode _ _ _ span => span
  | _ => none

def withPlace (place : Option Span) : ManifestFault → ManifestFault
  | unknownDialect name _ => unknownDialect name place
  | invalidName name rule _ => invalidName name rule place
  | invalidNode block path rule _ => invalidNode block path rule place
  | other => other

/-- **A fault with the place that a text gives it**: the first one where the name is spelled. -/
def locatedIn (source : String) (fault : ManifestFault) : ManifestFault :=
  fault.withPlace (firstPlace? source.toList fault.spellings)

theorem place?_locatedIn (source : String) (fault : ManifestFault) :
    (fault.locatedIn source).place? = firstPlace? source.toList fault.spellings := by
  cases fault <;> rfl

end ManifestFault

/-! ### Drafts under other texts -/

theorem BlockDraft.complaint?_locatedIn (source other name : String) (draft : BlockDraft) :
    draft.complaint? other name =
      (draft.complaint? source name).map (ManifestFault.locatedIn other) := by
  rw [complaint?, complaint?, Option.map_or, Option.map_map, Option.map_map]
  simp only [blockNameSpan?_eq other]
  rfl

theorem Draft.complaint?_locatedIn (source other : String) (draft : Draft) :
    draft.complaint? other = (draft.complaint? source).map (ManifestFault.locatedIn other) := by
  have dialect : draft.settings.dialectFault? other =
      (draft.settings.dialectFault? source).map (ManifestFault.locatedIn other) := by
    rw [Settings.dialectFault?, Settings.dialectFault?]
    cases draft.settings.dialect with
    | none => rfl
    | some name =>
        dsimp only
        rw [dialectSpan?_eq other]
        split <;> rfl
  have blocks : (draft.blocks.entries.findSome? fun entry => entry.2.complaint? other entry.1) =
      (draft.blocks.entries.findSome? fun entry => entry.2.complaint? source entry.1).map
        (ManifestFault.locatedIn other) := by
    rw [List.map_findSome?]
    congr 1
    funext entry
    exact BlockDraft.complaint?_locatedIn source other entry.1 entry.2
  rw [complaint?, complaint?, Option.map_or, dialect, blocks]

/-- **Another text changes the place of a fault at most.** -/
theorem Draft.admit_locatedIn {source : String} {draft : Draft} {fault : ManifestFault}
    (refused : draft.admit source = .error fault) (other : String) :
    draft.admit other = .error (fault.locatedIn other) := by
  have complained := ((draft.admit_decided source).error_iff fault).1 refused
  refine ((draft.admit_decided other).error_iff _).2 ?_
  rw [Draft.complaint?_locatedIn source, complained]
  rfl

/-- **The fault of a draft behind other text**, such as a comment.  It is the same but for its
place, and the place moves with the text exactly if what is in front does not shadow it.  A line in
front does not if none of the spellings is part of it. -/
theorem Draft.admit_behind (front source : String) (draft : Draft) (fault : ManifestFault)
    (refused : draft.admit source = .error fault) :
    ∃ place, draft.admit (front ++ source) = .error (fault.withPlace place) ∧
      (place = fault.place?.map (Span.moved (byteCount front.toList)) ↔
        ¬ Shadows front.toList source.toList fault.spellings) ∧
      ∀ line : String, front = line ++ "\n" →
        (∀ spelling ∈ fault.spellings,
          '\n' ∉ spelling.pattern ∧ ¬ spelling.pattern <:+: line.toList) →
        place = fault.place?.map (Span.moved (byteCount front.toList)) := by
  have here : fault.place? = firstPlace? source.toList fault.spellings := by
    have same := (Draft.admit_locatedIn refused source).symm.trans refused
    rw [← ManifestFault.place?_locatedIn, Except.error.inj same]
  have moves : firstPlace? (front.toList ++ source.toList) fault.spellings =
      (firstPlace? source.toList fault.spellings).map (Span.moved (byteCount front.toList)) ↔
        ¬ Shadows front.toList source.toList fault.spellings :=
    firstPlace?_append_iff fault.spellings_inOrder
  rw [← here, ← String.toList_append] at moves
  refine ⟨_, Draft.admit_locatedIn refused (front ++ source), moves, ?_⟩
  rintro line rfl absent
  refine moves.2 ?_
  rintro ⟨preferred, spelling, others, split, begins, _⟩
  obtain ⟨oneLine, outside⟩ := absent spelling (by simp [split])
  rw [String.toList_append] at begins
  exact outside ((beginsIn_line_iff oneLine).1 begins)

def Draft.outlandish : Draft where
  settings := { dialect := some "cobol" }

theorem Draft.admit_outlandish :
    Draft.outlandish.admit "dialect = 'cobol'" =
        .error (.unknownDialect "cobol" (some ⟨11, 16⟩)) ∧
      (∀ spelling ∈ dialectSpellings "cobol".toList,
        '\n' ∉ spelling.pattern ∧ ¬ spelling.pattern <:+: "# cobol?".toList) ∧
      Draft.outlandish.admit ("# cobol?" ++ "\n" ++ "dialect = 'cobol'") =
        .error (.unknownDialect "cobol" (some ⟨20, 25⟩)) := by
  have complained : Draft.outlandish.complaint? "dialect = 'cobol'" =
      some (.unknownDialect "cobol" (some ⟨11, 16⟩)) := by decide +kernel
  have refused := ((Draft.admit_decided _ Draft.outlandish).error_iff _).2 complained
  have absent : ∀ spelling ∈ dialectSpellings "cobol".toList,
      '\n' ∉ spelling.pattern ∧ ¬ spelling.pattern <:+: "# cobol?".toList := by decide +kernel
  obtain ⟨place, behind, _, line⟩ :=
    Draft.admit_behind ("# cobol?" ++ "\n") "dialect = 'cobol'" _ _ refused
  obtain rfl := line "# cobol?" rfl absent
  exact ⟨refused, absent, behind⟩

def Manifest.parseFault? (text : String) : Option ManifestFault :=
  match Manifest.parse text with
  | .ok _ => none
  | .error fault => some fault

theorem Manifest.parse_of_parseFault? {text : String} {fault : ManifestFault}
    (found : parseFault? text = some fault) : Manifest.parse text = .error fault := by
  unfold parseFault? at found
  split at found
  case h_1 => cases found
  case h_2 other failed => rw [failed, Option.some.inj found]

/-- **A comment that a fault points into**: it has the characters of the header, so the name is
found there and not in the header behind it. -/
theorem Manifest.parse_shadowed :
    Manifest.parse "[blocks.3x]\n" = .error (.invalidName "3x" .badStart (some ⟨8, 10⟩)) ∧
      Manifest.parse ("# [blocks.3x]\n" ++ "[blocks.3x]\n") =
        .error (.invalidName "3x" .badStart (some ⟨10, 12⟩)) ∧
      some ⟨10, 12⟩ ≠ (some ⟨8, 10⟩).map (Span.moved (byteCount "# [blocks.3x]\n".toList)) := by
  refine ⟨Manifest.parse_of_parseFault? ?_, Manifest.parse_of_parseFault? ?_, ?_⟩
  · decide +kernel
  · decide +kernel
  · decide

end CodeBlocks
