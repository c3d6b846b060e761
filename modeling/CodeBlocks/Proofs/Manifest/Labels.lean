/-
**What labels cover.**

A refused draft is pointed at with a label, and the label should cover the name that the fault is
about.  Its place comes from the first spelling of the name that occurs, and a spelling covers what
stands at its offset.  The name of a block is measured from the end of its header, less a quotation
mark if the header ends with one.  That mark can also be the last character of the name, and then
the label starts a byte too early.

Main definitions:

* `CodeBlocks.TakenForQuoted` — a name that is taken for one in quotation marks.

Main results:

* `CodeBlocks.Spelling.covers_of_place?` — **a spelling covers what stands at its offset**;
* `CodeBlocks.blockLabel_covers_iff` — **which labels of names of blocks cover the name**;
* `CodeBlocks.Manifest.parse_takenForQuoted` — a label that does not.
-/
import CodeBlocks.Proofs.Manifest.Places
import CodeBlocks.Proofs.Text.Coverage

set_option relaxedAutoImplicit false
set_option autoImplicit false

namespace CodeBlocks

open Text

variable {source name : String} {span : Span}

/-! ### Spellings -/

/-- **A spelling covers what stands at its offset**: the part of its pattern that starts there and
has its length. -/
theorem Spelling.covers_of_place? (opening named closing : List Char)
    (found : Spelling.place? source.toList
      ⟨opening ++ named ++ closing, byteCount opening, byteCount named⟩ = some span) :
    span.Covers source (String.ofList named) := by
  obtain ⟨start, occurs, rfl⟩ := Option.map_eq_some_iff.1 found
  obtain ⟨front, back, whole, rfl⟩ := indexOf?_sound occurs
  have covers := Span.covers_between (String.ofList (front ++ opening)) (String.ofList named)
    (String.ofList (closing ++ back))
  rw [← byteCount_toList, ← byteCount_toList, String.toList_ofList, String.toList_ofList,
    byteCount_append] at covers
  have same : String.ofList (front ++ opening) ++ String.ofList named ++
      String.ofList (closing ++ back) = source := by
    rw [← String.ofList_append, ← String.ofList_append, ← String.ofList_toList (s := source), whole]
    simp
  rwa [same] at covers

/-- **The preferred spelling is taken if it occurs**, and else the other one. -/
theorem firstPlace?_pair_eq_some {text : List Char} {first second : Spelling}
    (found : firstPlace? text [first, second] = some span) :
    first.pattern <:+: text ∧ first.place? text = some span ∨
      ¬ first.pattern <:+: text ∧ second.place? text = some span := by
  rw [firstPlace?_pair] at found
  cases preferred : first.place? text with
  | none =>
      rw [preferred] at found
      exact Or.inr ⟨Spelling.place?_eq_none_iff.1 preferred, found⟩
  | some place =>
      rw [preferred] at found
      refine Or.inl ⟨?_, found⟩
      by_contra absent
      rw [Spelling.place?_eq_none_iff.2 absent] at preferred
      cases preferred

/-- The place of a fault is that of the first spelling that occurs. -/
theorem Draft.place?_of_admit {draft : Draft} {fault : ManifestFault}
    (refused : draft.admit source = .error fault) :
    fault.place? = firstPlace? source.toList fault.spellings := by
  have same := (Draft.admit_locatedIn refused source).symm.trans refused
  rw [← ManifestFault.place?_locatedIn, Except.error.inj same]

/-! ### Names of blocks -/

/-- A header without quotation marks ends like one with them if the name ends with such a mark. -/
theorem isSuffixOf_header_iff (name : List Char) :
    "\"]".toList.isSuffixOf ("[blocks.".toList ++ name ++ "]".toList) ↔
      ∃ inner, name = inner ++ ['"'] := by
  rw [List.isSuffixOf_iff_suffix]
  constructor
  · rintro ⟨front, whole⟩
    have shorter : front ++ ['"'] = "[blocks.".toList ++ name := by
      refine (List.append_left_inj [']']).1 ?_
      rw [List.append_assoc]
      exact whole
    rcases List.eq_nil_or_concat name with rfl | ⟨inner, last, rfl⟩
    · have last := congrArg List.getLast? shorter
      simp at last
    · rw [List.concat_eq_append, ← List.append_assoc] at shorter
      obtain rfl : '"' = last := by simpa using (List.append_inj' shorter rfl).2
      exact ⟨inner, List.concat_eq_append⟩
  · rintro ⟨inner, rfl⟩
    exact ⟨"[blocks.".toList ++ inner, by simp⟩

/-- **A name is taken for one in quotation marks**: it ends with such a mark itself, and the text
has it in a header without them. -/
def TakenForQuoted (source name : String) : Prop :=
  (∃ inner, name.toList = inner ++ ['"']) ∧
    "[blocks.".toList ++ name.toList ++ "]".toList <:+: source.toList

/-- The label of a name that is not taken for one in quotation marks covers it. -/
theorem covers_of_not_takenForQuoted (found : blockNameSpan? source name = some span)
    (clear : ¬ TakenForQuoted source name) : span.Covers source name := by
  rw [← String.ofList_toList (s := name)]
  rw [blockNameSpan?_eq] at found
  rcases firstPlace?_pair_eq_some found with ⟨occurs, plain⟩ | ⟨_, quoted⟩
  · have other : ¬ "\"]".toList.isSuffixOf ("[blocks.".toList ++ name.toList ++ "]".toList) := by
      rw [isSuffixOf_header_iff]
      exact fun ends => clear ⟨ends, occurs⟩
    rw [if_neg other] at plain
    exact Spelling.covers_of_place? "[blocks.".toList name.toList "]".toList plain
  · exact Spelling.covers_of_place? "[blocks.\"".toList name.toList "\"]".toList quoted

/-- **The label of a name that is taken for one in quotation marks** starts at the dot in front, and
leaves out the mark at the end. -/
theorem covers_of_takenForQuoted (found : blockNameSpan? source name = some span)
    (taken : TakenForQuoted source name) :
    ∃ inner, name = inner ++ "\"" ∧ span.Covers source ("." ++ inner) := by
  obtain ⟨⟨inner, ends⟩, occurs⟩ := taken
  refine ⟨String.ofList inner, ?_, ?_⟩
  · rw [← String.ofList_toList (s := name), ends, String.ofList_append]
  rw [blockNameSpan?_eq] at found
  rcases firstPlace?_pair_eq_some found with ⟨_, plain⟩ | ⟨absent, _⟩
  · -- The mark at the end of the name is as long as the dot in front of it.
    have size : byteCount (inner ++ ['"']) = byteCount ('.' :: inner) := by
      rw [byteCount_append, byteCount_cons, byteCount_cons, byteCount_nil, Nat.add_zero,
        Nat.add_comm]
      rfl
    have pattern : "[blocks.".toList ++ (inner ++ ['"']) ++ "]".toList =
        "[blocks".toList ++ ('.' :: inner) ++ "\"]".toList := by simp
    rw [if_pos ((isSuffixOf_header_iff _).2 ⟨inner, ends⟩), ends, pattern, size] at plain
    have covers := Spelling.covers_of_place? "[blocks".toList ('.' :: inner) "\"]".toList plain
    rwa [← List.singleton_append, String.ofList_append] at covers
  · exact absurd occurs absent

/-- **Which labels of names of blocks cover the name**, whatever the name and the text.  A label is
as long as the name.  It covers the name unless that is taken for one in quotation marks, and then
it covers the dot in front and the name without the mark at its end.  The labels of refused drafts
are among these. -/
theorem blockLabel_covers_iff (source name : String) (span : Span)
    (found : blockNameSpan? source name = some span ∨
      ∃ draft rule, Draft.admit source draft = .error (.invalidName name rule (some span))) :
    span.length = name.utf8ByteSize ∧
      (span.Covers source name ↔ ¬ TakenForQuoted source name) ∧
      (TakenForQuoted source name →
        ∃ inner, name = inner ++ "\"" ∧ span.Covers source ("." ++ inner)) := by
  have found : blockNameSpan? source name = some span := by
    rcases found with found | ⟨draft, rule, refused⟩
    · exact found
    · rw [blockNameSpan?_eq]
      exact (Draft.place?_of_admit refused).symm
  refine ⟨?_, ⟨?_, covers_of_not_takenForQuoted found⟩, covers_of_takenForQuoted found⟩
  · by_cases taken : TakenForQuoted source name
    · obtain ⟨inner, rfl, covers⟩ := covers_of_takenForQuoted found taken
      rw [covers.length_eq, String.utf8ByteSize_append, String.utf8ByteSize_append, Nat.add_comm]
      rfl
    · exact (covers_of_not_takenForQuoted found taken).length_eq
  · intro covers taken
    obtain ⟨inner, rfl, other⟩ := covers_of_takenForQuoted found taken
    -- The one text has a quotation mark more than the other.
    have same := congrArg (List.count '"') (congrArg String.toList (covers.eq other))
    simp at same

/-- A name with letters of two bytes, which the header behind the comment has in quotation marks. -/
theorem blockLabel_wide_letters :
    blockNameSpan? "# für größe\n[blocks.\"größe\"]\n" "größe" = some ⟨24, 31⟩ ∧
      (Span.mk 24 31).length = "größe".utf8ByteSize ∧
      (Span.mk 24 31).Covers "# für größe\n[blocks.\"größe\"]\n" "größe" := by
  have found : blockNameSpan? "# für größe\n[blocks.\"größe\"]\n" "größe" = some ⟨24, 31⟩ := by
    decide +kernel
  obtain ⟨length, covers, _⟩ := blockLabel_covers_iff _ _ _ (Or.inl found)
  refine ⟨found, length, covers.2 ?_⟩
  rintro ⟨⟨inner, ends⟩, _⟩
  have last := congrArg List.getLast? ends
  simp at last

/-- **A label that does not cover the name**: the name has quotation marks of its own, and without
further ones it stands in the header of another block. -/
theorem Manifest.parse_takenForQuoted :
    Manifest.parse "[blocks.\"x\"]\n[blocks.'\"x\"']\n" =
        .error (.invalidName "\"x\"" .badStart (some ⟨7, 10⟩)) ∧
      ¬ (Span.mk 7 10).Covers "[blocks.\"x\"]\n[blocks.'\"x\"']\n" "\"x\"" := by
  refine ⟨Manifest.parse_of_parseFault? (by decide +kernel), ?_⟩
  intro covers
  have dotted : "[blocks.\"x\"]\n[blocks.'\"x\"']\n".toUTF8.extract 7 10 = ".\"x".toUTF8 := by
    decide +kernel
  exact absurd (covers.bytes.symm.trans dotted) (by decide +kernel)

end CodeBlocks
