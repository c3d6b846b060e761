/-
**The places of refused dialects and nodes.**

The place that a fault points at is found by searching the text, so it can be said in terms of the
text alone.  A name stands in the text in a *form*, between an opening and a closing part, and of
two forms one is preferred wherever it stands.  For an unknown dialect these are the key with the
name in double and in single quotation marks, and for a node the header of its block without and
with quotation marks.

A header is measured from its end, and a name that ends with a quotation mark of its own would be
measured wrongly.  A node is only asked about in a block with a proper name, which has no such mark.

Main definitions:

* `CodeBlocks.Form` — a form in which names are written;
* `CodeBlocks.Form.MarkedBy` — a span marks the first name in a form;
* `CodeBlocks.Locates` — a place, if there is one, marks a name in one of two forms.

Main results:

* `CodeBlocks.locates_of_firstPlace?` — **what the search for two forms finds**;
* `CodeBlocks.Draft.isBlockName_of_invalidNode` — nodes are refused in blocks with proper names;
* `CodeBlocks.Draft.admit_locates` — **the places of refused dialects and nodes**.
-/
import CodeBlocks.Proofs.Manifest.Labels

set_option relaxedAutoImplicit false
set_option autoImplicit false

namespace CodeBlocks

open Text

/-! ### Forms -/

/-- **A form in which names are written**: what stands directly in front, and what directly
behind. -/
structure Form where
  opening : String
  closing : String

namespace Form

def OccursIn (form : Form) (name source : String) : Prop :=
  ∃ front back, source = front ++ form.opening ++ name ++ form.closing ++ back

/-- **A span marks the first name in a form**: it covers the name between the two parts of the form,
and the name stands between them nowhere earlier. -/
structure MarkedBy (form : Form) (name source : String) (span : Span) : Prop where
  covers : span.Covers source name
  between : ∃ front back, source = front ++ form.opening ++ name ++ form.closing ++ back ∧
    span = Span.ofLength (front ++ form.opening).utf8ByteSize name.utf8ByteSize
  first : ∀ front back, source = front ++ form.opening ++ name ++ form.closing ++ back →
    span.start ≤ (front ++ form.opening).utf8ByteSize

def spelling (form : Form) (name : String) : Spelling :=
  ⟨form.opening.toList ++ name.toList ++ form.closing.toList, byteCount form.opening.toList,
    byteCount name.toList⟩

variable {form : Form} {name source : String} {span : Span}

theorem occursIn_iff :
    form.OccursIn name source ↔ (form.spelling name).pattern <:+: source.toList := by
  constructor
  · rintro ⟨front, back, rfl⟩
    exact ⟨front.toList, back.toList, by simp [spelling]⟩
  · rintro ⟨front, back, whole⟩
    refine ⟨String.ofList front, String.ofList back, String.toList_inj.1 ?_⟩
    rw [← whole]
    simp [spelling]

/-- **The place of a spelling marks the first name in its form.** -/
theorem markedBy_of_place? (found : (form.spelling name).place? source.toList = some span) :
    form.MarkedBy name source span := by
  have covers : span.Covers source name := by
    rw [← String.ofList_toList (s := name)]
    exact Spelling.covers_of_place? form.opening.toList name.toList form.closing.toList found
  obtain ⟨start, occurs, rfl⟩ := Option.map_eq_some_iff.1 found
  refine ⟨covers, ?_, ?_⟩
  · obtain ⟨front, back, whole, rfl⟩ := indexOf?_sound occurs
    refine ⟨String.ofList front, String.ofList back, ?_, ?_⟩
    · refine String.toList_inj.1 ?_
      rw [whole]
      simp [spelling]
    · rw [← byteCount_toList, ← byteCount_toList, String.toList_append, byteCount_append,
        String.toList_ofList]
      rfl
  · intro front back whole
    have stands : source.toList =
        front.toList ++ (form.spelling name).pattern ++ back.toList := by
      rw [whole]
      simp [spelling]
    have least : start ≤ byteCount front.toList := indexOf?_le occurs stands
    rw [← byteCount_toList, String.toList_append, byteCount_append]
    exact Nat.add_le_add_right least _

end Form

/-! ### Two forms -/

/-- **A place marks a name in one of two forms**, if there is one.  There is one exactly if the text
has the name in one of the forms, and it is in the preferred one if the text has that. -/
structure Locates (preferred other : Form) (name source : String) (place : Option Span) : Prop where
  isSome_iff : place.isSome ↔ preferred.OccursIn name source ∨ other.OccursIn name source
  inPreferred : preferred.OccursIn name source →
    ∃ span, place = some span ∧ preferred.MarkedBy name source span
  inOther : ¬ preferred.OccursIn name source → ∀ span, place = some span →
    other.MarkedBy name source span

/-- **What the search for two forms finds.** -/
theorem locates_of_firstPlace? (preferred other : Form) (name source : String) :
    Locates preferred other name source
      (firstPlace? source.toList [preferred.spelling name, other.spelling name]) := by
  have occurs : preferred.OccursIn name source ↔
      (preferred.spelling name).place? source.toList ≠ none := by
    rw [Form.occursIn_iff, Ne, Spelling.place?_eq_none_iff, not_not]
  have occursOther : other.OccursIn name source ↔
      (other.spelling name).place? source.toList ≠ none := by
    rw [Form.occursIn_iff, Ne, Spelling.place?_eq_none_iff, not_not]
  rw [firstPlace?_pair]
  cases found : (preferred.spelling name).place? source.toList with
  | some span =>
      have here : preferred.OccursIn name source := occurs.2 (by simp [found])
      refine ⟨iff_of_true rfl (Or.inl here), ?_, fun absent => absurd here absent⟩
      exact fun _ => ⟨span, rfl, Form.markedBy_of_place? found⟩
  | none =>
      have absent : ¬ preferred.OccursIn name source := fun here => occurs.1 here found
      refine ⟨?_, fun here => absurd here absent, ?_⟩
      · rw [occursOther, Option.isSome_iff_ne_none]
        exact (or_iff_right absent).symm
      · exact fun _ span there => Form.markedBy_of_place? there

/-! ### Dialects and headers -/

def dialectInDouble : Form := ⟨"dialect = \"", "\""⟩

def dialectInSingle : Form := ⟨"dialect = '", "'"⟩

def plainHeader : Form := ⟨"[blocks.", "]"⟩

def quotedHeader : Form := ⟨"[blocks.\"", "\"]"⟩

theorem dialectSpellings_eq (name : String) :
    dialectSpellings name.toList =
      [dialectInDouble.spelling name, dialectInSingle.spelling name] := by
  have double : byteCount dialectInDouble.opening.toList = 11 := by decide
  have single : byteCount dialectInSingle.opening.toList = 11 := by decide
  rw [dialectSpellings, Form.spelling, Form.spelling, double, single]
  simp [dialectInDouble, dialectInSingle]

/-- A name without quotation marks is measured right in both headers. -/
theorem blockSpellings_eq {name : String} (clear : '"' ∉ name.toList) :
    blockSpellings name.toList = [plainHeader.spelling name, quotedHeader.spelling name] := by
  have ends : ¬ "\"]".toList.isSuffixOf ("[blocks.".toList ++ name.toList ++ "]".toList) := by
    rw [isSuffixOf_header_iff]
    rintro ⟨inner, whole⟩
    rw [whole] at clear
    simp at clear
  rw [blockSpellings, if_neg ends]
  rfl

theorem IsBlockName.quote_not_mem {name : String} (isName : IsBlockName name) :
    '"' ∉ name.toList := by
  have noLetter : ¬ IsLetter '"' := by
    unfold IsLetter
    decide
  have noDigit : ¬ IsDigit '"' := by
    unfold IsDigit
    decide
  obtain ⟨first, others, whole, start, parts⟩ := isName
  rw [whole]
  intro member
  rcases List.mem_cons.1 member with rfl | member
  · simp [noLetter] at start
  · simpa [noLetter, noDigit] using parts _ member

/-! ### Refused drafts -/

/-- **Nodes are refused in blocks with proper names.** -/
theorem Draft.isBlockName_of_invalidNode {source block : String} {draft : Draft} {path : NodePath}
    {rule : NodeFault} {place : Option Span}
    (refused : draft.admit source = .error (.invalidNode block path rule place)) :
    IsBlockName block := by
  have complained := ((draft.admit_decided source).error_iff _).1 refused
  rw [Draft.complaint?, Option.or_eq_some_iff] at complained
  rcases complained with dialect | ⟨_, blocks⟩
  · -- What is wrong with the settings is no fault of a node.
    unfold Settings.dialectFault? at dialect
    split at dialect
    case h_1 => cases dialect
    case h_2 => split at dialect <;> cases dialect
  · obtain ⟨⟨name, inner⟩, _, broken⟩ := List.exists_of_findSome?_eq_some blocks
    by_cases isName : IsBlockName name
    · obtain ⟨_, _, _, same, _⟩ := BlockDraft.invalidNode_of_complaint? broken isName
      cases same
      exact isName
    · obtain ⟨_, _, same⟩ := BlockDraft.invalidName_of_complaint? broken isName
      cases same

/-- **The places of refused dialects and nodes.**  A dialect that is not known is marked between
quotation marks behind its key, in double ones if the text has it in these.  A node that breaks a
rule is marked by the name of its block in the header, without quotation marks if the text has it
so.  There is no place exactly if the text has neither. -/
theorem Draft.admit_locates (source : String) (draft : Draft) :
    (∀ name place, draft.admit source = .error (.unknownDialect name place) →
        Locates dialectInDouble dialectInSingle name source place) ∧
      ∀ block path rule place, draft.admit source = .error (.invalidNode block path rule place) →
        Locates plainHeader quotedHeader block source place := by
  constructor
  · intro name place refused
    have found : place = firstPlace? source.toList (dialectSpellings name.toList) :=
      Draft.place?_of_admit refused
    rw [found, dialectSpellings_eq]
    exact locates_of_firstPlace? dialectInDouble dialectInSingle name source
  · intro block path rule place refused
    have found : place = firstPlace? source.toList (blockSpellings block.toList) :=
      Draft.place?_of_admit refused
    have clear := (Draft.isBlockName_of_invalidNode refused).quote_not_mem
    rw [found, blockSpellings_eq clear]
    exact locates_of_firstPlace? plainHeader quotedHeader block source

/-- A draft with a dialect in letters of two bytes, which is not known. -/
def Draft.foreign : Draft where
  settings := { dialect := some "größe" }

def Draft.kindless : Draft where
  blocks := Catalog.empty.insert "a" { nodes := [{}] }

theorem Draft.admit_foreign_kindless :
    Draft.foreign.admit "# dialect = 'größe'\ndialect = \"größe\"\n" =
        .error (.unknownDialect "größe" (some ⟨33, 40⟩)) ∧
      dialectInDouble.MarkedBy "größe" "# dialect = 'größe'\ndialect = \"größe\"\n" ⟨33, 40⟩ ∧
      Draft.kindless.admit "# ü\n[blocks.\"a\"]\n" =
        .error (.invalidNode "a" [0] .noKind (some ⟨14, 15⟩)) ∧
      Locates plainHeader quotedHeader "a" "# ü\n[blocks.\"a\"]\n" (some ⟨14, 15⟩) := by
  have unknown : Draft.foreign.complaint? "# dialect = 'größe'\ndialect = \"größe\"\n" =
      some (.unknownDialect "größe" (some ⟨33, 40⟩)) := by decide +kernel
  have broken : Draft.kindless.complaint? "# ü\n[blocks.\"a\"]\n" =
      some (.invalidNode "a" [0] .noKind (some ⟨14, 15⟩)) := by decide +kernel
  have refused := ((Draft.admit_decided _ Draft.foreign).error_iff _).2 unknown
  have refusedToo := ((Draft.admit_decided _ Draft.kindless).error_iff _).2 broken
  have occurs : dialectInDouble.OccursIn "größe" "# dialect = 'größe'\ndialect = \"größe\"\n" :=
    ⟨"# dialect = 'größe'\n", "\n", by decide +kernel⟩
  obtain ⟨span, same, marked⟩ := ((Draft.admit_locates _ _).1 _ _ refused).inPreferred occurs
  obtain rfl := Option.some.inj same
  exact ⟨refused, marked, refusedToo, (Draft.admit_locates _ _).2 _ _ _ _ refusedToo⟩

end CodeBlocks
