/-
**The grammar of TOML.**

Values and lines are read from tokens.  Each reader answers what it read and what follows, together
with the fact that fewer tokens follow; readers of nested values end because of that, and because
the depth of nesting is bounded.

Main definitions:

* `CodeBlocks.Toml.Parsed` — what was read, and the fewer tokens that follow;
* `CodeBlocks.Toml.readKey`, `CodeBlocks.Toml.readValue`, `CodeBlocks.Toml.readPair` — keys, values
  and pairs;
* `CodeBlocks.Toml.Line`, `CodeBlocks.Toml.readLines` — the lines of a document.
-/
import CodeBlocks.Toml.Scalar
import CodeBlocks.Toml.Table
import CodeBlocks.Toml.Token

set_option relaxedAutoImplicit false
set_option autoImplicit false

namespace CodeBlocks.Toml

open Text (Span)

/-- **What was read from tokens**, and the fewer tokens that follow. -/
structure Parsed (α : Type) (tokens : List Token) where
  value : α
  rest : List Token
  shorter : rest.length < tokens.length

/-- The limit on the nesting of arrays and inline tables, and on the parts of a dotted key. -/
def depthLimit : Nat := 80

/-! ### Tokens that carry nothing -/

def skipBlank : List Token → List Token
  | ⟨.blank _, _⟩ :: tokens => tokens
  | tokens => tokens

def Token.isVoid (token : Token) : Bool :=
  match token.kind with
  | .blank _ | .comment | .lineEnd => true
  | _ => false

def skipVoid (tokens : List Token) : List Token := tokens.dropWhile Token.isVoid

theorem skipBlank_length (tokens : List Token) : (skipBlank tokens).length ≤ tokens.length := by
  fun_cases skipBlank tokens <;> simp

theorem skipVoid_length (tokens : List Token) : (skipVoid tokens).length ≤ tokens.length :=
  (List.dropWhile_sublist _).length_le

/-- The tokens without a gap in front: a blank, and where the gap may spread over lines, also
comments and line ends. -/
def skipGap (spread : Bool) (tokens : List Token) : List Token :=
  if spread then skipVoid tokens else skipBlank tokens

theorem skipGap_length (spread : Bool) (tokens : List Token) :
    (skipGap spread tokens).length ≤ tokens.length := by
  cases spread
  · exact skipBlank_length tokens
  · exact skipVoid_length tokens

/-- The end of a line: an optional blank, an optional comment, and a line end or the end of the
text. -/
def readLineEnd (tokens : List Token) : Except SyntaxFault (List Token) :=
  match skipBlank tokens with
  | [] | [⟨.comment, _⟩] => .ok []
  | ⟨.lineEnd, _⟩ :: rest => .ok rest
  | ⟨.comment, _⟩ :: ⟨.lineEnd, _⟩ :: rest => .ok rest
  | _ => .error .expectedLineEnd

theorem readLineEnd_length {tokens rest : List Token} (h : readLineEnd tokens = .ok rest) :
    rest.length ≤ tokens.length := by
  have bound := skipBlank_length tokens
  rw [readLineEnd] at h
  split at h
  case h_1 =>
    obtain rfl := Except.ok.inj h
    exact Nat.zero_le _
  case h_2 =>
    obtain rfl := Except.ok.inj h
    exact Nat.zero_le _
  case h_3 shape =>
    obtain rfl := Except.ok.inj h
    rw [shape, List.length_cons] at bound
    omega
  case h_4 shape =>
    obtain rfl := Except.ok.inj h
    rw [shape, List.length_cons, List.length_cons] at bound
    omega
  case h_5 => cases h

/-! ### Keys -/

def isKeyChar (c : Char) : Bool := c.isAlphanum || c = '_' || c = '-'

def Token.asKey? (token : Token) : Option Key :=
  match token.kind with
  | .quoted text false => some ⟨text, token.span⟩
  | .bare text => if text.toList.all isKeyChar then some ⟨text, token.span⟩ else none
  | _ => none

/-- **A key with its path.** -/
def readKey (tokens : List Token) : Except SyntaxFault (Parsed (List Key × Key) tokens) :=
  match h : skipBlank tokens with
  | [] => .error .expectedKey
  | token :: rest =>
    have atMost := skipBlank_length tokens
    have more := skipBlank_length rest
    match token.asKey? with
    | none => .error .expectedKey
    | some key =>
      match h' : skipBlank rest with
      | ⟨.dot, _⟩ :: rest' =>
        have : rest'.length < tokens.length := by
          simp [h] at atMost; simp [h'] at more; omega
        do
          let next ← readKey rest'
          return ⟨(key :: next.value.1, next.value.2), next.rest, by
            have := next.shorter; omega⟩
      | after => .ok ⟨([], key), after, by simp [h] at atMost; simp [h'] at more; omega⟩
termination_by tokens.length

/-- A key whose path is not too long. -/
def readBoundedKey (tokens : List Token) : Except SyntaxFault (Parsed (List Key × Key) tokens) := do
  let found ← readKey tokens
  if depthLimit ≤ found.value.1.length then .error .tooDeep else return found

/-! ### Values -/

/-- The characters of a part of a bare value: a bare run or a point. -/
def Token.barePart? (token : Token) : Option (List Char) :=
  match token.kind with
  | .dot => some ['.']
  | .bare text => some text.toList
  | _ => none

/-- **How a bare value goes on** that has come to a place: the further parts with the blanks between
them, where it stops, and what follows. -/
def bareTail (span : Span) : List Token → List Char × Span × List Token
  | ⟨.blank blank, place⟩ :: token :: rest =>
    match token.barePart? with
    | some part =>
      let (text, more) := bareTail (span.to token.span) rest
      (blank.toList ++ part ++ text, more)
    | none => ([], span, ⟨.blank blank, place⟩ :: token :: rest)
  | token :: rest =>
    match token.barePart? with
    | some part =>
      let (text, more) := bareTail (span.to token.span) rest
      (part ++ text, more)
    | none => ([], span, token :: rest)
  | [] => ([], span, [])

theorem length_bareTail_le (span : Span) (tokens : List Token) :
    (bareTail span tokens).2.2.length ≤ tokens.length := by
  fun_induction bareTail span tokens <;> simp_all <;> omega

/-- A bare value.  All of its text has to be one scalar; only some scalars have room for a blank. -/
def readScalar (text : String) (span : Span) (tokens rest : List Token)
    (shorter : rest.length < tokens.length) : Except SyntaxFault (Parsed Item tokens) :=
  let tail := bareTail span rest
  match Scalar.read? (text.toList ++ tail.1) with
  | some scalar => .ok ⟨.scalar scalar tail.2.1, tail.2.2,
      Nat.lt_of_le_of_lt (length_bareTail_le span rest) shorter⟩
  | none => .error .badScalar

/-- What is read after an opening bracket or brace: the parts, the place of the closing one, and
what follows. -/
abbrev Enclosed (α : Type) (tokens : List Token) : Type := Parsed (List α × Span) tokens

mutual

/-- **A value**, in which arrays and inline tables may still nest to the given depth. -/
def readValue (depth : Nat) (tokens : List Token) : Except SyntaxFault (Parsed Item tokens) :=
  match tokens, depth with
  | [], _ => .error .expectedValue
  | ⟨.quoted text _, span⟩ :: rest, _ =>
    .ok ⟨.scalar (.text text) span, rest, by simp⟩
  | ⟨.bare text, span⟩ :: rest, _ => readScalar text span _ rest (by simp)
  | ⟨.openBracket, _⟩ :: _, 0 => .error .tooDeep
  | ⟨.openBracket, span⟩ :: rest, depth + 1 => do
    let inner ← readElements depth rest
    let (items, close) := inner.value
    return ⟨.array items false (span.to close), inner.rest, by
      have := inner.shorter; simp; omega⟩
  | ⟨.openBrace, _⟩ :: _, 0 => .error .tooDeep
  | ⟨.openBrace, span⟩ :: rest, depth + 1 => do
    let inner ← readPairs depth rest
    let (pairs, close) := inner.value
    let table ← Table.insertAll ⟨.inline, []⟩ pairs
    return ⟨.table table (span.to close), inner.rest, by
      have := inner.shorter; simp; omega⟩
  | _ :: _, _ => .error .expectedValue
termination_by 3 * tokens.length

/-- The elements of an array after its opening bracket, and the place of the closing one.  A comma
may stand after the last element. -/
def readElements (depth : Nat) (tokens : List Token) :
    Except SyntaxFault (Enclosed Item tokens) :=
  have atMost := skipVoid_length tokens
  match h : skipVoid tokens with
  | ⟨.closeBracket, close⟩ :: rest => .ok ⟨([], close), rest, by simp [h] at atMost; omega⟩
  | start => do
    have : start.length ≤ tokens.length := h ▸ atMost
    let first ← readValue depth start
    have := first.shorter
    have more := skipVoid_length first.rest
    match h' : skipVoid first.rest with
    | ⟨.comma, _⟩ :: rest =>
      have : rest.length < tokens.length := by simp [h'] at more; omega
      let others ← readElements depth rest
      return ⟨(first.value :: others.value.1, others.value.2), others.rest, by
        have := others.shorter; omega⟩
    | ⟨.closeBracket, close⟩ :: rest =>
      return ⟨([first.value], close), rest, by simp [h'] at more; omega⟩
    | _ => .error .expectedPunctuation
termination_by 3 * tokens.length + 2

/-- A key, an equals sign and a value.  In a pair that may spread over lines, comments and line
ends can stand around the equals sign. -/
def readPair (spread : Bool) (depth : Nat) (tokens : List Token) :
    Except SyntaxFault (Parsed Pair tokens) := do
  let key ← readBoundedKey tokens
  have := key.shorter
  have atMost := skipGap_length spread key.rest
  match h : skipGap spread key.rest with
  | ⟨.equals, _⟩ :: rest =>
    have more := skipGap_length spread rest
    have : (skipGap spread rest).length < tokens.length := by simp [h] at atMost; omega
    let found ← readValue depth (skipGap spread rest)
    return ⟨⟨key.value.1, key.value.2, found.value⟩, found.rest, by
      have := found.shorter; omega⟩
  | _ => .error .expectedPunctuation
termination_by 3 * tokens.length + 1

/-- The pairs of an inline table after its opening brace, and the place of the closing one.  They
may spread over lines, and a comma may stand after the last one. -/
def readPairs (depth : Nat) (tokens : List Token) : Except SyntaxFault (Enclosed Pair tokens) :=
  have atMost := skipVoid_length tokens
  match h : skipVoid tokens with
  | ⟨.closeBrace, close⟩ :: rest => .ok ⟨([], close), rest, by simp [h] at atMost; omega⟩
  | start => do
    have : start.length ≤ tokens.length := h ▸ atMost
    let first ← readPair true depth start
    have := first.shorter
    have more := skipVoid_length first.rest
    match h' : skipVoid first.rest with
    | ⟨.comma, _⟩ :: rest =>
      have : rest.length < tokens.length := by simp [h'] at more; omega
      let others ← readPairs depth rest
      return ⟨(first.value :: others.value.1, others.value.2), others.rest, by
        have := others.shorter; omega⟩
    | ⟨.closeBrace, close⟩ :: rest =>
      return ⟨([first.value], close), rest, by simp [h'] at more; omega⟩
    | _ => .error .expectedPunctuation
termination_by 3 * tokens.length + 2

end

/-! ### Lines -/

/-- **A line of a document** that says something. -/
inductive Line where
  | pair (pair : Pair)
  | header (header : Header)

def readHeader (element : Bool) (start : Span) (tokens : List Token) :
    Except SyntaxFault (Parsed Line tokens) := do
  let key ← readBoundedKey tokens
  have := key.shorter
  let header (close : Span) : Line :=
    .header ⟨key.value.1, key.value.2, element, start.to close⟩
  match element, h : key.rest with
  | true, ⟨.closeBracket, _⟩ :: ⟨.closeBracket, close⟩ :: rest =>
    return ⟨header close, rest, by simp [h] at this; omega⟩
  | false, ⟨.closeBracket, close⟩ :: rest =>
    return ⟨header close, rest, by simp [h] at this; omega⟩
  | _, _ => .error .expectedPunctuation

/-- One line, without its end. -/
def readLine (tokens : List Token) : Except SyntaxFault (Parsed Line tokens) :=
  match tokens with
  | ⟨.openBracket, start⟩ :: ⟨.openBracket, _⟩ :: rest => do
    let found ← readHeader true start rest
    return ⟨found.value, found.rest, by have := found.shorter; simp; omega⟩
  | ⟨.openBracket, start⟩ :: rest => do
    let found ← readHeader false start rest
    return ⟨found.value, found.rest, by have := found.shorter; simp; omega⟩
  | tokens => do
    let found ← readPair false depthLimit tokens
    return ⟨.pair found.value, found.rest, found.shorter⟩

/-- **The lines of a document.** -/
def readLines (tokens : List Token) : Except SyntaxFault (List Line) :=
  have atMost := skipVoid_length tokens
  match h : skipVoid tokens with
  | [] => .ok []
  | start => do
    let first ← readLine start
    match h' : readLineEnd first.rest with
    | .error fault => .error fault
    | .ok rest =>
      have : rest.length < tokens.length := by
        have := readLineEnd_length h'
        have := first.shorter
        rw [h] at atMost
        omega
      return first.value :: (← readLines rest)
termination_by tokens.length

end CodeBlocks.Toml
