/-
**Tokens of TOML.**

A document is cut into signs of punctuation, blanks, comments, line ends, quoted strings and bare
runs of other characters.  Which bare runs are keys, numbers or dates is decided later, where they
stand.

Main definitions:

* `CodeBlocks.Toml.TokenKind`, `CodeBlocks.Toml.Token` — a token, and where it stands;
* `CodeBlocks.Toml.tokensOf` — the tokens of a text.

Main results:

* `CodeBlocks.Toml.firstToken_rest_length` — each token uses up at least one character.
-/
import CodeBlocks.Text.Span
import CodeBlocks.Toml.Quotation

set_option relaxedAutoImplicit false
set_option autoImplicit false

namespace CodeBlocks.Toml

open Text (Span)

/-! ### Tokens -/

inductive TokenKind where
  | dot
  | equals
  | comma
  | openBracket
  | closeBracket
  | openBrace
  | closeBrace
  | blank (text : String)
  | comment
  | lineEnd
  /-- A string, and whether it was written between triple marks. -/
  | quoted (text : String) (tripled : Bool)
  | bare (text : String)
deriving DecidableEq, Repr

/-- **A token and its place.** -/
structure Token where
  kind : TokenKind
  span : Span
deriving DecidableEq, Repr

/-! ### Cutting a text into tokens -/

/-- Whether a character belongs to a bare run that has started.  A quotation mark does. -/
def isBare (c : Char) : Bool := !".=,[]\x7b\x7d \t#\r\n".toList.contains c

def scanWhile (test : Char → Bool) (pos : Nat) : List Char → Scanned
  | [] => ⟨[], pos, []⟩
  | c :: cs =>
    if test c then (scanWhile test (pos + c.utf8Size) cs).after [c] else ⟨[], pos, c :: cs⟩

/-- A string after its opening mark, as a token. -/
def quotedToken (tripled : Bool) (scanned : Except SyntaxFault Scanned) :
    Except SyntaxFault (TokenKind × Nat × List Char) :=
  scanned.map fun s => (.quoted (String.ofList s.text) tripled, s.stop, s.rest)

/-- A string on several lines, after its opening mark. -/
def quotedLines (scan : Nat → List Char → Except SyntaxFault Scanned) (start : Nat)
    (cs : List Char) : Except SyntaxFault (TokenKind × Nat × List Char) :=
  let (start, cs) := dropFirstLineEnd start cs
  quotedToken true (scan start cs)

/-- **The first token** of a text that starts with `c` at a position: what it is, where it stops,
and what follows it. -/
def firstToken (pos : Nat) (c : Char) (cs : List Char) :
    Except SyntaxFault (TokenKind × Nat × List Char) :=
  match c, cs with
  | '.', cs => .ok (.dot, pos + 1, cs)
  | '=', cs => .ok (.equals, pos + 1, cs)
  | ',', cs => .ok (.comma, pos + 1, cs)
  | '[', cs => .ok (.openBracket, pos + 1, cs)
  | ']', cs => .ok (.closeBracket, pos + 1, cs)
  | '\x7b', cs => .ok (.openBrace, pos + 1, cs)
  | '\x7d', cs => .ok (.closeBrace, pos + 1, cs)
  | '\n', cs => .ok (.lineEnd, pos + 1, cs)
  | '\r', '\n' :: cs => .ok (.lineEnd, pos + 2, cs)
  | '\r', _ => .error .strayCarriageReturn
  | '\'', '\'' :: '\'' :: cs => quotedLines scanMultiLiteral (pos + 3) cs
  | '\'', cs => quotedToken false (scanLiteral (pos + 1) cs)
  | '"', '"' :: '"' :: cs => quotedLines (fun place => scanMultiBasic place false) (pos + 3) cs
  | '"', cs => quotedToken false (scanBasic (pos + 1) cs)
  | '#', cs =>
    let s := scanWhile isPlain (pos + 1) cs
    .ok (.comment, s.stop, s.rest)
  | c, cs =>
    if c = ' ' || c = '\t' then
      let s := scanWhile (fun d => d = ' ' || d = '\t') (pos + 1) cs
      .ok (.blank (String.ofList (c :: s.text)), s.stop, s.rest)
    else
      let s := scanWhile isBare (pos + c.utf8Size) cs
      .ok (.bare (String.ofList (c :: s.text)), s.stop, s.rest)

/-! ### Tokens use up characters -/

theorem scanWhile_rest_length (test : Char → Bool) (pos : Nat) (cs : List Char) :
    (scanWhile test pos cs).rest.length ≤ cs.length := by
  fun_induction scanWhile test pos cs with
  | case1 => simp
  | case2 pos c cs _ ih => simp; omega
  | case3 => simp

theorem dropFirstLineEnd_length (start : Nat) (cs : List Char) :
    (dropFirstLineEnd start cs).2.length ≤ cs.length := by
  fun_cases dropFirstLineEnd start cs with
  | case1 cs => simp
  | case2 cs => simp; omega
  | case3 => simp

theorem quotedToken_rest_length {tripled : Bool} {scanned : Except SyntaxFault Scanned}
    {found : TokenKind × Nat × List Char} {bound : Nat}
    (h : quotedToken tripled scanned = .ok found)
    (ih : ∀ s, scanned = .ok s → s.rest.length ≤ bound) : found.2.2.length ≤ bound := by
  cases scanned with
  | error fault => cases h
  | ok s =>
    cases h
    exact ih s rfl

theorem quotedLines_rest_length {scan : Nat → List Char → Except SyntaxFault Scanned} {start : Nat}
    {cs : List Char} {found : TokenKind × Nat × List Char}
    (h : quotedLines scan start cs = .ok found)
    (ih : ∀ {place : Nat} {ds : List Char} {s : Scanned},
      scan place ds = .ok s → s.rest.length ≤ ds.length) :
    found.2.2.length ≤ cs.length :=
  Nat.le_trans (quotedToken_rest_length h fun _ hs => ih hs) (dropFirstLineEnd_length start cs)

/-- A token uses up its first character at least. -/
theorem firstToken_rest_length {pos : Nat} {c : Char} {cs : List Char}
    {found : TokenKind × Nat × List Char} (h : firstToken pos c cs = .ok found) :
    found.2.2.length ≤ cs.length := by
  revert h
  fun_cases firstToken pos c cs with
  | case1 | case2 | case3 | case4 | case5 | case6 | case7 | case8 => rintro ⟨⟩; simp
  | case9 => rintro ⟨⟩; simp
  | case10 => rintro ⟨⟩
  | case11 =>
    intro h
    have := quotedLines_rest_length h scanMultiLiteral_rest_length
    simp; omega
  | case12 => intro h; exact quotedToken_rest_length h fun _ hs => scanLiteral_rest_length hs
  | case13 =>
    intro h
    have := quotedLines_rest_length h scanMultiBasic_rest_length
    simp; omega
  | case14 => intro h; exact quotedToken_rest_length h fun _ hs => scanBasic_rest_length hs
  | case15 | case16 | case17 => rintro ⟨⟩; exact scanWhile_rest_length _ _ _

/-! ### All tokens -/

def tokensFrom (pos : Nat) : List Char → Except SyntaxFault (List Token)
  | [] => .ok []
  | c :: cs =>
    match _h : firstToken pos c cs with
    | .error fault => .error fault
    | .ok (kind, stop, rest) => (tokensFrom stop rest).map (⟨kind, ⟨pos, stop⟩⟩ :: ·)
termination_by cs => cs.length
decreasing_by
  exact Nat.lt_succ_of_le (firstToken_rest_length (by assumption))

/-- **The tokens of a text.**  A byte order mark at the start is skipped, but counts as bytes. -/
def tokensOf (text : String) : Except SyntaxFault (List Token) :=
  match text.toList with
  | '\ufeff' :: cs => tokensFrom '\ufeff'.utf8Size cs
  | cs => tokensFrom 0 cs

end CodeBlocks.Toml
