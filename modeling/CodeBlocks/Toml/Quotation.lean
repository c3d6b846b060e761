/-
**Strings in TOML.**

A string is basic, with escapes, or literal, without; and it stands on one line, between single
quotation marks, or on several, between triple ones.  Each scanner starts after the opening mark and
answers the text of the string, the position after the closing mark, and the rest.

Main definitions:

* `CodeBlocks.Toml.Scanned` — some text, where it stops, and what follows;
* `CodeBlocks.Toml.scanBasic`, `CodeBlocks.Toml.scanLiteral` — strings on one line;
* `CodeBlocks.Toml.scanMultiBasic`, `CodeBlocks.Toml.scanMultiLiteral` — strings on several lines.

Main results:

* `CodeBlocks.Toml.scanBasic_rest_length` and its companions — a scanner only goes forward.
-/
import CodeBlocks.Decimal.Literal
import CodeBlocks.Toml.Fault

set_option relaxedAutoImplicit false
set_option autoImplicit false

namespace CodeBlocks.Toml

/-- **Some text that was read**, the position where it stops, and the rest. -/
structure Scanned where
  text : List Char
  stop : Nat
  rest : List Char

/-- The same, with characters in front of the text. -/
def Scanned.after (front : List Char) (s : Scanned) : Scanned := { s with text := front ++ s.text }

@[simp] theorem Scanned.rest_after (front : List Char) (s : Scanned) :
    (s.after front).rest = s.rest := rfl

/-! ### Characters and escapes -/

/-- A character that may stand for itself: a tab, or no control character of ASCII. -/
def isPlain (c : Char) : Bool := c = '\t' || (0x20 ≤ c.toNat && c.toNat ≠ 0x7f)

def escapeOf? : Char → Option Char
  | 'b' => some '\x08'
  | 't' => some '\t'
  | 'n' => some '\n'
  | 'f' => some '\x0c'
  | 'r' => some '\r'
  | 'e' => some '\x1b'
  | '"' => some '"'
  | '\\' => some '\\'
  | _ => none

def charOfHex? (digits : List Char) : Option Char :=
  let code := Decimal.valueOf 16 digits
  if digits.all Decimal.isHexDigit && decide code.isValidChar then some (Char.ofNat code) else none

/-- A character in front of what was scanned, if there is one. -/
def escapedThen (c : Option Char) (rest : Except SyntaxFault Scanned) :
    Except SyntaxFault Scanned :=
  match c with
  | some c => rest.map (Scanned.after [c])
  | none => .error .badEscape

/-- Whether blanks and then a line end follow. -/
def continuesLine : List Char → Bool
  | ' ' :: cs => continuesLine cs
  | '\t' :: cs => continuesLine cs
  | '\n' :: _ => true
  | '\r' :: '\n' :: _ => true
  | _ => false

/-- The text without a line end at its start, and the position after it. -/
def dropFirstLineEnd (start : Nat) : List Char → Nat × List Char
  | '\n' :: cs => (start + 1, cs)
  | '\r' :: '\n' :: cs => (start + 2, cs)
  | cs => (start, cs)

/-! ### Strings on one line -/

def scanLiteral (pos : Nat) : List Char → Except SyntaxFault Scanned
  | [] => .error .unclosedString
  | '\'' :: cs => .ok ⟨[], pos + 1, cs⟩
  | c :: cs =>
    if isPlain c then (scanLiteral (pos + c.utf8Size) cs).map (Scanned.after [c])
    else .error .controlCharacter

def scanBasic (pos : Nat) : List Char → Except SyntaxFault Scanned
  | [] => .error .unclosedString
  | '"' :: cs => .ok ⟨[], pos + 1, cs⟩
  | '\\' :: 'x' :: a :: b :: cs => escapedThen (charOfHex? [a, b]) (scanBasic (pos + 4) cs)
  | '\\' :: 'u' :: a :: b :: c :: d :: cs =>
    escapedThen (charOfHex? [a, b, c, d]) (scanBasic (pos + 6) cs)
  | '\\' :: 'U' :: a :: b :: c :: d :: e :: f :: g :: h :: cs =>
    escapedThen (charOfHex? [a, b, c, d, e, f, g, h]) (scanBasic (pos + 10) cs)
  | '\\' :: c :: cs => escapedThen (escapeOf? c) (scanBasic (pos + 2) cs)
  | c :: cs =>
    if isPlain c then (scanBasic (pos + c.utf8Size) cs).map (Scanned.after [c])
    else .error .controlCharacter

/-! ### Strings on several lines -/

/-- The rest of a literal string on several lines.  Up to two quotes may stand in front of the
closing mark. -/
def scanMultiLiteral (pos : Nat) : List Char → Except SyntaxFault Scanned
  | [] => .error .unclosedString
  | '\'' :: '\'' :: '\'' :: '\'' :: '\'' :: cs => .ok ⟨['\'', '\''], pos + 5, cs⟩
  | '\'' :: '\'' :: '\'' :: '\'' :: cs => .ok ⟨['\''], pos + 4, cs⟩
  | '\'' :: '\'' :: '\'' :: cs => .ok ⟨[], pos + 3, cs⟩
  | '\r' :: '\n' :: cs => (scanMultiLiteral (pos + 2) cs).map (Scanned.after ['\r', '\n'])
  | c :: cs =>
    if isPlain c || c = '\n' then
      (scanMultiLiteral (pos + c.utf8Size) cs).map (Scanned.after [c])
    else .error .controlCharacter

/-- The rest of a basic string on several lines.  After a backslash at the end of a line, blanks and
line ends are skipped, which `skipping` tells. -/
def scanMultiBasic (pos : Nat) (skipping : Bool) : List Char → Except SyntaxFault Scanned
  | [] => .error .unclosedString
  | '"' :: '"' :: '"' :: '"' :: '"' :: cs => .ok ⟨['"', '"'], pos + 5, cs⟩
  | '"' :: '"' :: '"' :: '"' :: cs => .ok ⟨['"'], pos + 4, cs⟩
  | '"' :: '"' :: '"' :: cs => .ok ⟨[], pos + 3, cs⟩
  | '\r' :: '\n' :: cs =>
    (scanMultiBasic (pos + 2) skipping cs).map
      (Scanned.after (if skipping then [] else ['\r', '\n']))
  | '\\' :: 'x' :: a :: b :: cs =>
    escapedThen (charOfHex? [a, b]) (scanMultiBasic (pos + 4) false cs)
  | '\\' :: 'u' :: a :: b :: c :: d :: cs =>
    escapedThen (charOfHex? [a, b, c, d]) (scanMultiBasic (pos + 6) false cs)
  | '\\' :: 'U' :: a :: b :: c :: d :: e :: f :: g :: h :: cs =>
    escapedThen (charOfHex? [a, b, c, d, e, f, g, h]) (scanMultiBasic (pos + 10) false cs)
  | '\\' :: c :: cs =>
    if continuesLine (c :: cs) then scanMultiBasic (pos + 1) true (c :: cs)
    else escapedThen (escapeOf? c) (scanMultiBasic (pos + 2) false cs)
  | c :: cs =>
    if skipping && (c = ' ' || c = '\t' || c = '\n') then
      scanMultiBasic (pos + c.utf8Size) true cs
    else if isPlain c || c = '\n' then
      (scanMultiBasic (pos + c.utf8Size) false cs).map (Scanned.after [c])
    else .error .controlCharacter

/-! ### Scanners go forward -/

theorem rest_length_of_map {front : List Char} {outcome : Except SyntaxFault Scanned} {s : Scanned}
    {bound : Nat} (h : outcome.map (Scanned.after front) = .ok s)
    (ih : ∀ t, outcome = .ok t → t.rest.length ≤ bound) : s.rest.length ≤ bound := by
  cases outcome with
  | error fault => cases h
  | ok t =>
    cases h
    exact ih t rfl

theorem rest_length_of_escapedThen {c : Option Char} {outcome : Except SyntaxFault Scanned}
    {s : Scanned} {bound : Nat} (h : escapedThen c outcome = .ok s)
    (ih : ∀ t, outcome = .ok t → t.rest.length ≤ bound) : s.rest.length ≤ bound := by
  cases c with
  | none => cases h
  | some c => exact rest_length_of_map h ih

theorem scanLiteral_rest_length {cs : List Char} {pos : Nat} {s : Scanned}
    (h : scanLiteral pos cs = .ok s) : s.rest.length ≤ cs.length := by
  fun_induction scanLiteral pos cs generalizing s with
  | case1 => cases h
  | case2 => cases h; simp
  | case3 pos c cs _ _ ih =>
    have := rest_length_of_map h fun t ht => ih ht
    simp; omega
  | case4 => cases h

theorem scanBasic_rest_length {cs : List Char} {pos : Nat} {s : Scanned}
    (h : scanBasic pos cs = .ok s) : s.rest.length ≤ cs.length := by
  fun_induction scanBasic pos cs generalizing s with
  | case1 => cases h
  | case2 => cases h; simp
  | case3 pos a b cs ih =>
    have := rest_length_of_escapedThen h fun t ht => ih ht
    simp; omega
  | case4 pos a b c d cs ih =>
    have := rest_length_of_escapedThen h fun t ht => ih ht
    simp; omega
  | case5 pos a b c d e f g k cs ih =>
    have := rest_length_of_escapedThen h fun t ht => ih ht
    simp; omega
  | case6 pos c cs _ _ _ ih =>
    have := rest_length_of_escapedThen h fun t ht => ih ht
    simp; omega
  | case7 pos c cs _ _ _ _ _ _ ih =>
    have := rest_length_of_map h fun t ht => ih ht
    simp; omega
  | case8 => cases h

theorem scanMultiLiteral_rest_length {cs : List Char} {pos : Nat} {s : Scanned}
    (h : scanMultiLiteral pos cs = .ok s) : s.rest.length ≤ cs.length := by
  fun_induction scanMultiLiteral pos cs generalizing s with
  | case1 => cases h
  | case2 => cases h; simp; omega
  | case3 => cases h; simp; omega
  | case4 => cases h; simp; omega
  | case5 pos cs ih =>
    have := rest_length_of_map h fun t ht => ih ht
    simp; omega
  | case6 pos c cs _ _ _ _ _ ih =>
    have := rest_length_of_map h fun t ht => ih ht
    simp; omega
  | case7 => cases h

theorem scanMultiBasic_rest_length {cs : List Char} {pos : Nat} {skipping : Bool} {s : Scanned}
    (h : scanMultiBasic pos skipping cs = .ok s) : s.rest.length ≤ cs.length := by
  fun_induction scanMultiBasic pos skipping cs generalizing s with
  | case1 => cases h
  | case2 => cases h; simp; omega
  | case3 => cases h; simp; omega
  | case4 => cases h; simp; omega
  | case5 _ _ cs ih =>
    have := rest_length_of_map h fun t ht => ih ht
    simp; omega
  | case6 _ _ a b cs ih =>
    have := rest_length_of_escapedThen h fun t ht => ih ht
    simp; omega
  | case7 _ _ a b c d cs ih =>
    have := rest_length_of_escapedThen h fun t ht => ih ht
    simp; omega
  | case8 _ _ a b c d e f g k cs ih =>
    have := rest_length_of_escapedThen h fun t ht => ih ht
    simp; omega
  | case9 _ _ c cs _ _ _ _ ih =>
    have := ih h
    simp at this ⊢; omega
  | case10 _ _ c cs _ _ _ _ ih =>
    have := rest_length_of_escapedThen h fun t ht => ih ht
    simp; omega
  | case11 _ _ c cs _ _ _ _ _ _ _ _ _ ih =>
    have := ih h
    simp; omega
  | case12 _ _ c cs _ _ _ _ _ _ _ _ _ _ ih =>
    have := rest_length_of_map h fun t ht => ih ht
    simp; omega
  | case13 => cases h

end CodeBlocks.Toml
