/-
**Quoted text.**

Text is shown in diagnostics between double quotes.  Inside, quotes and backslashes are escaped,
the usual control characters have short names, and every other character that would not show, or
that would join the character in front of it, is written by its code point.

Main definitions:

* `CodeBlocks.Text.escaped` — the spelling of one character;
* `CodeBlocks.Text.quoted` — a text in quotes.
-/
import CodeBlocks.Text.Visible

set_option relaxedAutoImplicit false
set_option autoImplicit false

namespace CodeBlocks.Text

def byCodePoint (c : Char) : String :=
  "\\u\x7b" ++ String.ofList (Nat.toDigits 16 c.toNat) ++ "\x7d"

/-- **The spelling of a character** inside quotes. -/
def escaped (c : Char) : String :=
  match c with
  | '\x00' => "\\0"
  | '\t' => "\\t"
  | '\r' => "\\r"
  | '\n' => "\\n"
  | '\\' => "\\\\"
  | '"' => "\\\""
  | c => if isVisible c then c.toString else byCodePoint c

/-- **A text in quotes.** -/
def quoted (text : String) : String :=
  "\"" ++ String.join (text.toList.map escaped) ++ "\""

end CodeBlocks.Text
