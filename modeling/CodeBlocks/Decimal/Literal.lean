/-
**Decimal literals.**

A number as it is written, with digits, a point and an exponent, is an integer times a power of ten.
Nothing is rounded here.

Main definitions:

* `CodeBlocks.Decimal.Literal` — a finite number, an infinity, or no number;
* `CodeBlocks.Decimal.valueOf` — the number that digits in a base write;
* `CodeBlocks.Decimal.splitSign` — a sign and what follows it.
-/

set_option relaxedAutoImplicit false
set_option autoImplicit false

namespace CodeBlocks.Decimal

/-- **A written number**: `(-1)^negative * mantissa * 10^exponent`, or one of the two special
forms. -/
inductive Literal where
  | finite (negative : Bool) (mantissa : Nat) (exponent : Int)
  | infinite (negative : Bool)
  | notANumber
deriving DecidableEq, Repr

/-! ### Digits -/

def digitValue (c : Char) : Nat :=
  if c.isDigit then c.toNat - '0'.toNat
  else if c.isUpper then c.toNat - 'A'.toNat + 10
  else c.toNat - 'a'.toNat + 10

def isHexDigit (c : Char) : Bool :=
  c.isDigit || ('a' ≤ c && c ≤ 'f') || ('A' ≤ c && c ≤ 'F')

/-- **The number that digits write** in a base. -/
def valueOf (base : Nat) (digits : List Char) : Nat :=
  digits.foldl (fun value c => value * base + digitValue c) 0

/-! ### Signs -/

def splitSign : List Char → Bool × List Char
  | '-' :: rest => (true, rest)
  | '+' :: rest => (false, rest)
  | rest => (false, rest)

end CodeBlocks.Decimal
