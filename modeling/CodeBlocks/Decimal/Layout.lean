/-
**The text of a number.**

The fewest digits that identify a value are laid out in positional notation, or with an exponent.  A
layout says where the one ends and the other begins.

Main definitions:

* `CodeBlocks.Decimal.positional`, `CodeBlocks.Decimal.scientific` — the two forms;
* `CodeBlocks.Decimal.Layout` — when each is used, with the layouts of this library;
* `CodeBlocks.Decimal.Layout.text` — the text of a value;
* `CodeBlocks.Decimal.Literal.text?` — the positional text of a literal, or nothing if the literal
  is too large for binary64.
-/
import CodeBlocks.Decimal.Shortest

set_option relaxedAutoImplicit false
set_option autoImplicit false

namespace CodeBlocks.Decimal

/-! ### Both forms -/

/-- **Positional notation** of `d * 10^p`, always with a point. -/
def positional (d : Nat) (p : Int) : String :=
  let digits := Nat.toDigits 10 d
  if 0 ≤ p then
    String.ofList (if d = 0 then digits else digits ++ List.replicate p.natAbs '0') ++ ".0"
  else
    let places := p.natAbs
    let padded := List.replicate (places + 1 - digits.length) '0' ++ digits
    let cut := padded.length - places
    let fraction := (padded.drop cut).reverse.dropWhile (· = '0') |>.reverse
    String.ofList (padded.take cut) ++ "." ++
      (if fraction.isEmpty then "0" else String.ofList fraction)

def leadingExponent (d : Nat) (p : Int) : Int := p + digitCount d - 1

/-- **Notation with an exponent** of `d * 10^p`: one digit in front of the point, no point without
further digits, and the exponent always with its sign. -/
def scientific (d : Nat) (p : Int) : String :=
  let digits := Nat.toDigits 10 d
  let exponent := leadingExponent d p
  String.ofList (digits.take 1)
    ++ (if digits.length = 1 then "" else "." ++ String.ofList (digits.drop 1))
    ++ (if exponent < 0 then "e-" else "e+") ++ toString exponent.natAbs

/-! ### Layouts -/

/-- **When each form is used**, and which digits are taken on a tie. -/
structure Layout where
  tie : Tie
  /-- Whether positional notation is used for an exponent of the leading digit. -/
  isPlain : Int → Bool

def Layout.plain : Layout where
  tie := .up
  isPlain := fun _ => true

/-- Positional notation for values of at most 16 digits in front of the point, or five places up to
the leading digit behind it. -/
def Layout.compact : Layout where
  tie := .even
  isPlain := fun exponent => -5 ≤ exponent && exponent ≤ 15

/-- **The text of a value** with a sign. -/
def Layout.text (layout : Layout) (negative : Bool) (b : Binary) : String :=
  let (d, p) := b.shortest layout.tie
  (if negative then "-" else "")
    ++ (if layout.isPlain (leadingExponent d p) then positional d p else scientific d p)

/-- **The positional text of a literal** as a binary64 value; nothing if it rounds beyond the
largest one. -/
def Literal.text? : Literal → Option String
  | notANumber => some "NaN"
  | infinite negative => some (if negative then "-inf" else "inf")
  | finite negative mantissa exponent =>
    (Binary.nearest? mantissa exponent).map (Layout.plain.text negative)

end CodeBlocks.Decimal
