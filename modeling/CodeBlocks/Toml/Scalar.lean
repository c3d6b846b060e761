/-
**Bare values in TOML.**

Values that stand without quotation marks: booleans, integers in four bases, floating point numbers,
dates and times.  Underscores may stand between digits.  Some texts that start like an integer and
have no value are values all the same, which fail only when they are read.

Main definitions:

* `CodeBlocks.Toml.digitRun?` — digits with underscores in between;
* `CodeBlocks.Toml.readInteger?`, `CodeBlocks.Toml.readFloat?` — numbers;
* `CodeBlocks.Toml.isMalformedInteger` — the integers without a value;
* `CodeBlocks.Toml.Scalar.read?` — any bare value.
-/
import CodeBlocks.Toml.Item

set_option relaxedAutoImplicit false
set_option autoImplicit false

namespace CodeBlocks.Toml

open Decimal (Literal splitSign valueOf)

/-! ### Digits -/

/-- **Digits with underscores in between**, without the underscores. -/
def digitRun? (isDigit : Char → Bool) : List Char → Option (List Char)
  | [] => none
  | [c] => if isDigit c then some [c] else none
  | c :: '_' :: cs => if isDigit c then (digitRun? isDigit cs).map (c :: ·) else none
  | c :: cs => if isDigit c then (digitRun? isDigit cs).map (c :: ·) else none

/-- Decimal digits without a needless zero in front. -/
def wholeDigits? (text : List Char) : Option (List Char) :=
  (digitRun? Char.isDigit text).filter fun digits =>
    digits.length = 1 || digits.head? ≠ some '0'

/-! ### Numbers -/

/-- **An integer**, in decimal with an optional sign, or in another base without one. -/
def readInteger? (text : List Char) : Option Int :=
  match text with
  | '0' :: 'x' :: digits => (digitRun? Decimal.isHexDigit digits).map fun ds => valueOf 16 ds
  | '0' :: 'o' :: digits =>
    (digitRun? (fun c => '0' ≤ c && c ≤ '7') digits).map fun ds => valueOf 8 ds
  | '0' :: 'b' :: digits =>
    (digitRun? (fun c => c = '0' || c = '1') digits).map fun ds => valueOf 2 ds
  | text =>
    let (negative, digits) := splitSign text
    (wholeDigits? digits).map fun ds =>
      let size : Int := valueOf 10 ds
      if negative then -size else size

def inDigitRun (c : Char) : Bool := c.isDigit || c = '_'

/-- The exponent of a floating point number, if the text ends in one. -/
def readFloatExponent? : List Char → Option Int
  | [] => some 0
  | c :: text =>
    let (negative, digits) := splitSign text
    if c = 'e' || c = 'E' then
      (digitRun? Char.isDigit digits).map fun ds =>
        let size : Int := valueOf 10 ds
        if negative then -size else size
    else none

/-- A finite floating point number without its sign.  It has a fraction or an exponent. -/
def readFinite? (negative : Bool) (text : List Char) : Option Literal := do
  let whole ← wholeDigits? (text.takeWhile inDigitRun)
  match text.dropWhile inDigitRun with
  | [] => none
  | '.' :: rest =>
    let fraction ← digitRun? Char.isDigit (rest.takeWhile inDigitRun)
    let exponent ← readFloatExponent? (rest.dropWhile inDigitRun)
    some (.finite negative (valueOf 10 (whole ++ fraction)) (exponent - fraction.length))
  | rest => do
    let exponent ← readFloatExponent? rest
    some (.finite negative (valueOf 10 whole) exponent)

/-- **A floating point number.** -/
def readFloat? (text : List Char) : Option Literal :=
  let (negative, rest) := splitSign text
  if rest = "inf".toList then some (.infinite negative)
  else if rest = "nan".toList then some .notANumber
  else readFinite? negative rest

/-! ### Malformed integers -/

def underscoresInHex : List Char → Bool
  | [] => true
  | '_' :: _ => false
  | c :: '_' :: d :: text =>
    Decimal.isHexDigit c && Decimal.isHexDigit d && underscoresInHex (d :: text)
  | _ :: text => underscoresInHex text

/-- **Whether a text is an integer without a value.**  It is a base without digits; or decimal
digits up to an underscore and then anything but a space, a point or an exponent, as long as the
underscores stand between hexadecimal digits. -/
def isMalformedInteger (text : List Char) : Bool :=
  match text with
  | ['0', 'x'] | ['0', 'o'] | ['0', 'b'] => true
  | text =>
    let digits := (splitSign text).2
    digits.head?.any (fun c => c.isDigit && c ≠ '0')
      && (digits.dropWhile Char.isDigit).head? = some '_'
      && underscoresInHex digits && !digits.any " .eE".toList.contains

/-! ### Any bare value -/

/-- **A bare value.**  Only what is no number, date or time can be a malformed integer. -/
def Scalar.read? (text : List Char) : Option Scalar :=
  if text = "true".toList then some (.boolean true)
  else if text = "false".toList then some (.boolean false)
  else
    ((readInteger? text).map Scalar.integer)
      <|> ((readFloat? text).map Scalar.float)
      <|> ((DateTime.read? text).map Scalar.dateTime)
      <|> (if isMalformedInteger text then some .malformedInteger else none)

end CodeBlocks.Toml
