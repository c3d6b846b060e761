/-
**The fewest digits that read back.**

A literal stands for the binary64 value nearest to it.  A value is identified by the fewest decimal
digits that read back as it, closest to the value among those; where two are equally close, a rule
for ties decides.  All comparisons are made on naturals.

Main definitions:

* `CodeBlocks.Decimal.Binary` — a non-negative binary64 value as `m * 2^q`;
* `CodeBlocks.Decimal.Binary.admits` — which decimals read back as the value;
* `CodeBlocks.Decimal.Tie` — the rule for ties;
* `CodeBlocks.Decimal.Binary.shortest` — the digits.
-/
import CodeBlocks.Decimal.Literal

set_option relaxedAutoImplicit false
set_option autoImplicit false

namespace CodeBlocks.Decimal

/-! ### Binary values -/

/-- **A non-negative binary64 value**, `m * 2^q`. -/
structure Binary where
  m : Nat
  q : Int
  /-- The gap to the value below is half the gap to the value above. -/
  narrowBelow : Bool
deriving Repr

/-- **Which of two equally close decimals is taken**: the larger one, or the one with an even last
digit. -/
inductive Tie where
  | up
  | even
deriving DecidableEq, Repr

def Tie.choosesNext (tie : Tie) (n : Nat) : Bool :=
  match tie with
  | up => true
  | even => n % 2 = 1

def scale (base : Nat) (exponent : Int) : Nat × Nat :=
  if exponent < 0 then (1, Nat.pow base exponent.natAbs) else (Nat.pow base exponent.natAbs, 1)

/-- The value of a bit pattern without its sign; nothing for infinities and patterns without a
value. -/
def Binary.ofBits? (bits : Nat) : Option Binary :=
  let fraction := bits % Nat.pow 2 52
  let exponent : Nat := bits / Nat.pow 2 52 % Nat.pow 2 11
  if exponent = 2047 then none
  else if exponent = 0 then some ⟨fraction, -1074, false⟩
  else some ⟨fraction + Nat.pow 2 52, (exponent : Int) - 1075, fraction == 0 && exponent > 1⟩

def digitCount (n : Nat) : Nat := (Nat.toDigits 10 n).length

/-- **The binary64 value nearest to** `mantissa * 10^exponent`; nothing if that is beyond the
largest one.  Magnitudes far outside the range are settled without computing their power of ten. -/
def Binary.nearest? (mantissa : Nat) (exponent : Int) : Option Binary :=
  let magnitude := (digitCount mantissa : Int) + exponent
  if mantissa = 0 || magnitude < -340 then Binary.ofBits? 0
  else if magnitude > 320 then none
  else Binary.ofBits?
    (Float.ofScientific mantissa (exponent < 0) exponent.natAbs).toBits.toNat

namespace Binary

/-- **Whether** `d * 10^p` **reads back as the value**: it lies between the midpoints to the
neighbours, ends included exactly when `m` is even. -/
def admits (b : Binary) (d : Nat) (p : Int) : Bool :=
  let (tenUp, tenDown) := scale 10 p
  let (twoUp, twoDown) := scale 2 (b.q - 2)
  let decimal := d * tenUp * twoDown
  let low := (4 * b.m - (if b.narrowBelow then 1 else 2)) * twoUp * tenDown
  let high := (4 * b.m + 2) * twoUp * tenDown
  if b.m % 2 = 0 then low ≤ decimal && decimal ≤ high else low < decimal && decimal < high

/-- The value in units of `10^p`: the whole part, and how the value compares with the middle between
the whole part and the point above it. -/
def onGrid (b : Binary) (p : Int) : Nat × Ordering :=
  let (tenUp, tenDown) := scale 10 p
  let (twoUp, twoDown) := scale 2 b.q
  let numerator := b.m * twoUp * tenDown
  let denominator := twoDown * tenUp
  let whole := numerator / denominator
  (whole, compare (2 * numerator) ((2 * whole + 1) * denominator))

/-- The point of the grid `10^p` that reads back as the value, the closer of two. -/
def candidate? (tie : Tie) (b : Binary) (p : Int) : Option Nat :=
  let (below, toMiddle) := b.onGrid p
  match b.admits below p, b.admits (below + 1) p with
  | true, true =>
    let next := match toMiddle with
      | .lt => false
      | .eq => tie.choosesNext below
      | .gt => true
    some (if next then below + 1 else below)
  | true, false => some below
  | false, true => some (below + 1)
  | false, false => none

/-- The least `k` with the value below `10^k`, searched upwards from an estimate. -/
def topExponent (b : Binary) : Int :=
  let estimate : Int := (((b.m.log2 : Int) + b.q) * 30103).fdiv 100000 - 1
  let reaches (k : Int) : Bool := (b.onGrid k).1 = 0
  let candidates := (List.range 5).map fun (step : Nat) => estimate + (step : Int)
  (candidates.find? reaches).getD (estimate + 5)

/-- **The fewest digits** and their exponent: the grids are tried from coarse to fine, and the exact
value stands in where none has a point that reads back. -/
def shortest (tie : Tie) (b : Binary) : Nat × Int :=
  if b.m = 0 then (0, 0)
  else
    let top := b.topExponent
    let grids := (List.range 18).map fun (n : Nat) => top - (n : Int)
    match grids.findSome? fun p => (b.candidate? tie p).map fun d => (d, p) with
    | some found => found
    | none => if b.q < 0 then (b.m * Nat.pow 5 b.q.natAbs, b.q) else (b.m * Nat.pow 2 b.q.natAbs, 0)

end Binary

end CodeBlocks.Decimal
