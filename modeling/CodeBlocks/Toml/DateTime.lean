/-
**Dates and times in TOML.**

A date, a time, or both, and with both an optional offset from universal time.  The seconds of a
time may be left out.

Main definitions:

* `CodeBlocks.Toml.DateTime` — a date, a time and an offset, each optional;
* `CodeBlocks.Toml.DateTime.read?` — reading one;
* `CodeBlocks.Toml.DateTime.text` — its normal form, with `T` in between and all seconds.
-/
import CodeBlocks.Decimal.Literal

set_option relaxedAutoImplicit false
set_option autoImplicit false

namespace CodeBlocks.Toml

open Decimal (valueOf)

structure Date where
  year : Nat
  month : Nat
  day : Nat
deriving DecidableEq, Repr

structure Time where
  hour : Nat
  minute : Nat
  second : Nat
  nanosecond : Nat
deriving DecidableEq, Repr

inductive Offset where
  | zulu
  | shifted (negative : Bool) (hours minutes : Nat)
deriving DecidableEq, Repr

/-- **A date, a time, or both.** -/
structure DateTime where
  date : Option Date := none
  time : Option Time := none
  offset : Option Offset := none
deriving DecidableEq, Repr

/-! ### The calendar -/

def isLeapYear (year : Nat) : Bool := year % 4 = 0 && (year % 100 ≠ 0 || year % 400 = 0)

def daysIn (year month : Nat) : Nat :=
  match month with
  | 2 => if isLeapYear year then 29 else 28
  | 4 | 6 | 9 | 11 => 30
  | _ => 31

def Date.isValid (d : Date) : Bool :=
  1 ≤ d.month && d.month ≤ 12 && 1 ≤ d.day && d.day ≤ daysIn d.year d.month

/-- Whether the clock shows the time; a minute may have a leap second. -/
def Time.isValid (t : Time) : Bool := t.hour ≤ 23 && t.minute ≤ 59 && t.second ≤ 60

/-! ### Reading -/

/-- A number of exactly `count` digits, and the rest. -/
def readDigits? (count : Nat) (text : List Char) : Option (Nat × List Char) :=
  let digits := text.take count
  if digits.length = count && digits.all Char.isDigit then
    some (valueOf 10 digits, text.drop count)
  else none

def readMark? (mark : Char) : List Char → Option (List Char)
  | c :: rest => if c = mark then some rest else none
  | [] => none

def Date.read? (text : List Char) : Option (Date × List Char) := do
  let (year, rest) ← readDigits? 4 text
  let (month, rest) ← readDigits? 2 (← readMark? '-' rest)
  let (day, rest) ← readDigits? 2 (← readMark? '-' rest)
  let date : Date := ⟨year, month, day⟩
  if date.isValid then some (date, rest) else none

/-- The digits after the point of a second, as nanoseconds; further digits are cut off. -/
def nanosecondsOf (digits : List Char) : Nat :=
  valueOf 10 ((digits ++ List.replicate 9 '0').take 9)

/-- The second of a time and its fraction, if it is written, and the rest. -/
def readSecond? (text : List Char) : Option (Nat × Nat × List Char) :=
  match text with
  | ':' :: text => do
    let (second, rest) ← readDigits? 2 text
    match rest with
    | '.' :: rest =>
      let digits := rest.takeWhile Char.isDigit
      if digits.isEmpty then none
      else some (second, nanosecondsOf digits, rest.dropWhile Char.isDigit)
    | rest => some (second, 0, rest)
  | text => some (0, 0, text)

def Time.read? (text : List Char) : Option (Time × List Char) := do
  let (hour, rest) ← readDigits? 2 text
  let (minute, rest) ← readDigits? 2 (← readMark? ':' rest)
  let (second, nanosecond, rest) ← readSecond? rest
  let time : Time := ⟨hour, minute, second, nanosecond⟩
  if time.isValid then some (time, rest) else none

/-- The whole text as an offset; no text is no offset. -/
def readOffset? (text : List Char) : Option (Option Offset) :=
  match text with
  | [] => some none
  | ['Z'] | ['z'] => some (some .zulu)
  | sign :: text => do
    let (hours, rest) ← readDigits? 2 text
    let (minutes, rest) ← readDigits? 2 (← readMark? ':' rest)
    if (sign = '+' || sign = '-') && rest.isEmpty && hours ≤ 23 && minutes ≤ 59 then
      some (some (.shifted (sign = '-') hours minutes))
    else none

/-- **Reading a date, a time or both** from the whole text. -/
def DateTime.read? (text : List Char) : Option DateTime :=
  match Date.read? text with
  | some (date, []) => some { date := some date }
  | some (date, mark :: rest) => do
    let (time, rest) ← Time.read? rest
    let offset ← readOffset? rest
    if mark = 'T' || mark = 't' || mark = ' ' then
      some { date := some date, time := some time, offset }
    else none
  | none => do
    let (time, rest) ← Time.read? text
    if rest.isEmpty then some { time := some time } else none

/-! ### The normal form -/

def padded (count n : Nat) : String :=
  let digits := Nat.toDigits 10 n
  String.ofList (List.replicate (count - digits.length) '0' ++ digits)

def Date.text (d : Date) : String := s!"{padded 4 d.year}-{padded 2 d.month}-{padded 2 d.day}"

/-- `hour:minute:second`, with the fraction unless it is zero. -/
def Time.text (t : Time) : String :=
  let fraction := (padded 9 t.nanosecond).toList.reverse.dropWhile (· = '0') |>.reverse
  s!"{padded 2 t.hour}:{padded 2 t.minute}:{padded 2 t.second}" ++
    (if t.nanosecond = 0 then "" else "." ++ String.ofList fraction)

/-- `Z`, or the hours and minutes with their sign; an offset of nothing counts as positive. -/
def Offset.text : Offset → String
  | zulu => "Z"
  | shifted negative hours minutes =>
    (if negative && (hours ≠ 0 || minutes ≠ 0) then "-" else "+")
      ++ s!"{padded 2 hours}:{padded 2 minutes}"

/-- **The normal form.** -/
def DateTime.text (d : DateTime) : String :=
  (d.date.map Date.text).getD ""
    ++ (if d.date.isSome && d.time.isSome then "T" else "")
    ++ (d.time.map Time.text).getD ""
    ++ (d.offset.map Offset.text).getD ""

end CodeBlocks.Toml
