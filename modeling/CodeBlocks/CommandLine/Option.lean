/-
**Options.**

Arguments are read from left to right, and the first thing that is wrong, or a wish for help, ends
the reading.  A value stands in the argument of its option or in the next one; a next argument that
looks like an option itself is no value.  Behind a double dash there are operands only.

Main definitions:

* `CodeBlocks.CommandLine.OptionForm` — an option that a command knows;
* `CodeBlocks.CommandLine.Piece`, `CodeBlocks.CommandLine.pieceOf` — what one argument is;
* `CodeBlocks.CommandLine.readArguments` — **reading all of them**;
* `CodeBlocks.CommandLine.numberOf?` — a number of at most 64 bits.
-/
import CodeBlocks.CommandLine.Usage
import CodeBlocks.Decimal.Literal

set_option relaxedAutoImplicit false
set_option autoImplicit false

namespace CodeBlocks.CommandLine

/-! ### Single arguments -/

/-- **An option that a command knows**, with the name `ι` that the command has for it. -/
structure OptionForm (ι : Type) where
  name : ι
  long : String
  short : Option Char := none
  takesValue : Bool := true

/-- **What an argument is.** -/
inductive Piece (ι : Type) where
  | operand
  | separator
  | help
  | bare (form : OptionForm ι)
  | valued (form : OptionForm ι) (value : String)
  | bad (fault : Misuse)

def splitAtEquals : List Char → List Char × Option (List Char)
  | [] => ([], none)
  | c :: rest =>
    if c = '=' then ([], some rest)
    else
      let (front, back) := splitAtEquals rest
      (c :: front, back)

/-- An argument that starts with two dashes, by what comes after them. -/
def longPiece {ι : Type} (forms : List (OptionForm ι)) (letters : List Char) : Piece ι :=
  let (front, back) := splitAtEquals letters
  let name := String.ofList front
  if name = "help" then
    if back.isNone then .help else .bad (.unneededValue name)
  else
    match forms.find? fun form => form.long = name, back with
    | none, _ => .bad (.unknownOption ("--" ++ name))
    | some form, none => .bare form
    | some form, some value =>
      if form.takesValue then .valued form (String.ofList value)
      else .bad (.unneededValue name)

/-- An argument that starts with one dash, by the letter after it and the rest.  One equals sign
between the letter and a value is no part of the value. -/
def shortPiece {ι : Type} (forms : List (OptionForm ι)) (letter : Char) (rest : List Char) :
    Piece ι :=
  if letter = 'h' then .help
  else
    match forms.find? fun form => form.short = some letter, rest with
    | none, _ => .bad (.unknownOption (String.ofList ['-', letter]))
    | some form, [] => .bare form
    | some form, '=' :: value => .valued form (String.ofList value)
    | some form, value => .valued form (String.ofList value)

/-- **What an argument is** for a command that knows some options. -/
def pieceOf {ι : Type} (forms : List (OptionForm ι)) (argument : String) : Piece ι :=
  match argument.toList with
  | ['-', '-'] => .separator
  | '-' :: '-' :: letters => longPiece forms letters
  | '-' :: letter :: rest => shortPiece forms letter rest
  | _ => .operand

/-- Whether an argument cannot be the value of the option in front of it. -/
def looksLikeOption (argument : String) : Bool :=
  match argument.toList with
  | '-' :: _ :: _ => true
  | _ => false

/-! ### All arguments -/

/-- **What a command makes of its arguments**: the effect of an option with its value, or with the
empty text if it takes none, and the effect of an operand. -/
structure Reader (ι α : Type) where
  forms : List (OptionForm ι)
  option : α → ι → String → Except Misuse α
  operand : α → String → Except Misuse α

def Stop.ofMisuse {α : Type} : Except Misuse α → Except Stop α :=
  Except.mapError .misuse

/-- **Read the arguments of a command** from left to right. -/
def readArguments {ι α : Type} (reader : Reader ι α) : α → List String → Except Stop α
  | state, [] => .ok state
  | state, argument :: rest =>
    match pieceOf reader.forms argument with
    | .help => .error .help
    | .bad fault => .error (.misuse fault)
    | .separator => Stop.ofMisuse (rest.foldlM reader.operand state)
    | .operand => do
      readArguments reader (← Stop.ofMisuse (reader.operand state argument)) rest
    | .valued form value => do
      readArguments reader (← Stop.ofMisuse (reader.option state form.name value)) rest
    | .bare form =>
      if form.takesValue then
        match rest with
        | [] => .error (.misuse (.missingValue form.long))
        | value :: rest =>
          if looksLikeOption value then .error (.misuse (.missingValue form.long))
          else do
            readArguments reader (← Stop.ofMisuse (reader.option state form.name value)) rest
      else do
        readArguments reader (← Stop.ofMisuse (reader.option state form.name "")) rest

/-! ### Values -/

/-- **A number of at most 64 bits** in decimal digits, with or without a plus sign. -/
def numberOf? (text : String) : Option Nat :=
  let digits := match text.toList with
    | '+' :: rest => rest
    | letters => letters
  if digits ≠ [] && digits.all Char.isDigit && Decimal.valueOf 10 digits < Nat.pow 2 64 then
    some (Decimal.valueOf 10 digits)
  else none

/-- The value of an option that may be given once. -/
def once {α : Type} (option : String) (held : Option α) (value : α) :
    Except Misuse (Option α) :=
  match held with
  | none => .ok (some value)
  | some _ => .error (.repeatedOption option)

def pathOf (option value : String) : Except Misuse String :=
  if value = "" then .error (.emptyPath option) else .ok value

end CodeBlocks.CommandLine
