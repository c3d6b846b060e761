/-
**Requests.**

The first argument is the command, and the others are for the command.

Main definitions:

* `CodeBlocks.CommandLine.Request` — what the user can ask for;
* `CodeBlocks.CommandLine.Shell` — the shells that completions can be made for;
* `CodeBlocks.CommandLine.Request.ofArguments` — **the request that some arguments make.**
-/
import CodeBlocks.CommandLine.Option
import CodeBlocks.Generation
import CodeBlocks.Manifest.Reading

set_option relaxedAutoImplicit false
set_option autoImplicit false

namespace CodeBlocks.CommandLine

/-! ### Requests -/

inductive Shell where
  | bash
  | elvish
  | fish
  | powershell
  | zsh
deriving DecidableEq, Repr

def Shell.ofName? : String → Option Shell
  | "bash" => some bash
  | "elvish" => some elvish
  | "fish" => some fish
  | "powershell" => some powershell
  | "zsh" => some zsh
  | _ => none

inductive Command where
  | render
  | check
  | completions
  | help
deriving DecidableEq, Repr

def Command.ofName? : String → Option Command
  | "render" => some render
  | "check" => some check
  | "completions" => some completions
  | "help" => some help
  | _ => none

/-- **What the user can ask for.** -/
inductive Request where
  | render (config : String) (order : Order)
  | check (config : String)
  | completions (shell : Shell)
  | help (topic : Option Command)
  | version
deriving DecidableEq, Repr

def noOperand {α : Type} (_ : α) (text : String) : Except Misuse α :=
  .error (.unexpectedOperand text)

/-! ### Rendering -/

inductive RenderOption where
  | config
  | block
  | indent
  | output
  | noClobber
deriving DecidableEq, Repr

/-- What is known about an order while it is read. -/
structure RenderDraft where
  config : Option String := none
  blocks : List String := []
  level : Option Nat := none
  output : Option String := none
  noClobber : Option Unit := none

def RenderDraft.with (draft : RenderDraft) (option : RenderOption) (value : String) :
    Except Misuse RenderDraft :=
  match option with
  | .config => do
    let config ← once "config" draft.config (← pathOf "config" value)
    return { draft with config }
  | .block => return { draft with blocks := draft.blocks ++ [value] }
  | .indent =>
    match numberOf? value with
    | none => throw (.badNumber "indent" value)
    | some number => do
      let level ← once "indent" draft.level number
      return { draft with level }
  | .output => do
    let output ← once "output" draft.output (← pathOf "output" value)
    return { draft with output }
  | .noClobber => do
    let noClobber ← once "no-clobber" draft.noClobber ()
    return { draft with noClobber }

def renderReader : Reader RenderOption RenderDraft where
  forms :=
    [{ name := .config, long := "config", short := some 'c' },
     { name := .block, long := "block", short := some 'b' },
     { name := .indent, long := "indent" },
     { name := .output, long := "output", short := some 'o' },
     { name := .noClobber, long := "no-clobber", takesValue := false }]
  option := RenderDraft.with
  operand := noOperand

def RenderDraft.request (draft : RenderDraft) : Except Misuse Request :=
  if draft.noClobber.isSome && draft.output.isNone then
    .error (.optionNeeds "no-clobber" "output")
  else
    .ok (.render (draft.config.getD manifestFile)
      { blocks := draft.blocks
        level := draft.level
        output := draft.output
        noClobber := draft.noClobber.isSome })

/-! ### The other commands -/

/-- How the arguments for checking are read.  The state is the path of the manifest. -/
def checkReader : Reader Unit (Option String) where
  forms := [{ name := (), long := "config", short := some 'c' }]
  option config _ value := do once "config" config (← pathOf "config" value)
  operand := noOperand

/-- How the arguments for completions are read.  The state is the shell. -/
def completionsReader : Reader Empty (Option Shell) where
  forms := []
  option _ none _ := nomatch none
  operand shell text :=
    match shell, Shell.ofName? text with
    | some _, _ => .error (.unexpectedOperand text)
    | none, none => .error (.unknownShell text)
    | none, some named => .ok (some named)

/-- The request for help on a command.  No command has commands of its own. -/
def helpRequest : List String → Except Misuse Request
  | [] => .ok (.help none)
  | name :: rest =>
    match Command.ofName? name, rest with
    | none, _ => .error (.unknownCommand name)
    | some command, [] => .ok (.help (some command))
    | some _, other :: _ => .error (.unknownCommand other)

/-! ### All of them -/

/-- The request of a command with its arguments.  A wish for help on the way is for help on that
command. -/
def Command.request (command : Command) (arguments : List String) : Except Stop Request :=
  match command with
  | .render => do
    let draft ← readArguments renderReader {} arguments
    Stop.ofMisuse draft.request
  | .check => do
    let config ← readArguments checkReader none arguments
    return .check (config.getD manifestFile)
  | .completions => do
    match ← readArguments completionsReader none arguments with
    | some shell => return .completions shell
    | none => throw (.misuse .noShell)
  | .help => Stop.ofMisuse (helpRequest arguments)

/-- What an argument in front of any command asks for. -/
def stopOf (argument : String) : Stop :=
  match argument.toList with
  | '-' :: 'h' :: _ => .help
  | '-' :: 'V' :: _ => .version
  | '-' :: _ :: _ =>
    if argument = "--help" then .help
    else if argument = "--version" then .version
    else .misuse (.unknownOption argument)
  | _ => .misuse (.unknownCommand argument)

/-- **The request that some arguments make.** -/
def Request.ofArguments : List String → Except Misuse Request
  | [] => .error .noCommand
  | first :: rest =>
    let topic := Command.ofName? first
    let outcome := match topic with
      | some command => command.request rest
      | none => .error (stopOf first)
    match outcome with
    | .ok request => .ok request
    | .error .help => .ok (.help topic)
    | .error .version => .ok .version
    | .error (.misuse fault) => .error fault

end CodeBlocks.CommandLine
