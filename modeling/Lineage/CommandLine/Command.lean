import Lineage.CommandLine.Misuse
import Lineage.Text.Similarity

/-!
# Command — options and arguments, and how they are read

A command has options, each with a long name, perhaps a short one, and perhaps a value, and a number of arguments by name.
`Command.read` reads what it is given one after the other: options wherever they stand, up to two dashes
alone; a group of commands stops at the first that is no option. Short options may be written together, and a value may
be attached to its option or follow it.

`Command.help` and `Command.usage` are the texts that describe a command.
-/

set_option autoImplicit false

namespace Lineage

/-- An option: its names, the mark of its value if it takes one, and what it is for. -/
structure Switch where
  short : Option Char
  long : String
  metavar : Option String
  help : String

/-- A command that has arguments, or a group that has commands with a line about each. -/
inductive Operands where
  | arguments (names : List String)
  | commands (lines : List (String × String))

/-- A command: how it is called, what it does, and what it takes. -/
structure Command where
  path : String
  about : String
  switches : List Switch
  operands : Operands

/-- What a command was given: its options in their order, with their values, and the rest. -/
structure Given where
  options : List (String × Option String)
  rest : List String

namespace Command

/-! ## Texts -/

/-- What may follow the options. -/
def operandText (c : Command) : String :=
  match c.operands with
  | .arguments ns => String.join (ns.map (" " ++ ·))
  | .commands _ => " [COMMAND] [ARGS]..."

/-- The line that shows how a command is called. -/
def usage (c : Command) : String := "Usage: " ++ c.path ++ " [OPTIONS]" ++ c.operandText

/-- The names of an option and the mark of its value. -/
def switchText (s : Switch) : String :=
  let short := match s.short with
    | some n => String.ofList ['-', n] ++ ", "
    | none => ""
  short ++ s.long ++ s.metavar.elim "" (" " ++ ·)

/-- Two columns, the second of which starts two blanks behind the widest entry of the first. -/
def columns (rows : List (String × String)) : String :=
  let width := (rows.map fun r => r.1.length).foldl max 0 + 2
  String.join (rows.map fun r =>
    "  " ++ r.1 ++ String.ofList (List.replicate (width - r.1.length) ' ') ++ r.2 ++ "\n")

/-- The description of a command. -/
def help (c : Command) : String :=
  let commands := match c.operands with
    | .arguments _ => ""
    | .commands rows => "\nCommands:\n" ++ columns rows
  c.usage ++ "\n\n  " ++ c.about ++ "\n\nOptions:\n" ++ columns (c.switches.map fun s => (switchText s, s.help)) ++ commands

/-- How a misuse of a command is told. -/
def complaint (c : Command) (m : Misuse) : String :=
  (if m.showsUsage then c.usage ++ "\nTry '" ++ c.path ++ " --help' for help.\n\n" else "") ++ "Error: " ++ m.message ++ "\n"

/-! ## Reading -/

/-- Whether a command is a group, which stops at the first argument that is no option. -/
def isGroup (c : Command) : Bool :=
  match c.operands with
  | .arguments _ => false
  | .commands _ => true

/-- The option with a long name. -/
def long? (c : Command) (name : String) : Option Switch := c.switches.find? (·.long = name)

/-- The option with a short name. -/
def short? (c : Command) (name : Char) : Option Switch := c.switches.find? (·.short = some name)

/-- An option that was met under a name, with the value that is attached to it or that follows. -/
def take (s : Switch) (name : String) (attached : Option String) (rest : List String) :
    Except Misuse ((String × Option String) × List String) :=
  match s.metavar, attached, rest with
  | none, none, rest => .ok ((s.long, none), rest)
  | none, some _, _ => .error (.unwantedValue name)
  | some _, some v, rest => .ok ((s.long, some v), rest)
  | some _, none, v :: rest => .ok ((s.long, some v), rest)
  | some _, none, [] => .error (.missingValue name)

/-- Short options that are written together. -/
def readShorts (c : Command) : List Char → List String → Except Misuse (List (String × Option String) × List String)
  | [], rest => .ok ([], rest)
  | n :: ns, rest =>
    let name := String.ofList ['-', n]
    match c.short? n with
    | none => .error (.unknownOption name [])
    | some s =>
      if s.metavar.isSome then
        (take s name (if ns.isEmpty then none else some (String.ofList ns)) rest).map fun p => ([p.1], p.2)
      else do
        let (more, rest) ← readShorts c ns rest
        return ((s.long, none) :: more, rest)

/-- The part before the first equals sign, and what is behind it if there is one. -/
def cutEquals (cs : List Char) : String × Option String :=
  match cs.dropWhile (· ≠ '=') with
  | [] => (String.ofList cs, none)
  | _ :: v => (String.ofList (cs.takeWhile (· ≠ '=')), some (String.ofList v))

/-- The options of one argument that starts with a dash. -/
def readOption (c : Command) (arg : String) (rest : List String) :
    Except Misuse (List (String × Option String) × List String) :=
  match arg.toList with
  | '-' :: '-' :: _ =>
    let (name, attached) := cutEquals arg.toList
    match c.long? name with
    | some s => (take s name attached rest).map fun p => ([p.1], p.2)
    | none => .error (.unknownOption name (Similarity.closest name (c.switches.map (·.long))))
  | cs => readShorts c (cs.drop 1) rest

/-- Whether an argument is read as options. -/
def isOption (arg : String) : Bool :=
  match arg.toList with
  | '-' :: _ :: _ => true
  | _ => false

/-- The options and the rest of arguments. The fuel bounds their number. -/
def readFrom (c : Command) : Nat → List String → Except Misuse Given
  | 0, args => .ok ⟨[], args⟩
  | _, [] => .ok ⟨[], []⟩
  | fuel + 1, arg :: rest =>
    if arg = "--" then .ok ⟨[], rest⟩
    else if isOption arg then do
      let (options, rest) ← readOption c arg rest
      let g ← readFrom c fuel rest
      return { g with options := options ++ g.options }
    else if c.isGroup then .ok ⟨[], arg :: rest⟩
    else (readFrom c fuel rest).map fun g => { g with rest := arg :: g.rest }

/-- The options and the rest of arguments. -/
def read (c : Command) (args : List String) : Except Misuse Given := readFrom c args.length args

/-- The arguments of a command, each of them given and no more. -/
def operandsOf (c : Command) (rest : List String) : Except Misuse (List String) :=
  match c.operands with
  | .commands _ => .ok rest
  | .arguments names =>
    match names.drop rest.length, rest.drop names.length with
    | n :: _, _ => .error (.missingArgument n)
    | [], [] => .ok rest
    | [], more => .error (.extraArguments more)

end Command

namespace Given

/-- Whether an option was given. -/
def has (g : Given) (long : String) : Bool := g.options.any (·.1 = long)

/-- The values of an option, in their order. -/
def values (g : Given) (long : String) : List String := (g.options.filter (·.1 = long)).filterMap (·.2)

end Given

end Lineage
