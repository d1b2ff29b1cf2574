import Lineage.CommandLine.Catalogue
import Lineage.Display.ReportText
import Lineage.Introspection
import Lineage.Logbook
import Lineage.Settings

/-!
# CommandLine — the program as it is called

A call has arguments and surroundings: files, variables, modules and advertised plugins. It reads the options of the
program, loads the settings, opens the log, and runs one command on a type system of its own; its outcome is
what it writes and the number it exits with (`CommandLine.run`).

A description and the version are given before any settings are read; an unknown command is refused before, and arguments
of a known one after. What a command reports goes to the standard output on success, with warnings beside it, and
to the error output on failure. A cause that no part of the program expects ends it (`Outcome.failure`).
-/

set_option autoImplicit false

namespace Lineage

/-- What a call leaves: the exit number, what was written, and the cause that ended it early. -/
structure Outcome where
  exit : Nat
  out : String
  err : String
  failure : Option Failure

/-- What a call finds around it. The stamp stands for the moment of every log line. -/
structure Surroundings where
  tree : FileTree
  environment : Environment
  library : Library
  entryPoints : List EntryPoint
  stamp : String

namespace Outcome

/-- A text on the standard output. -/
def said (text : String) : Outcome := ⟨0, text, "", none⟩

/-- A misuse of a command. -/
def misused (c : Command) (m : Misuse) : Outcome := ⟨2, "", c.complaint m, none⟩

/-- A cause that ended the call; a faulty configuration file is told in one line. -/
def failed (f : Failure) : Outcome :=
  match f with
  | .invalidDocument _ _ => ⟨1, "", "Error: " ++ f.message ++ "\n", none⟩
  | f => ⟨1, "", "", some f⟩

end Outcome

namespace CommandLine

/-- What follows the parameters of a control sequence and its letter. -/
def afterParameters? : List Char → Option (List Char)
  | c :: r =>
    if c = ';' || c = '?' || c.isDigit then afterParameters? r
    else if c.isAlpha then some r
    else none
  | [] => none

/-- A text without its control sequences. The fuel bounds its length. -/
def withoutControls : Nat → List Char → List Char
  | 0, cs => cs
  | fuel + 1, cs => match cs with
    | '\x1b' :: '[' :: r => match afterParameters? r with
      | some r => withoutControls fuel r
      | none => '\x1b' :: withoutControls fuel ('[' :: r)
    | c :: r => c :: withoutControls fuel r
    | [] => []

/-- A line as it is written where no colours are shown. -/
def written (s : String) : String := String.ofList (withoutControls s.length s.toList) ++ "\n"

/-- A report as an outcome. -/
def emit (json : Bool) (r : Report) : Except Failure Outcome :=
  (r.format json).map fun text =>
    if r.ok then
      ⟨0, written text, if json then "" else String.join (r.warnings.map fun w => written ("WARNING: " ++ w)), none⟩
    else ⟨1, "", written text, none⟩

/-- The name of the type system of a call. -/
def systemName : String := "(command line)"

/-- The world with the type system of a call, made to the settings. -/
def withSystem (s : Settings) (entries : List EntryPoint) (w : World) : World :=
  w.addConfigured systemName s.types s.plugins none entries

/-- Runs a command on the type system of the call. -/
def perform (lib : Library) (name : String) (options : Given) (operands : List String) : Action Report :=
  match name, operands with
  | "check", [value, expression] => Introspection.check systemName value expression (options.values "--enum")
  | "inspect", [module] => Introspection.inspect lib module
  | _, operands => Introspection.describe (operands.headD "")

/-- The settings that the options of a call ask for; an option that is not given asks for nothing. -/
def flagsOf (g : Given) : List (String × Document) :=
  [("json_output", "--json"), ("verbose", "--verbose"), ("log_json", "--log-json")].filterMap fun f =>
    if g.has f.2 then some (f.1, .bool true) else none

/-- The settings of a call. -/
def settingsOf (s : Surroundings) (g : Given) : Except Failure Settings :=
  Settings.load s.tree s.environment (g.values "--config").getLast? none (flagsOf g)

/-- The description or the version, whichever is asked for first. -/
def answered? (c : Command) (g : Given) : Option Outcome :=
  (g.options.find? fun o => o.1 = "--help" || o.1 = "--version").map fun o =>
    .said (if o.1 = "--help" then c.help else Catalogue.program ++ ", version " ++ Catalogue.version ++ "\n")

/-- An outcome behind what was written to the log meanwhile. -/
def logged (s : Surroundings) (settings : Settings) (before after : World) (o : Outcome) : Outcome :=
  let log := (Logbook.initial.configure settings.verbose settings.logJson).recordAll s.stamp
    (after.records.drop before.records.length)
  { o with err := log.text ++ o.err }

/-- Runs a command with its arguments. -/
def runCommand (s : Surroundings) (settings : Settings) (name : String) (c : Command) (args : List String) (w : World) :
    Outcome × World :=
  match c.read args with
  | .error m => (.misused c m, w)
  | .ok g => match answered? c g with
    | some o => (o, w)
    | none => match c.operandsOf g.rest with
      | .error m => (.misused c m, w)
      | .ok operands =>
        let (r, after) := (perform s.library name g operands).run (withSystem settings s.entryPoints w)
        (logged s settings w after (match r.bind (emit settings.jsonOutput) with
          | .ok o => o
          | .error f => .failed f), after)

/-- Whether a name looks like an option: it is then read as one before it is refused as a command. -/
def looksLikeOption (name : String) : Bool :=
  match name.toList with
  | c :: _ => !c.isAlphanum
  | [] => false

/-- The refusal of a name that is no command. -/
def unknownCommand (name : String) (args : List String) : Outcome :=
  let refusal := Outcome.misused Catalogue.root
    (.unknownCommand name (Similarity.closest name (Catalogue.commands.map (·.1))))
  if looksLikeOption name then
    match Catalogue.root.read (name :: args) with
    | .error m => .misused Catalogue.root m
    | .ok g => (answered? Catalogue.root g).getD refusal
  else refusal

/-- Runs the program. -/
def run (s : Surroundings) (args : List String) (w : World) : Outcome × World :=
  match Catalogue.root.read args with
  | .error m => (.misused Catalogue.root m, w)
  | .ok g => match answered? Catalogue.root g, g.rest with
    | some o, _ => (o, w)
    | none, [] => match settingsOf s g with
      | .error f => (.failed f, w)
      | .ok _ => (.said Catalogue.root.help, w)
    | none, name :: args => match Fields.get? Catalogue.commands name with
      | none => (unknownCommand name args, w)
      | some c => match settingsOf s g with
        | .error f => (.failed f, w)
        | .ok settings => runCommand s settings name c args w

end CommandLine

end Lineage
