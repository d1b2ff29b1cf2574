import Lineage.CommandLine.Command

/-!
# Catalogue — the commands of the program
-/

set_option autoImplicit false

namespace Lineage.Catalogue

/-- The name of the program. -/
def program : String := "offspring"

/-- The version of the program. -/
def version : String := "1.0.0"

/-- The option that asks for a description. -/
def helpSwitch : Switch := ⟨none, "--help", none, "Show this message and exit."⟩

/-- Names the type of a value. -/
def typeCommand : Command :=
  ⟨program ++ " type", "Print the type name of VALUE (a Python literal, else a string).", [helpSwitch], .arguments ["VALUE"]⟩

/-- Holds a value against a type expression. -/
def checkCommand : Command :=
  ⟨program ++ " check", "Check VALUE against EXPRESSION, e.g. 'string|number'. Exits 1 on mismatch.",
    [⟨none, "--enum", some "NAME=KEY:VALUE,...", "Define an enum usable in EXPRESSION. Repeatable."⟩, helpSwitch],
    .arguments ["VALUE", "EXPRESSION"]⟩

/-- Lists what a module exports. -/
def inspectCommand : Command :=
  ⟨program ++ " inspect", "Import MODULE and list its classes (membership, fields) and enums.", [helpSwitch],
    .arguments ["MODULE"]⟩

/-- The program itself. -/
def root : Command :=
  ⟨program, "offspring: class and type checking utilities.",
    [⟨none, "--version", none, "Show the version and exit."⟩,
      ⟨none, "--json", none, "Structured JSON output."⟩,
      ⟨some 'v', "--verbose", none, "Debug logging to stderr."⟩,
      ⟨none, "--log-json", none, "Structured JSON log output to stderr."⟩,
      ⟨some 'c', "--config", some "TEXT", "Override config file path."⟩,
      helpSwitch],
    .commands [("check", "Check VALUE against EXPRESSION, e.g."),
      ("inspect", "Import MODULE and list its classes (membership, fields) and enums."),
      ("type", "Print the type name of VALUE (a Python literal, else a string).")]⟩

/-- The commands by name. -/
def commands : List (String × Command) :=
  [("check", checkCommand), ("inspect", inspectCommand), ("type", typeCommand)]

end Lineage.Catalogue
