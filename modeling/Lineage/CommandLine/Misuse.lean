import Lineage.Text.Quoted

/-!
# Misuse — arguments that cannot be read

A misuse is told with the usage of the command it was made with, except for a value that is missing or too much: that is
told alone.
-/

set_option autoImplicit false

namespace Lineage

/-- What is wrong with the arguments of a command. -/
inductive Misuse where
  | unknownOption (name : String) (close : List String)
  | unknownCommand (name : String) (close : List String)
  | missingArgument (name : String)
  | extraArguments (args : List String)
  | missingValue (name : String)
  | unwantedValue (name : String)
deriving DecidableEq, Repr

namespace Misuse

/-- The hint at names that may have been meant. -/
def hint (close : List String) : String :=
  let names := (close.mergeSort fun a b => !decide (b < a)).map Text.quote
  match names with
  | [] => ""
  | [n] => " Did you mean " ++ n ++ "?"
  | ns => " (Did you mean one of: " ++ String.intercalate ", " ns ++ "?)"

/-- The wording of a misuse. -/
def message : Misuse → String
  | unknownOption n close => "No such option " ++ Text.quote n ++ "." ++ hint close
  | unknownCommand n close => "No such command " ++ Text.quote n ++ "." ++ hint close
  | missingArgument n => "Missing argument '" ++ n ++ "'."
  | extraArguments [a] => "Got unexpected extra argument (" ++ a ++ ")"
  | extraArguments as => "Got unexpected extra arguments (" ++ String.intercalate " " as ++ ")"
  | missingValue n => "Option " ++ Text.quote n ++ " requires an argument."
  | unwantedValue n => "Option " ++ Text.quote n ++ " does not take a value."

/-- Whether a misuse is told with the usage of the command. -/
def showsUsage : Misuse → Bool
  | missingValue _ | unwantedValue _ => false
  | _ => true

end Misuse

end Lineage
