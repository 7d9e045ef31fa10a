/-! # Commands

The commands of the program with their arguments, and the flags that all of
them share.
-/

namespace ColumnFilter.CommandLine

inductive ConfigCommand
  | settings
  | path
deriving DecidableEq, Repr

inductive Command
  | parse (filter : String)
  | check (filter row : String)
  | scan (filter : String) (input keyColumn : Option String)
  | key (id : String)
  | config (command : Option ConfigCommand)
deriving DecidableEq, Repr

inductive Flag
  | verbose
  | quiet
  | json
  | noColor
deriving DecidableEq, Repr

/-- A command and the flags that were given with it at any level. -/
structure Invocation where
  command : Command
  flags : List Flag
deriving DecidableEq, Repr

def Invocation.has (i : Invocation) (f : Flag) : Bool := i.flags.contains f

/-- Why there is nothing to run. -/
inductive Refusal
  | unknownArgument
  | invalidSubcommand
  | missingSubcommand
  | missingArgument
  | missingValue
  | unexpectedValue
  | conflict
  | help
  | helpForNothing
  | version
deriving DecidableEq, Repr

/-- Whether the program was only asked about itself. -/
def Refusal.isRequest : Refusal → Bool
  | help | version => true
  | _ => false

end ColumnFilter.CommandLine
