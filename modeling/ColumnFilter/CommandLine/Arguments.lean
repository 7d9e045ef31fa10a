import ColumnFilter.CommandLine.Command

/-! # Reading arguments

Arguments are read level by level, a subcommand opening the next level with all
arguments that follow it. The value of an option is entered only when the next
argument is taken up or the level ends, so that a fault in it comes after an
unknown argument right behind it. A level is checked as a whole after the
levels below it.
-/

namespace ColumnFilter.CommandLine

inductive Level
  | top
  | parse
  | check
  | scan
  | key
  | config
  | settings
  | configPath
  | help
deriving DecidableEq, Repr

namespace Level

def subcommand? : Level → String → Option Level
  | top, "parse" | top, "p" => some parse
  | top, "check" | top, "c" => some check
  | top, "scan" | top, "s" => some scan
  | top, "key" | top, "k" => some key
  | top, "config" => some config
  | config, "show" => some settings
  | config, "path" => some configPath
  | top, "help" | config, "help" => some help
  | _, _ => none

def hasSubcommands : Level → Bool
  | top | config => true
  | _ => false

/-- Whether one argument stands without an option at this level. -/
def takesOperand : Level → Bool
  | parse | check | scan | key => true
  | _ => false

end Level

/-- Options that take a value. -/
inductive ValueOption
  | row
  | input
  | keyColumn
deriving DecidableEq, Repr

/-- What an option is, with or without a value. -/
inductive OptionKind
  | flag (f : Flag)
  | value (o : ValueOption)
  | help
  | version
deriving DecidableEq, Repr

/-- The options that are written with two dashes. -/
def longOption? : Level → String → Option OptionKind
  | _, "verbose" => some (.flag .verbose)
  | _, "quiet" => some (.flag .quiet)
  | _, "json" => some (.flag .json)
  | _, "no-color" => some (.flag .noColor)
  | _, "help" => some .help
  | _, "version" => some .version
  | .check, "row" => some (.value .row)
  | .scan, "input" => some (.value .input)
  | .scan, "key-column" => some (.value .keyColumn)
  | _, _ => none

/-- The options that are one letter behind one dash. -/
def shortOption? : Level → Char → Option OptionKind
  | _, 'v' => some (.flag .verbose)
  | _, 'q' => some (.flag .quiet)
  | _, 'h' => some .help
  | _, 'V' => some .version
  | .check, 'r' => some (.value .row)
  | .scan, 'i' => some (.value .input)
  | _, _ => none

/-- What has been read at a level. -/
structure Seen where
  flags : List Flag := []
  values : List (ValueOption × String) := []
  operand : Option String := none
  /-- An option that is not entered yet, with its value once that has been read. -/
  pending : Option (ValueOption × Option String) := none
  /-- Whether two dashes alone have ended the options. -/
  trailing : Bool := false
deriving DecidableEq, Repr

namespace Seen

def value? (s : Seen) (o : ValueOption) : Option String :=
  (s.values.find? fun e => e.1 = o).map (·.2)

/-- Enters a value. No option is given twice, and the path of a file is not empty. -/
def enter (s : Seen) (o : ValueOption) (v : String) : Except Refusal Seen :=
  if (s.value? o).isSome then .error .conflict
  else if o = .input ∧ v = "" then .error .missingValue
  else .ok { s with values := s.values ++ [(o, v)] }

/-- Enters the pending option. -/
def settle (s : Seen) : Except Refusal Seen :=
  match s.pending with
  | none => .ok s
  | some (_, none) => .error .missingValue
  | some (o, some v) => enter { s with pending := none } o v

def setFlag (s : Seen) (f : Flag) : Except Refusal Seen :=
  if f ∈ s.flags then .error .conflict else .ok { s with flags := s.flags ++ [f] }

/-- Takes an option that takes no value. -/
def take (s : Seen) (kind : OptionKind) : Except Refusal Seen := do
  let s ← s.settle
  match kind with
  | .flag f => s.setFlag f
  | .value o => return { s with pending := some (o, none) }
  | .help => .error .help
  | .version => .error .version

/-- Takes an option whose value is attached to it. -/
def takeWith (s : Seen) (o : ValueOption) (v : String) : Except Refusal Seen := do
  (← s.settle).enter o v

/-- Takes an argument behind two dashes, of the given name and attached value. -/
def takeLong (level : Level) (s : Seen) (name : String) (value : Option String) :
    Except Refusal Seen :=
  match longOption? level name, value with
  | none, _ => .error .unknownArgument
  | some (.value o), some v => s.takeWith o v
  | some kind, none => s.take kind
  | some _, some _ => .error .unexpectedValue

/-- Takes the letters behind one dash. What follows the letter of an option with a value is the
value, an equals sign between them not counting. -/
def takeShorts (level : Level) (s : Seen) : List Char → Except Refusal Seen
  | [] => .ok s
  | c :: rest =>
    match shortOption? level c, rest with
    | none, _ => .error .unknownArgument
    | some (.value o), '=' :: v => s.takeWith o (String.ofList v)
    | some (.value o), c :: v => s.takeWith o (String.ofList (c :: v))
    | some kind, rest => do takeShorts level (← s.take kind) rest

/-- The refusal of an argument for which there is no place. -/
def refuse (level : Level) (s : Seen) (arg : String) : Refusal :=
  if s.trailing ∧ (level.subcommand? arg).isSome then .unknownArgument
  else if level.hasSubcommands then .invalidSubcommand
  else .unknownArgument

/-- Takes an argument that belongs to no option. -/
def takeOperand (level : Level) (s : Seen) (arg : String) : Except Refusal Seen :=
  if level.takesOperand ∧ s.operand = none then do
    return { (← s.settle) with operand := some arg }
  else .error (s.refuse level arg)

/-- Takes an argument that is not a subcommand. -/
def takeArgument (level : Level) (s : Seen) (arg : String) : Except Refusal Seen :=
  if s.trailing then s.takeOperand level arg
  else
    match arg.toList with
    | ['-', '-'] => .ok { s with trailing := true }
    | '-' :: '-' :: rest =>
      let name := String.ofList (rest.takeWhile (· ≠ '='))
      match rest.dropWhile (· ≠ '=') with
      | [] => s.takeLong level name none
      | _ :: value => s.takeLong level name (some (String.ofList value))
    | '-' :: c :: rest => s.takeShorts level (c :: rest)
    | _ =>
      match s.pending with
      | some (o, none) => .ok { s with pending := some (o, some arg) }
      | _ => s.takeOperand level arg

/-- A level that lacks nothing and has no two flags that exclude each other. -/
def check (level : Level) (s : Seen) : Except Refusal Unit :=
  if .quiet ∈ s.flags ∧ .verbose ∈ s.flags then .error .conflict
  else if level.takesOperand ∧ s.operand = none then .error .missingArgument
  else if level = .check ∧ s.value? .row = none then .error .missingArgument
  else .ok ()

/-- The command that a level without a subcommand stands for. -/
def command (level : Level) (s : Seen) : Except Refusal Command :=
  let operand := s.operand.getD ""
  match level with
  | .top => .error (if s.flags = [] then .helpForNothing else .missingSubcommand)
  | .help => .error .help
  | .parse => .ok (.parse operand)
  | .check => .ok (.check operand ((s.value? .row).getD ""))
  | .scan => .ok (.scan operand (s.value? .input) (s.value? .keyColumn))
  | .key => .ok (.key operand)
  | .config => .ok (.config none)
  | .settings => .ok (.config (some .settings))
  | .configPath => .ok (.config (some .path))

end Seen

/-- The answer to a request for help on the subcommand that the names lead to. -/
def helpOn (level : Level) : List String → Refusal
  | [] => .help
  | name :: rest =>
    match level.subcommand? name with
    | some next => helpOn next rest
    | none => .invalidSubcommand

/-- Reads the arguments of a level and of the levels below it. -/
def readLevel (level : Level) (s : Seen) : List String → Except Refusal Invocation
  | [] => do
    let s ← s.settle
    let command ← s.command level
    s.check level
    return ⟨command, s.flags⟩
  | arg :: rest =>
    match if s.trailing then none else level.subcommand? arg with
    | some .help => .error (helpOn level rest)
    | some next => do
      let below ← readLevel next {} rest
      s.check level
      return { below with flags := s.flags ++ below.flags }
    | none => do readLevel level (← s.takeArgument level arg) rest

def parse (args : List String) : Except Refusal Invocation := readLevel .top {} args

end ColumnFilter.CommandLine
