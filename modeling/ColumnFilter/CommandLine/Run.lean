import ColumnFilter.CommandLine.Arguments
import ColumnFilter.CommandLine.Failure
import ColumnFilter.Condition.Parser
import ColumnFilter.Condition.Table

/-! # Running commands

A run is a function of the arguments and of the world: the environment, the
files and the standard input. It reads the configuration first, then the
filter, then the rows, and what fails first is reported alone.
-/

namespace ColumnFilter.CommandLine

/-- The variables of the environment that count. -/
structure Environment where
  /-- `RF_CONFIG`, the path of the configuration. -/
  configFile : Option String
  /-- `XDG_CONFIG_HOME`, the directory of configurations. -/
  configHome : Option String
  home : Option String
  /-- Whether `NO_COLOR` is set, to whatever value. -/
  noColor : Bool
deriving DecidableEq, Repr

/-- A path below another one. -/
def joinPath (base name : String) : String :=
  match base.toList.getLast? with
  | none => name
  | some c => if c = '/' then base ++ name else base ++ "/" ++ name

/-- Where the configuration is. -/
def Environment.configPath? (e : Environment) : Option String :=
  match e.configFile, e.configHome, e.home with
  | some path, _, _ => some path
  | none, some base, _ => some (joinPath (joinPath base "rf") "config.toml")
  | none, none, some home =>
    some (joinPath (joinPath (joinPath home ".config") "rf") "config.toml")
  | none, none, none => none

structure World where
  environment : Environment
  file : String → File
  input : List UInt8

structure Context where
  json : Bool
  colors : Bool
  quiet : Bool
  keyColumn : String
deriving DecidableEq, Repr

/-- What flags and configuration come to; a flag that is given wins. -/
def Context.of (i : Invocation) (e : Environment) (config : Config) : Context where
  json := i.has .json || config.json.getD false
  colors := !i.has .noColor && config.color.getD true && !e.noColor
  quiet := i.has .quiet
  keyColumn := config.keyColumnName

variable (w : World) (ctx : Context)

def parseFilter (filter : String) : Except Failure Condition :=
  (Condition.parse filter).mapError .filter

/-- An object whose members are in the order of their names. -/
def sorted (members : List (String × Json)) : Json := .object (Record.ofList members).entries

def printed (v : Json) : String := v.pretty ++ "\n"

def runParse (filter : String) : Except Failure String := do
  let c ← parseFilter filter
  return if ctx.json then printed c.toJson
    else if ctx.quiet then ""
    else c.table ctx.colors

def conditionObject (c : Condition) : Json :=
  match c.toJson with
  | .object members => sorted members
  | v => v

/-- A verdict, green or red in colours. -/
def verdictText (passed : Bool) : String :=
  let text := toString passed
  (if ctx.colors then styled (if passed then "32" else "31") "39" text else text) ++ "\n"

def runCheck (filter row : String) : Except Failure String := do
  let c ← parseFilter filter
  let cells ← (Row.parse row).mapError .ofRow
  let passed := c.passes cells
  return if ctx.json then
      printed (.object
        [("column", .string c.column), ("filter", conditionObject c), ("passed", .boolean passed),
          ("present", .boolean (cells.has c.column))])
    else verdictText ctx passed

/-- The bytes that a scan reads. -/
def scanInput (input : Option String) : Except Failure (List UInt8) :=
  match input with
  | none => .ok w.input
  | some path => (w.file path).content.mapError .file

def keyedRowObject (r : KeyedRow) : Json :=
  .object [("key", .string r.key.text),
    ("row", .object (r.cells.entries.map fun (column, text) => (column, .string text)))]

def runScan (filter : String) (input keyColumn : Option String) : Except Failure String := do
  let c ← parseFilter filter
  let bytes ← scanInput w input
  let rows ← (Scan.run c (keyColumn.getD ctx.keyColumn) bytes).mapError .ofScan
  return if ctx.json then printed (.array (rows.map keyedRowObject))
    else String.join (rows.map fun r => r.key.text ++ "\n")

def runKey (id : String) : String :=
  let key := (RowKey.ofIdentifier id).text
  if ctx.json then printed (.object [("id", .string id), ("key", .string key)]) else key ++ "\n"

def heading : String :=
  let text := "Configuration"
  if ctx.colors then styled "1" "0" (styled "32" "39" text) else text

def settingLine (name : String) : Option Bool → String
  | some b => "  " ++ name ++ ": " ++ toString b ++ "\n"
  | none => ""

def runSettings (config : Config) (path : String) (file : File) : String :=
  if ctx.json then
    printed (.object [("config", config.toJson), ("exists", .boolean file.exist),
      ("path", .string path)])
  else if ctx.quiet then ""
  else
    heading ctx ++ "\n\nFile: " ++ path ++ "\nExists: " ++ toString file.exist
      ++ "\n\n[output]\n" ++ settingLine "color" config.color ++ settingLine "json" config.json
      ++ "\n[scan]\n  key_column: " ++ config.keyColumnName ++ "\n"

def runPath (path : String) (file : File) : String :=
  if ctx.json then
    printed (.object [("exists", .boolean file.exist), ("path", .string path)])
  else path ++ "\n"

/-- What a command prints on standard output. -/
def perform (i : Invocation) : Except Failure String := do
  let path ← match w.environment.configPath? with
    | some path => .ok path
    | none => .error (.config .noPath)
  let config ← (Config.load (w.file path)).mapError .config
  let ctx := Context.of i w.environment config
  match i.command with
  | .parse filter => runParse ctx filter
  | .check filter row => runCheck ctx filter row
  | .scan filter input keyColumn => runScan w ctx filter input keyColumn
  | .key id => return runKey ctx id
  | .config none | .config (some .settings) =>
    return runSettings ctx config path (w.file path)
  | .config (some .path) => return runPath ctx path (w.file path)

structure Outcome where
  exit : Nat
  output : String
  report : String
deriving DecidableEq, Repr

def Invocation.run (i : Invocation) : Outcome :=
  match perform w i with
  | .ok output => ⟨0, output, ""⟩
  | .error f => ⟨f.exitCode, "", f.report (i.has .json)⟩

def versionText : String := "rf 0.1.0\n"

def usage : String := "Usage: rf [OPTIONS] <COMMAND>\n"

/-- What is printed for arguments that name nothing to run. -/
def Refusal.outcome : Refusal → Outcome
  | .version => ⟨0, versionText, ""⟩
  | .help => ⟨0, usage, ""⟩
  | _ => ⟨2, "", usage⟩

def run (args : List String) : Outcome :=
  match parse args with
  | .ok i => i.run w
  | .error r => r.outcome

end ColumnFilter.CommandLine
